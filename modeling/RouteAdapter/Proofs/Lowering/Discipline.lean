import RouteAdapter.Proofs.Format.Code
import RouteAdapter.Proofs.Lowering.Operations
import RouteAdapter.Proofs.Machine.Depth

/-!
# Stack discipline

Operations that raise the stack from one depth to another, without missing an operand and without
passing the bound of the verifier on the way, are lowered to instructions that do the same. A class
whose units raise the empty stack to one value and return it is lowered to a module that passes
verification, whether lowering checks it or not.

* `Op.Raises.checkDepth`, `Op.Raises.depthAt`: the depth check of lowered operations, and what it
  tracks;
* `AdapterUnit.Lowered.verify`: the function of a disciplined unit;
* `EmittedClass.verify_assemble`: the module of a class of disciplined units.
-/

namespace RouteAdapter
open Verify

namespace Op

def pops : Op → Nat
  | loadContext | literal _ => 0
  | accessor a => a.arity.toNat + 1
  | controller m => m.argCount.toNat
  | convert _ _ | pushNoContent | box _ | ret => 1

/-- The operations run from one depth to another, none of them a return. -/
inductive Raises : Nat → List Op → Nat → Prop
  | nil (depth : Nat) : Raises depth [] depth
  | cons {depth after last : Nat} {op : Op} {ops : List Op} (goesOn : op ≠ .ret)
      (enough : op.pops ≤ depth) (total : after + op.pops = depth + 1) (bounded : after ≤ maxDepth)
      (rest : Raises after ops last) : Raises depth (op :: ops) last

theorem Raises.append {depth middle last : Nat} {ops more : List Op}
    (first : Raises depth ops middle) (second : Raises middle more last) :
    Raises depth (ops ++ more) last := by
  induction first with
  | nil => exact second
  | cons goesOn enough total bounded _ ih => exact .cons goesOn enough total bounded (ih second)

variable {m : Module} {op : Op} {ops : List Op} {i : Located} {body : List Located}

theorem Lowered.pops (lowered : op.Lowered m.tables i.instruction) :
    Verify.pops m i.instruction = op.pops := by
  obtain ⟨offset, instruction⟩ := i
  cases lowered with
  | @accessor a index entry =>
      have found : m.accessors[index.toNat]? = some a := entry
      simp only [Verify.pops, found, Option.elim_some, Op.pops, Nat.add_comm]
  | _ => rfl

theorem Lowered.eq_ret {t : Tables} {instruction : Instruction}
    (lowered : op.Lowered t instruction) :
    instruction = .ret ↔ op = .ret := by
  cases lowered <;> simp

theorem Lowered.checkRef {f : Function} (context : f.paramCount ≠ 0)
    (lowered : op.Lowered m.tables i.instruction) : checkRef f m i = .ok () := by
  obtain ⟨offset, instruction⟩ := i
  cases lowered with
  | loadContext => exact if_neg context
  | @literal s index entry =>
      obtain ⟨known, -⟩ := List.getElem?_eq_some_iff.mp entry
      exact if_pos known
  | @accessor a index entry =>
      have found : m.accessors[index.toNat]? = some a := entry
      simp only [Verify.checkRef, found, checkCount, ↓reduceIte]
  | @convert source target index entry =>
      obtain ⟨known, -⟩ := List.getElem?_eq_some_iff.mp entry
      exact if_pos known
  | @controller ref index entry =>
      have found : m.methods[index.toNat]? = some ref := entry
      simp only [Verify.checkRef, found, checkCount, ↓reduceIte]
  | pushNoContent => rfl
  | @box ty tag primitive =>
      have known := Ty.ofPrimitiveTag?_primitiveTag? primitive
      simp only [Verify.checkRef, known, Option.isSome_some, ↓reduceIte]
  | ret => rfl

theorem Lowered.stepDepth {depth after : Nat} (lowered : op.Lowered m.tables i.instruction)
    (goesOn : op ≠ .ret) (enough : op.pops ≤ depth) (total : after + op.pops = depth + 1)
    (bounded : after ≤ maxDepth) : stepDepth m depth i = .ok after := by
  have pops := lowered.pops
  have returns : i.instruction ≠ .ret := fun ret => goesOn (lowered.eq_ret.mp ret)
  have pushed : pushes i.instruction = 1 := by
    cases kind : i.instruction <;> first | rfl | exact absurd kind returns
  exact stepDepth_ok.mpr ⟨by omega, fun ret => absurd ret returns, bounded, by omega⟩

theorem Raises.checkDepth {depth last : Nat} {rest : List Located} (raises : Raises depth ops last)
    (lowered : List.Forall₂ (fun op i => op.Lowered m.tables i.instruction) ops body) :
    checkDepth m depth (body ++ rest) = Verify.checkDepth m last rest := by
  induction raises generalizing body with
  | nil =>
      cases lowered
      rfl
  | cons goesOn enough total bounded _ ih =>
      cases lowered with
      | cons first others =>
          rw [List.cons_append, Verify.checkDepth,
            first.stepDepth goesOn enough total bounded]
          exact ih others

theorem Raises.depthAt {depth last k : Nat} {rest : List Located} (raises : Raises depth ops last)
    (lowered : List.Forall₂ (fun op i => op.Lowered m.tables i.instruction) ops body) :
    depthAt m depth (body ++ rest) (ops.length + k) = Verify.depthAt m last rest k := by
  induction raises generalizing body with
  | nil =>
      cases lowered
      rw [List.length_nil, Nat.zero_add, List.nil_append]
  | cons goesOn enough total bounded _ ih =>
      cases lowered with
      | cons first others =>
          rw [List.cons_append, List.length_cons, Nat.add_right_comm, Verify.depthAt,
            first.stepDepth goesOn enough total bounded]
          exact ih others

end Op

/-! ## Units and classes -/

/-- The body raises the empty stack to one value and returns it. -/
def AdapterUnit.Disciplined (u : AdapterUnit) : Prop :=
  ∃ ops, u.ops = ops ++ [.ret] ∧ Op.Raises 0 ops 1

theorem Op.Raises.ne_ret {depth last : Nat} {ops : List Op} (raises : Raises depth ops last) :
    ∀ op ∈ ops, op ≠ .ret := by
  induction raises with
  | nil => simp
  | cons goesOn _ _ _ _ ih => exact List.forall_mem_cons.mpr ⟨goesOn, ih⟩

theorem AdapterUnit.Lowered.verify {m : Module} {u : AdapterUnit} {f : Function}
    (lowered : u.Lowered m.tables f) (disciplined : u.Disciplined) : f.verify m = .ok () := by
  obtain ⟨body, rfl, instructions⟩ := lowered
  obtain ⟨ops, whole, raises⟩ := disciplined
  rw [whole] at instructions
  have located := Code.forall₂_locate instructions 0
  refine Function.verify_ok.mpr ⟨_, Code.decode_encode body, fun i member => ?_, ?_⟩
  · obtain ⟨op, -, stands⟩ := exists_of_mem_forall₂_right located member
    exact stands.checkRef Nat.one_ne_zero
  · obtain ⟨before, after, split, front, back⟩ := exists_append_of_forall₂ located
    cases back with
    | @cons _ i _ rest last nothing =>
        cases nothing
        obtain ⟨offset, instruction⟩ := i
        obtain rfl : instruction = .ret := last.eq_ret.mpr rfl
        rw [split]
        refine ⟨?_, checkReturn_ok.mpr ⟨before, offset, rfl, fun i member => ?_⟩⟩
        · rw [raises.checkDepth front]
          rfl
        · obtain ⟨op, known, stands⟩ := exists_of_mem_forall₂_right front member
          exact fun returns => raises.ne_ret op known (stands.eq_ret.mp returns)

theorem Module.validateRoutes_ok {functions : Nat} {className : String} {routes : List Route} :
    validateRoutes functions className routes = .ok () ↔
      ∀ r ∈ routes, r.functionId < functions := by
  induction routes with
  | nil => simp [validateRoutes]
  | cons r routes ih =>
      rw [validateRoutes, List.forall_mem_cons, ← ih]
      split
      · rename_i known
        simp only [known, true_and]
      · rename_i dangling
        simp only [dangling, false_and, reduceCtorEq]

namespace EmittedClass

theorem validate_assemble {c : EmittedClass} {options : LowerOptions} {t : Tables}
    {functions : List Function} (count : c.units.length = functions.length) :
    (c.assemble options t functions).validate = .ok () := by
  have routes : Module.validateRoutes functions.length c.name c.classDef.methods = .ok () := by
    refine Module.validateRoutes_ok.mpr fun r member => ?_
    obtain ⟨i, bound, rfl⟩ := List.mem_mapIdx.mp member
    exact count ▸ bound
  have classes : Module.validateClasses functions.length [c.classDef] = .ok () := by
    rw [Module.validateClasses, show c.classDef.name = c.name from rfl, routes]
    rfl
  unfold Module.validate
  cases flagged : options.emitReflection <;>
    simp [assemble, Module.named, classes, flagged, count, bind, Except.bind, pure, Except.pure]

theorem verify_assemble {c : EmittedClass} {options : LowerOptions} {t : Tables}
    {functions : List Function} (lowered : List.Forall₂ (AdapterUnit.Lowered t) c.units functions)
    (disciplined : ∀ u ∈ c.units, u.Disciplined) :
    (c.assemble options t functions).verify = .ok () := by
  refine Module.verify_ok.mpr ⟨validate_assemble lowered.length_eq, fun f member => ?_⟩
  obtain ⟨u, known, unit⟩ := exists_of_mem_forall₂_right lowered member
  exact AdapterUnit.Lowered.verify (m := c.assemble options t functions) unit (disciplined u known)

end EmittedClass
end RouteAdapter
