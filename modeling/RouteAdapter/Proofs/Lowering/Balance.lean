import RouteAdapter.Proofs.Lowering.Totality
import RouteAdapter.Proofs.Machine.Balance

/-!
# Lowering balanced classes

Lowering fails on a box of a type that is not primitive. Otherwise, if it verifies, it accepts
exactly the classes all of whose units are balanced: references and counts are right by themselves,
and the depth that the verifier tracks is the sum of what the operations add to the stack.

* `AdapterUnit.lowerAll_error`: why units cannot be lowered;
* `AdapterUnit.Lowered.verify_iff`: which lowered units are verified;
* `EmittedClass.lower_balanced`: what becomes of a class.
-/

namespace RouteAdapter
open Verify

/-! ## Boxes -/

def Op.boxed? : Op → Option Ty
  | box ty => some ty
  | _ => none

theorem Op.lower_error {symbol : String} {t : Tables} {op : Op} {e : LowerError}
    (failed : op.lower symbol t = .error e) :
    ∃ ty, op = .box ty ∧ ¬ty.isPrimitive ∧ e = .notPrimitive symbol ty := by
  cases op with
  | box ty =>
      refine ⟨ty, rfl, fun primitive => ?_, ?_⟩
      · obtain ⟨tag, known⟩ := Ty.exists_primitiveTag primitive
        rw [Op.lower, known] at failed
        cases failed
      · rw [Op.lower] at failed
        split at failed
        · cases failed
        · cases failed
          rfl
  | _ => cases failed

theorem Op.lowerAll_error {symbol : String} {t : Tables} {ops : List Op} {e : LowerError}
    (failed : Op.lowerAll symbol t ops = .error e) :
    ∃ ty, .box ty ∈ ops ∧ ¬ty.isPrimitive ∧ e = .notPrimitive symbol ty := by
  induction ops generalizing t with
  | nil => cases failed
  | cons op ops ih =>
      simp only [Op.lowerAll, bind_eq_error] at failed
      obtain here | ⟨next, -, later | ⟨rest, -, whole⟩⟩ := failed
      · obtain ⟨ty, rfl, composite, blamed⟩ := Op.lower_error here
        exact ⟨ty, List.mem_cons_self, composite, blamed⟩
      · obtain ⟨ty, member, composite, blamed⟩ := ih later
        exact ⟨ty, List.mem_cons_of_mem op member, composite, blamed⟩
      · cases whole

theorem AdapterUnit.lowerAll_error {t : Tables} {units : List AdapterUnit} {e : LowerError}
    (failed : lowerAll t units = .error e) :
    ∃ u ∈ units, ∃ ty, .box ty ∈ u.ops ∧ ¬ty.isPrimitive ∧
      e = .notPrimitive u.target.symbol ty := by
  induction units generalizing t with
  | nil => cases failed
  | cons u units ih =>
      simp only [lowerAll, lower, bind_eq_error] at failed
      obtain (here | ⟨next, -, whole⟩) | ⟨next, -, later | ⟨rest, -, whole⟩⟩ := failed
      · exact ⟨u, List.mem_cons_self, Op.lowerAll_error here⟩
      · cases whole
      · obtain ⟨u', member, blamed⟩ := ih later
        exact ⟨u', List.mem_cons_of_mem u member, blamed⟩
      · cases whole

theorem Op.Lowered.boxable {t : Tables} {op : Op} {i : Instruction} (lowered : op.Lowered t i) :
    op.Boxable := by
  rintro ty rfl
  cases lowered with
  | box primitive => cases ty <;> first | rfl | cases primitive

theorem Op.boxable_iff {op : Op} : op.Boxable ↔ ∀ ty ∈ op.boxed?, ty.isPrimitive := by
  cases op <;> simp [Op.Boxable, Op.boxed?]

instance : DecidablePred Op.Boxable :=
  fun _ => decidable_of_iff _ Op.boxable_iff.symm

/-! ## Balance -/

def Op.stackUse : StackUse Op where
  returns op := op = .ret
  pops := Op.pops
  delta := Op.stackDelta

theorem Op.Lowered.alike {m : Module} {op : Op} {i : Located}
    (lowered : op.Lowered m.tables i.instruction) :
    StackUse.Alike Op.stackUse (Verify.stackUse m) op i := by
  refine ⟨lowered.eq_ret.symm, lowered.pops.symm, ?_⟩
  obtain ⟨offset, instruction⟩ := i
  simp only [Op.stackUse, Verify.stackUse, lowered.pops]
  cases lowered <;> simp only [Op.stackDelta, Op.pops, pushes] <;> omega

theorem AdapterUnit.Lowered.located {m : Module} {u : AdapterUnit} {f : Function}
    (lowered : u.Lowered m.tables f) :
    ∃ body, Code.decode f.code = .ok body ∧ f.paramCount ≠ 0 ∧
      List.Forall₂ (fun op i => op.Lowered m.tables i.instruction) u.ops body := by
  obtain ⟨body, rfl, instructions⟩ := lowered
  exact ⟨_, Code.decode_encode body, Nat.one_ne_zero, Code.forall₂_locate instructions 0⟩

theorem AdapterUnit.Lowered.verify_iff {m : Module} {u : AdapterUnit} {f : Function}
    (lowered : u.Lowered m.tables f) : f.verify m = .ok () ↔ Op.stackUse.Balanced u.ops := by
  obtain ⟨body, decoded, context, located⟩ := lowered.located
  have same := StackUse.balanced_iff (located.imp fun _ _ stands => stands.alike)
  rw [same, Verify.balanced_iff, Function.verify_ok]
  constructor
  · rintro ⟨body', decoded', -, checks⟩
    cases decoded.symm.trans decoded'
    exact checks
  · intro checks
    refine ⟨body, decoded, fun i member => ?_, checks⟩
    obtain ⟨op, -, stands⟩ := exists_of_mem_forall₂_right located member
    exact stands.checkRef context

theorem AdapterUnit.Lowered.depthAt_iff {m : Module} {u : AdapterUnit} {f : Function}
    (lowered : u.Lowered m.tables f) :
    ∃ body, Code.decode f.code = .ok body ∧ ∀ k d, depthAt m 0 body k = some d ↔
      k < u.ops.length ∧ checkDepth m 0 (body.take k) = .ok () ∧
        (d : Int) = Op.stackUse.depth (u.ops.take k) := by
  obtain ⟨body, decoded, -, located⟩ := lowered.located
  refine ⟨body, decoded, fun k d => ?_⟩
  have same : List.Forall₂ (StackUse.Alike Op.stackUse (Verify.stackUse m)) (u.ops.take k)
      (body.take k) :=
    List.forall₂_take k (located.imp fun _ _ stands => stands.alike)
  rw [depthAt_eq_some, ← located.length_eq, StackUse.depth_alike same, Int.natCast_zero,
    Int.zero_add]

/-! ## Classes -/

namespace EmittedClass

variable {c : EmittedClass} {options : LowerOptions}

theorem verify_assemble_iff {t : Tables} {functions : List Function}
    (lowered : List.Forall₂ (AdapterUnit.Lowered t) c.units functions) :
    (c.assemble options t functions).verify = .ok () ↔
      ∀ u ∈ c.units, Op.stackUse.Balanced u.ops := by
  have each {u : AdapterUnit} {f : Function} (unit : u.Lowered t f) :=
    AdapterUnit.Lowered.verify_iff (m := c.assemble options t functions) unit
  rw [Module.verify_ok]
  constructor
  · rintro ⟨-, verified⟩ u member
    obtain ⟨f, known, unit⟩ := exists_of_mem_forall₂ lowered member
    exact (each unit).mp (verified f known)
  · intro balanced
    refine ⟨validate_assemble lowered.length_eq, fun f member => ?_⟩
    obtain ⟨u, known, unit⟩ := exists_of_mem_forall₂_right lowered member
    exact (each unit).mpr (balanced u known)

theorem lower_composite (addressable : c.tables.Addressable)
    (composite : ∃ u ∈ c.units, ∃ op ∈ u.ops, ¬op.Boxable) :
    ∃ symbol ty, c.lower options = .error (.notPrimitive symbol ty) := by
  cases lowered : AdapterUnit.lowerAll Tables.empty c.units with
  | error e =>
      obtain ⟨u, -, ty, -, -, rfl⟩ := AdapterUnit.lowerAll_error lowered
      exact ⟨_, ty, bind_eq_error.mpr (.inl lowered)⟩
  | ok result =>
      obtain ⟨t, functions⟩ := result
      have indexed : Tables.empty.Indexed := rfl
      obtain ⟨records, stand⟩ := AdapterUnit.lowerAll_ok indexed lowered
      obtain rfl := tables_of_records records
      obtain ⟨u, unit, op, inside, unboxable⟩ := composite
      obtain ⟨f, -, body, -, ops⟩ := exists_of_mem_forall₂ (stand _ (.refl _) addressable) unit
      obtain ⟨i, -, stands⟩ := exists_of_mem_forall₂ ops inside
      exact absurd stands.boxable unboxable

theorem lower_boxable (verify : options.verify = true) (addressable : c.tables.Addressable)
    (boxable : ∀ u ∈ c.units, ∀ op ∈ u.ops, op.Boxable) :
    ∃ functions, AdapterUnit.lowerAll Tables.empty c.units = .ok (c.tables, functions) ∧
      List.Forall₂ (AdapterUnit.Lowered c.tables) c.units functions ∧
      let m := c.assemble options c.tables functions
      (m.verify = .ok () ∧ c.lower options = .ok m ∨
        ∃ e, m.verify = .error e ∧ c.lower options = .error (.verification c.name e)) := by
  obtain ⟨t, functions, lowered⟩ := AdapterUnit.exists_lowerAll Tables.empty boxable
  have indexed : Tables.empty.Indexed := rfl
  obtain ⟨records, stand⟩ := AdapterUnit.lowerAll_ok indexed lowered
  obtain rfl := tables_of_records records
  refine ⟨functions, lowered, stand _ (.refl _) addressable, ?_⟩
  dsimp only
  rw [lower, lowered, verify]
  cases verified : (c.assemble options c.tables functions).verify with
  | ok result =>
      left
      refine ⟨rfl, ?_⟩
      simp only [bind, Except.bind, verified]
      rfl
  | error e =>
      right
      refine ⟨e, rfl, ?_⟩
      simp only [bind, Except.bind, verified]
      rfl

/-- A class is refused for a box of a type that is not primitive, and else for a unit that is not
balanced. The verifier tracks the sums of what its operations add to the stack. -/
theorem lower_balanced (verify : options.verify = true) (addressable : c.tables.Addressable) :
    ((∃ symbol ty, c.lower options = .error (.notPrimitive symbol ty)) ↔
      ∃ u ∈ c.units, ∃ op ∈ u.ops, ¬op.Boxable) ∧
    ((∀ u ∈ c.units, ∀ op ∈ u.ops, op.Boxable) →
      ((∃ m, c.lower options = .ok m) ↔ ∀ u ∈ c.units, Op.stackUse.Balanced u.ops) ∧
      ((∃ e, c.lower options = .error (.verification c.name e)) ↔
        ¬∀ u ∈ c.units, Op.stackUse.Balanced u.ops) ∧
      ∃ functions, AdapterUnit.lowerAll Tables.empty c.units = .ok (c.tables, functions) ∧
        let m := c.assemble options c.tables functions
        List.Forall₂ (fun u f => ∃ body, Code.decode f.code = .ok body ∧
          ∀ k d, depthAt m 0 body k = some d ↔
            k < u.ops.length ∧ checkDepth m 0 (body.take k) = .ok () ∧
              (d : Int) = Op.stackUse.depth (u.ops.take k)) c.units functions) := by
  constructor
  · refine ⟨fun ⟨symbol, ty, failed⟩ => ?_, lower_composite addressable⟩
    by_contra none
    push Not at none
    obtain ⟨functions, -, -, ⟨-, done⟩ | ⟨e, -, done⟩⟩ := lower_boxable verify addressable none
    · cases failed.symm.trans done
    · cases failed.symm.trans done
  · intro boxable
    obtain ⟨functions, lowered, units, outcome⟩ := lower_boxable verify addressable boxable
    have verified : (c.assemble options c.tables functions).verify = .ok () ↔
        ∀ u ∈ c.units, Op.stackUse.Balanced u.ops := verify_assemble_iff units
    refine ⟨?_, ?_, functions, lowered, units.imp fun _ _ unit => ?_⟩
    · rw [← verified]
      obtain ⟨ok, done⟩ | ⟨e, failed, done⟩ := outcome
      · exact iff_of_true ⟨_, done⟩ ok
      · exact iff_of_false (by simp [done]) (by simp [failed])
    · rw [← verified]
      obtain ⟨ok, done⟩ | ⟨e, failed, done⟩ := outcome
      · exact iff_of_false (by simp [done]) (not_not_intro ok)
      · exact iff_of_true ⟨e, done⟩ (by simp [failed])
    · exact AdapterUnit.Lowered.depthAt_iff (m := c.assemble options c.tables functions) unit

def joining (ops : List Op) : EmittedClass :=
  ⟨"Names$Adapter", "Names", Module.dispatchInterface,
    [⟨"join", ⟨"Names.join", "(str,str)->str", 2⟩, [], ops, [], .direct⟩]⟩

theorem lower_balanced_joining :
    let options : LowerOptions := ⟨true, false, none⟩
    let join : Op := .controller ⟨"Names.join", "(str,str)->str", 2⟩
    let balanced : List Op :=
      [.literal "Ada", .literal "Byron", join, .pushNoContent, .box .i32, .ret]
    let twice : List Op := [.loadContext, .ret, .loadContext, .ret]
    options.verify = true ∧ (∀ ops ∈ [balanced, twice, [.box .str]],
      (joining ops).tables.Addressable) ∧
    Op.stackUse.Balanced balanced ∧ ¬Op.stackUse.Balanced twice ∧
    ∃ symbol ty, (joining [.box .str]).lower options = .error (.notPrimitive symbol ty) := by
  intro options join balanced twice
  have addressable : ∀ ops ∈ [balanced, twice, [.box .str]], (joining ops).tables.Addressable := by
    intro ops member
    simp only [List.mem_cons, List.not_mem_nil, or_false] at member
    rcases member with rfl | rfl | rfl <;> constructor <;> decide +kernel
  have boxable : ∀ ops ∈ [balanced, twice], ∀ u ∈ (joining ops).units, ∀ op ∈ u.ops,
      op.Boxable := by
    decide +kernel
  refine ⟨rfl, addressable, ?_, ?_, ?_⟩
  · obtain ⟨-, outcome⟩ := @lower_balanced (joining balanced) options rfl (addressable _ (by simp))
    have accepted : ∃ m, (joining balanced).lower options = .ok m := ⟨_, rfl⟩
    exact (outcome (boxable balanced (by simp))).1.mp accepted _ List.mem_cons_self
  · obtain ⟨-, outcome⟩ := @lower_balanced (joining twice) options rfl (addressable _ (by simp))
    have refused : (joining twice).lower options =
        .error (.verification "Names$Adapter" (.unreachableCode 2)) := rfl
    have unit := (outcome (boxable twice (by simp))).2.1.mp ⟨_, refused⟩
    exact fun same => unit fun u member => by rwa [List.mem_singleton.mp member]
  · obtain ⟨composite, -⟩ :=
      @lower_balanced (joining [.box .str]) options rfl (addressable _ (by simp))
    exact composite.mpr ⟨_, List.mem_cons_self, _, List.mem_cons_self, by decide⟩

end EmittedClass
end RouteAdapter
