import RouteAdapter.Proofs.Emission.Method
import RouteAdapter.Proofs.Lowering.Discipline

/-!
# Emitted units keep the stack discipline

An argument raises the stack by one and needs two places for it. A method has fewer than 256
parameters, so the last argument finds at most 254 values and the bound of 256 is kept.

* `Parameter.Emits.raises`: one argument;
* `AdapterUnit.Adapts.disciplined`: the unit of a method.
-/

namespace RouteAdapter
open Verify

/-- Accessors bound by name take the name, those bound as a whole take nothing. -/
def Schema.Regular (s : Schema) : Prop :=
  ∀ source kind a, s.lookup (source, kind) = some a →
    a.params.length = match kind with
      | .named => 1
      | .object => 0

theorem AccessorSpec.pops_ref {a : AccessorSpec} (few : a.params.length < 256) :
    (Op.accessor a.ref).pops = a.params.length + 1 := by
  simp only [Op.pops, ref, UInt8.toNat_ofNat', Nat.mod_eq_of_lt few]

theorem Op.Raises.conversion {depth : Nat} (source target : Ty) (bounded : depth + 1 ≤ maxDepth) :
    Raises (depth + 1) (Chain.conversion source target) (depth + 1) := by
  unfold Chain.conversion
  split
  · exact .nil _
  · refine .cons (by simp) ?_ rfl bounded (.nil _)
    exact Nat.le_add_left 1 depth

theorem Op.Raises.push {depth last : Nat} {op : Op} {ops : List Op} (goesOn : op ≠ .ret)
    (none : op.pops = 0) (bounded : depth + 1 ≤ maxDepth) (rest : Raises (depth + 1) ops last) :
    Raises depth (op :: ops) last :=
  .cons goesOn (none ▸ Nat.zero_le depth) (by rw [none]) bounded rest

namespace Parameter

variable {s : Schema}

theorem Emits.raises {p : Parameter} {ops : List Op} {depth : Nat} (regular : s.Regular)
    (emits : p.Emits s ops) (room : depth + 2 ≤ maxDepth) : Op.Raises depth ops (depth + 1) := by
  cases emits with
  | context => exact .push (by simp) rfl (by omega) (.nil _)
  | @named a _ _ found few =>
      have one : a.params.length = 1 := regular _ _ _ found
      have pops := AccessorSpec.pops_ref few
      rw [one] at pops
      refine Op.Raises.push (by simp) rfl (by omega) (.push (by simp) rfl room ?_)
      refine .cons (by simp) ?_ ?_ ?_ (.conversion a.returns p.ty ?_) <;> omega
  | @object a _ _ found few =>
      have none : a.params.length = 0 := regular _ _ _ found
      have pops := AccessorSpec.pops_ref few
      rw [none] at pops
      refine Op.Raises.push (by simp) rfl (by omega) ?_
      refine .cons (by simp) ?_ ?_ ?_ (.conversion a.returns p.ty ?_) <;> omega

theorem Emits.raises_all {params : List Parameter} {arguments : List (List Op)} (depth : Nat)
    (regular : s.Regular) (emits : List.Forall₂ (Emits s) params arguments)
    (room : depth + params.length + 1 ≤ maxDepth) :
    Op.Raises depth arguments.flatten (depth + params.length) := by
  induction emits generalizing depth with
  | nil => exact .nil depth
  | @cons p argument params arguments first _ ih =>
      rw [List.length_cons] at room ⊢
      have rest := ih (depth + 1) (by omega)
      rw [Nat.add_right_comm, Nat.add_assoc] at rest
      exact (first.raises regular (by omega)).append rest

end Parameter

theorem AdapterUnit.Adapts.disciplined {s : Schema} {controller : String} {m : DeclaredMethod}
    {u : AdapterUnit} {arguments : List (List Op)} (regular : s.Regular)
    (adapts : u.Adapts s controller m arguments) : u.Disciplined := by
  have few := adapts.few
  have raises := Parameter.Emits.raises_all 0 regular adapts.emits
    (by simp only [maxDepth]; omega)
  rw [Nat.zero_add] at raises
  have count : (Op.controller u.target).pops = u.params.length := by
    simp only [adapts.target, Op.pops, UInt8.toNat_ofNat', Nat.mod_eq_of_lt few]
  have returned : Op.Raises 1 (Emitter.returnOps (.ofTy m.returns)) 1 := by
    cases ReturnPolicy.ofTy m.returns with
    | noContent => exact .cons (by simp) (Nat.le_refl 1) rfl (by decide) (.nil 1)
    | boxed ty => exact .cons (by simp) (Nat.le_refl 1) rfl (by decide) (.nil 1)
    | direct => exact .nil 1
  refine ⟨arguments.flatten ++ .controller u.target :: Emitter.returnOps (.ofTy m.returns), ?_, ?_⟩
  · rw [adapts.ops, List.append_assoc, List.cons_append]
  · refine raises.append (.cons (by simp) ?_ ?_ (by decide) returned) <;> omega

end RouteAdapter
