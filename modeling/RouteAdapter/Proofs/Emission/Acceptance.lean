import RouteAdapter.Proofs.Emission.Discipline
import RouteAdapter.Proofs.Emission.Shape
import RouteAdapter.Proofs.Lowering.Totality

/-!
# Accepted methods

A method whose parameters are resolved and written one by one is accepted as a whole exactly if it
has fewer than 256 of them.

* `Emitter.emit_written`: the decision, with its error;
* `AdapterUnit.Adapts.uses`: how often the operations of an accepted method refer to a table;
* `AdapterUnit.Adapts.boxable`: what they box.
-/

namespace RouteAdapter

/-! ## The limit of a call -/

/-- The chain of the parameter is written to its end. -/
def Parameter.Written (s : Schema) (p : Parameter) : Prop :=
  ∃ ops, Chain.emit s p (Chain.ofParameter p) = (ops, .ok ())

namespace Emitter

variable {s : Schema}

theorem emit_written {controller : String} {m : DeclaredMethod} {params : List Parameter}
    (resolved : Parameter.resolveAll m = .ok params) (written : ∀ q ∈ params, q.Written s) :
    if params.length ≤ 255 then ∃ u, emit s controller m = .ok u
    else emit s controller m =
      .error [.emission (.tooManyParameters controller m.name params.length)] := by
  have each : ∀ q ∈ params, ∃ argument, q.Emits s argument := by
    intro q member
    obtain ⟨argument, emitted⟩ := written q member
    exact ⟨argument, Chain.emit_ok emitted⟩
  obtain ⟨arguments, emits⟩ := exists_forall₂ each
  rw [emit_of_emits controller resolved emits]
  simp only [Nat.lt_succ_iff]
  split
  · exact ⟨_, rfl⟩
  · rfl

theorem length_lt_of_emit {controller : String} {m : DeclaredMethod} {u : AdapterUnit}
    (emitted : emit s controller m = .ok u) : m.params.length < 256 := by
  obtain ⟨arguments, adapts⟩ := emit_ok emitted
  rw [← Parameter.length_resolveAll adapts.params]
  exact adapts.few

end Emitter

/-! ## What an accepted method lowers to -/

theorem Parameter.Emits.uses {s : Schema} {p : Parameter} {ops : List Op} (emits : p.Emits s ops) :
    Op.Uses 1 0 ops := by
  have conversion (source : Ty) : Chain.conversion source p.ty = [] ∨
      Chain.conversion source p.ty = [.convert source p.ty] := by
    unfold Chain.conversion
    split
    · exact .inl rfl
    · exact .inr rfl
  cases emits with
  | context => exact ⟨Nat.zero_le 1, Nat.zero_le 1, Nat.zero_le 1, Nat.le_refl 0⟩
  | @named a _ _ found few =>
      rcases conversion a.returns with none | one
      · rw [none]
        exact ⟨Nat.le_refl 1, Nat.le_refl 1, Nat.zero_le 1, Nat.le_refl 0⟩
      · rw [one]
        exact ⟨Nat.le_refl 1, Nat.le_refl 1, Nat.le_refl 1, Nat.le_refl 0⟩
  | @object a _ _ found few =>
      rcases conversion a.returns with none | one
      · rw [none]
        exact ⟨Nat.zero_le 1, Nat.le_refl 1, Nat.zero_le 1, Nat.le_refl 0⟩
      · rw [one]
        exact ⟨Nat.zero_le 1, Nat.le_refl 1, Nat.le_refl 1, Nat.le_refl 0⟩

theorem Parameter.Emits.uses_all {s : Schema} {params : List Parameter}
    {arguments : List (List Op)} (emits : List.Forall₂ (Parameter.Emits s) params arguments) :
    Op.Uses params.length 0 arguments.flatten := by
  induction emits with
  | nil => exact ⟨Nat.le_refl 0, Nat.le_refl 0, Nat.le_refl 0, Nat.le_refl 0⟩
  | cons first _ ih =>
      rw [List.length_cons, Nat.add_comm]
      exact first.uses.append ih

namespace AdapterUnit.Adapts

variable {s : Schema} {controller : String} {m : DeclaredMethod} {u : AdapterUnit}
  {arguments : List (List Op)}

theorem uses (adapts : u.Adapts s controller m arguments) : Op.Uses m.params.length 1 u.ops := by
  have called : Op.Uses 0 1
      (.controller u.target :: (Emitter.returnOps (.ofTy m.returns) ++ [.ret])) := by
    cases ReturnPolicy.ofTy m.returns <;>
      exact ⟨Nat.le_refl 0, Nat.le_refl 0, Nat.le_refl 0, Nat.le_refl 1⟩
  rw [adapts.ops, ← Parameter.length_resolveAll adapts.params]
  exact (Parameter.Emits.uses_all adapts.emits).append called

theorem boxable (adapts : u.Adapts s controller m arguments) : ∀ op ∈ u.ops, op.Boxable := by
  rintro op member ty rfl
  rcases adapts.mem member with
    ⟨p, -, argument, emits, inside⟩ | other | other | ⟨ty', primitive, same⟩ | other
  · rcases emits.mem inside with other | ⟨_, other⟩ | ⟨_, _, _, other⟩ | ⟨_, other⟩ <;> cases other
  · cases other
  · cases other
  · cases same
    exact primitive
  · cases other

end AdapterUnit.Adapts
end RouteAdapter
