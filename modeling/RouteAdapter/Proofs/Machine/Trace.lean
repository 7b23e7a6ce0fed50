import RouteAdapter.Machine.Run

/-!
# Traces of a body

`Machine.stackAt` is the operand stack that an instruction of a body finds, if the run reaches it.
The effect of one step on the depth of the stack is exact, and every run ends at a reached
instruction or past the last one.
-/

namespace RouteAdapter

/-- Faults of the machine itself, as opposed to those of values, conversions and handlers. -/
def VmError.isStructural : VmError → Bool
  | stackUnderflow | invalidMethod _ | missingReturn => true
  | type _ | convert _ | handler _ _ => false

def Resolved.pops : Resolved → Nat
  | loadCtx | constStr _ => 0
  | invokeAccessor a => a.arity + 1
  | invokeController _ argc => argc
  | convert _ | noContent | box _ | ret => 1

theorem Accessor.arity_eq (a : Accessor) : a.arity = 0 ∨ a.arity = 1 := by
  cases a <;> simp [arity, params]

/-- A call refers to an entry of the bound method table. -/
def Resolved.Bound (methods : List Linked) : Resolved → Prop
  | invokeController method _ => method < methods.length
  | _ => True

namespace Machine

def stackAt (ctx : Context) (methods : List Linked) (stack : Stack) :
    List Resolved → Nat → Option Stack
  | [], _ => none
  | _ :: _, 0 => some stack
  | r :: code, k + 1 =>
    match (step ctx methods stack r).2 with
    | .next after => stackAt ctx methods after code k
    | _ => none

variable {ctx : Context} {methods : List Linked} {stack : Stack} {code : List Resolved}

/-! ## One step -/

/-- All that a step does to the depth of the stack, and the only structural fault it has. -/
def Effect (r : Resolved) (stack : Stack) : Outcome → Prop
  | .next after =>
    r ≠ .ret ∧ r.pops ≤ stack.length ∧ after.length + r.pops = stack.length + 1
  | .returned v => r = .ret ∧ stack.head? = some v
  | .failed e => e.isStructural = true → e = .stackUnderflow ∧ stack.length < r.pops

theorem accessorArgs_effect (a : Accessor) (stack : Stack) :
    match accessorArgs a stack with
    | .ok (_, rest) => rest.length + (a.arity + 1) = stack.length
    | .error e => e.isStructural = true → e = .stackUnderflow ∧ stack.length < a.arity + 1 := by
  unfold accessorArgs
  rcases a.arity_eq with arity | arity
  · rw [arity]
    match stack with
    | [] => exact fun _ => ⟨rfl, by simp⟩
    | v :: rest =>
        cases v <;> simp [bind, Except.bind, pure, Except.pure, throw, throwThe,
          MonadExceptOf.throw, VmError.isStructural]
  · rw [arity]
    match stack with
    | [] => exact fun _ => ⟨rfl, by simp⟩
    | [v] =>
        cases v <;> simp [bind, Except.bind, pure, Except.pure, throw, throwThe,
          MonadExceptOf.throw, VmError.isStructural]
    | v :: w :: rest =>
        cases v
        case str s =>
          cases w <;> simp [bind, Except.bind, pure, Except.pure, throw, throwThe,
            MonadExceptOf.throw, VmError.isStructural]
        all_goals simp [bind, Except.bind, throw, throwThe, MonadExceptOf.throw,
          VmError.isStructural]

theorem step_effect (ctx : Context) (stack : Stack) {r : Resolved} (bound : r.Bound methods) :
    Effect r stack (step ctx methods stack r).2 := by
  cases r with
  | loadCtx => exact ⟨by simp, Nat.zero_le _, rfl⟩
  | constStr s => exact ⟨by simp, Nat.zero_le _, rfl⟩
  | invokeAccessor a =>
      have effect := accessorArgs_effect a stack
      simp only [step]
      cases args : accessorArgs a stack with
      | error e =>
          rw [args] at effect
          exact effect
      | ok found =>
          rw [args] at effect
          refine ⟨by simp, effect ▸ Nat.le_add_left _ _, ?_⟩
          simp only [Resolved.pops, List.length_cons]
          omega
  | convert ty =>
      cases stack with
      | nil => exact fun _ => ⟨rfl, Nat.zero_lt_one⟩
      | cons v rest =>
          simp only [step]
          cases v.convert ty with
          | error e => simp [Effect, VmError.isStructural]
          | ok w => exact ⟨by simp, Nat.le_add_left _ _, rfl⟩
  | invokeController method argc =>
      simp only [step, callController]
      split
      · rename_i few
        exact fun _ => ⟨rfl, few⟩
      · rename_i enough
        have entry : methods[method]? = some methods[method] := List.getElem?_eq_getElem bound
        rw [entry]
        cases answer : methods[method].handler ctx (stack.take argc).reverse with
        | error message => simp [answer, Effect, VmError.isStructural]
        | ok v =>
            simp only [answer, Effect, Resolved.pops, List.length_cons, List.length_drop]
            exact ⟨by simp, by omega, by omega⟩
  | noContent =>
      cases stack with
      | nil => exact fun _ => ⟨rfl, Nat.zero_lt_one⟩
      | cons v rest => exact ⟨by simp, Nat.le_add_left _ _, rfl⟩
  | box ty =>
      cases stack with
      | nil => exact fun _ => ⟨rfl, Nat.zero_lt_one⟩
      | cons v rest =>
          simp only [step]
          cases v.conforms ty with
          | false => simp [Effect, VmError.isStructural]
          | true => exact ⟨by simp, Nat.le_add_left _ _, rfl⟩
  | ret =>
      cases stack with
      | nil => exact fun _ => ⟨rfl, Nat.zero_lt_one⟩
      | cons v rest => exact ⟨rfl, rfl⟩

/-! ## Runs -/

/-- The `k`-th instruction is reached and does this. -/
def Does (ctx : Context) (methods : List Linked) (stack : Stack) (code : List Resolved) (k : Nat)
    (r : Resolved) (found : Stack) (outcome : Outcome) : Prop :=
  code[k]? = some r ∧ stackAt ctx methods stack code k = some found ∧
    (step ctx methods found r).2 = outcome

theorem Does.later {r r' : Resolved} {after found : Stack} {k : Nat} {outcome : Outcome}
    (first : (step ctx methods stack r).2 = .next after)
    (does : Does ctx methods after code k r' found outcome) :
    Does ctx methods stack (r :: code) (k + 1) r' found outcome := by
  obtain ⟨entry, reached, result⟩ := does
  refine ⟨entry, ?_, result⟩
  simp only [stackAt, first, reached]

theorem runFrom_cons (r : Resolved) :
    (runFrom ctx methods stack (r :: code)).2 =
      match (step ctx methods stack r).2 with
      | .next after => (runFrom ctx methods after code).2
      | .returned v => .ok v
      | .failed e => .error e := by
  rw [runFrom]
  rcases step ctx methods stack r with ⟨calls, outcome⟩
  cases outcome <;> rfl

/-- A run ends at a reached instruction, or goes on past the last one. -/
theorem runFrom_ends (ctx : Context) (methods : List Linked) (stack : Stack)
    (code : List Resolved) :
    match (runFrom ctx methods stack code).2 with
    | .ok v => ∃ k r found, Does ctx methods stack code k r found (.returned v)
    | .error e =>
      (∃ k r found, Does ctx methods stack code k r found (.failed e)) ∨
        e = .missingReturn ∧ ∀ k r, code[k]? = some r →
          ∃ found after, Does ctx methods stack code k r found (.next after) := by
  induction code generalizing stack with
  | nil => exact .inr ⟨rfl, fun k r entry => by simp at entry⟩
  | cons r code ih =>
      rw [runFrom_cons]
      cases first : (step ctx methods stack r).2 with
      | returned v => exact ⟨0, r, stack, rfl, rfl, first⟩
      | failed e => exact .inl ⟨0, r, stack, rfl, rfl, first⟩
      | next after =>
          have rest := ih after
          dsimp only
          cases result : (runFrom ctx methods after code).2 with
          | ok v =>
              rw [result] at rest
              obtain ⟨k, r', found, does⟩ := rest
              exact ⟨k + 1, r', found, does.later first⟩
          | error e =>
              rw [result] at rest
              rcases rest with ⟨k, r', found, does⟩ | ⟨missing, all⟩
              · exact .inl ⟨k + 1, r', found, does.later first⟩
              · refine .inr ⟨missing, fun k r' entry => ?_⟩
                cases k with
                | zero =>
                    cases entry
                    exact ⟨stack, after, rfl, rfl, first⟩
                | succ k =>
                    obtain ⟨found, next, does⟩ := all k r' entry
                    exact ⟨found, next, does.later first⟩

/-- A failure that is no structural one comes from an instruction that is reached. -/
theorem does_of_error {e : VmError} (failed : (runFrom ctx methods stack code).2 = .error e)
    (other : e.isStructural = false) :
    ∃ k r found, Does ctx methods stack code k r found (.failed e) := by
  have ends := runFrom_ends ctx methods stack code
  rw [failed] at ends
  rcases ends with fails | ⟨rfl, -⟩
  · exact fails
  · cases other

theorem runFrom_bound (ctx : Context) (stack : Stack) (bound : ∀ r ∈ code, r.Bound methods)
    (returns : .ret ∈ code) :
    match (runFrom ctx methods stack code).2 with
    | .ok v => ∃ k found, code[k]? = some .ret ∧ stackAt ctx methods stack code k = some found ∧
        found.head? = some v
    | .error e => e.isStructural = true → e = .stackUnderflow ∧
        ∃ k r found, code[k]? = some r ∧ stackAt ctx methods stack code k = some found ∧
          found.length < r.pops := by
  have ends := runFrom_ends ctx methods stack code
  cases result : (runFrom ctx methods stack code).2 with
  | ok v =>
      rw [result] at ends
      obtain ⟨k, r, found, entry, reached, returned⟩ := ends
      have effect := step_effect ctx found (bound r (List.mem_of_getElem? entry))
      rw [returned] at effect
      obtain ⟨rfl, top⟩ := effect
      exact ⟨k, found, entry, reached, top⟩
  | error e =>
      rw [result] at ends
      intro structural
      rcases ends with ⟨k, r, found, entry, reached, failed⟩ | ⟨-, all⟩
      · have effect := step_effect ctx found (bound r (List.mem_of_getElem? entry))
        rw [failed] at effect
        obtain ⟨underflow, few⟩ := effect structural
        exact ⟨underflow, k, r, found, entry, reached, few⟩
      · -- A return never goes on to a next instruction.
        obtain ⟨k, entry⟩ := List.mem_iff_getElem?.mp returns
        obtain ⟨found, after, -, -, next⟩ := all k .ret entry
        have bound : Resolved.Bound methods .ret := trivial
        have effect := step_effect ctx found bound
        rw [next] at effect
        exact absurd rfl effect.1

end Machine
end RouteAdapter
