import RouteAdapter.Proofs.Emission.Method

/-!
# The steps of a method in any order

The steps of an emitter may be called in any order, again, and after failures. A call is refused in
the wrong state, or it advances the state, or it fails; what failed fails again with the same
errors, whatever it wrote before. So what can be finished is the unit that is emitted without
detours.

* `Emitter.call_cases`: what one call does;
* `Emitter.calls_eq_iff`: what a list of calls does;
* `Emitter.finish_calls`: what can be finished after it.
-/

namespace RouteAdapter

/-! ## Parameters on their own -/

namespace Parameter

/-- The parameter is resolved and its chain written, without the parameters before it. -/
def check (s : Schema) (index : Nat) (d : DeclaredParam) : Except CompileError Unit := do
  let p ← resolve index d
  (Chain.emit s p (Chain.ofParameter p)).2

theorem partition_cons_fst {ε α : Type} (r : Except ε α) (results : List (Except ε α)) :
    (partition (r :: results)).1 = (partition [r]).1 ++ (partition results).1 := by
  cases r <;> rfl

end Parameter

def DeclaredMethod.faults (s : Schema) (m : DeclaredMethod) : List CompileError :=
  (Parameter.partition (m.params.mapIdx (Parameter.check s))).1

namespace Emitter

variable {s : Schema}

theorem addParameter_errors (p : Progress) (index : Nat) (d : DeclaredParam) :
    (addParameter s p index d).errors =
      p.errors ++ (Parameter.partition [Parameter.check s index d]).1 := by
  unfold addParameter Parameter.check
  cases Parameter.resolve index d with
  | error e => rfl
  | ok q =>
      simp only [bind, Except.bind]
      rcases Chain.emit s q (Chain.ofParameter q) with ⟨ops, e | ⟨⟩⟩
      · rfl
      · exact (List.append_nil p.errors).symm

/-- What is written already has no effect on the errors. -/
theorem addParameters_errors (p : Progress) (index : Nat) (ds : List DeclaredParam) :
    (addParameters s p index ds).errors =
      p.errors ++
        (Parameter.partition (ds.mapIdx fun i d => Parameter.check s (index + i) d)).1 := by
  induction ds generalizing p index with
  | nil => exact (List.append_nil p.errors).symm
  | cons d ds ih =>
      rw [addParameters, ih, addParameter_errors, List.mapIdx_cons, List.append_assoc]
      simp only [Nat.add_zero, Nat.add_assoc, Nat.add_comm 1]
      rw [← Parameter.partition_cons_fst]

/-! ## One call -/

inductive Call
  | parameters
  | invocation
  | returnHandling
  deriving DecidableEq

namespace Call

def step : Call → EmitStep
  | parameters => .parameters
  | invocation => .invocation
  | returnHandling => .returnHandling

def before : Call → EmitState
  | parameters => .start
  | invocation => .parametersEmitted
  | returnHandling => .invocationEmitted

def after : Call → EmitState
  | parameters => .parametersEmitted
  | invocation => .invocationEmitted
  | returnHandling => .returnHandled

end Call

def call (e : Emitter) : Call → Except (List CompileError) Unit × Emitter
  | .parameters => e.emitParameters
  | .invocation => (e.emitInvocation.1.mapError fun fault => [fault], e.emitInvocation.2)
  | .returnHandling => (e.emitReturn.1.mapError fun fault => [fault], e.emitReturn.2)

theorem expect_ok {e : Emitter} {expected : EmitState} {step : EmitStep}
    (same : e.state = expected) : e.expect expected step = .ok () :=
  if_pos same

theorem expect_error {e : Emitter} {expected : EmitState} {step : EmitStep}
    (other : e.state ≠ expected) :
    e.expect expected step =
      .error (.emission (.wrongState step e.controller e.method.name e.state expected)) :=
  if_neg other

theorem call_refused {e : Emitter} {c : Call} (other : e.state ≠ c.before) :
    e.call c =
      (.error [.emission (.wrongState c.step e.controller e.method.name e.state c.before)], e) := by
  have refused : e.expect c.before c.step = .error _ := expect_error other
  cases c <;> simp only [Call.before, Call.step] at refused ⊢
  · simp only [call, emitParameters, refused]
  · simp only [call, emitInvocation, refused, Except.mapError]
  · simp only [call, emitReturn, refused, Except.mapError]

theorem emitParameters_cases {e : Emitter} (started : e.state = .start) :
    (e.method.faults e.schema = [] ∧
      ∃ e', e.emitParameters = (.ok (), e') ∧ e'.state = .parametersEmitted) ∨
    (e.method.faults e.schema ≠ [] ∧
      ∃ e', e.emitParameters = (.error (e.method.faults e.schema), e') ∧ e'.state = .start) := by
  have errors := addParameters_errors (s := e.schema) ⟨[], e.ops, e.argSpans, []⟩ 0 e.method.params
  simp only [Nat.zero_add, List.nil_append] at errors
  rw [← DeclaredMethod.faults] at errors
  simp only [emitParameters, expect_ok started, errors, List.isEmpty_iff]
  by_cases none : e.method.faults e.schema = []
  · exact .inl ⟨none, _, if_pos none, rfl⟩
  · exact .inr ⟨none, _, if_neg none, started⟩

structure Alike (e e' : Emitter) : Prop where
  schema : e'.schema = e.schema
  controller : e'.controller = e.controller
  method : e'.method = e.method

theorem call_alike (e : Emitter) (c : Call) : e.Alike (e.call c).2 := by
  cases c with
  | parameters =>
      simp only [call, emitParameters]
      split
      · exact ⟨rfl, rfl, rfl⟩
      · split <;> exact ⟨rfl, rfl, rfl⟩
  | invocation =>
      simp only [call, emitInvocation]
      split
      · exact ⟨rfl, rfl, rfl⟩
      · split <;> exact ⟨rfl, rfl, rfl⟩
  | returnHandling =>
      simp only [call, emitReturn]
      split <;> exact ⟨rfl, rfl, rfl⟩

theorem call_cases {e : Emitter} {c : Call} (due : e.state = c.before) :
    (∃ e', e.call c = (.ok (), e') ∧ e'.state = c.after) ∨
    ∃ errors e', e.call c = (.error errors, e') ∧ e'.state = c.before ∧
      (e'.call c).1 = .error errors := by
  cases c with
  | parameters =>
      obtain ⟨-, e', emitted, advanced⟩ | ⟨some, e', emitted, started⟩ := emitParameters_cases due
      · exact .inl ⟨e', emitted, advanced⟩
      · have alike := call_alike e .parameters
        simp only [call, emitted] at alike
        obtain ⟨none, -⟩ | ⟨-, e'', again, -⟩ := emitParameters_cases started
        · rw [alike.schema, alike.method] at none
          exact absurd none some
        · refine .inr ⟨_, e', emitted, started, ?_⟩
          rw [call, again, alike.schema, alike.method]
  | invocation =>
      have ready : e.state = .parametersEmitted := due
      by_cases few : e.params.length < 256
      · refine .inl ?_
        simp only [call, emitInvocation, expect_ok ready, few, ↓reduceIte]
        exact ⟨_, rfl, rfl⟩
      · have failed : e.call .invocation =
            (.error [.emission (.tooManyParameters e.controller e.method.name e.params.length)],
              e) := by
          simp only [call, emitInvocation, expect_ok ready, few, ↓reduceIte, Except.mapError]
        exact .inr ⟨_, e, failed, due, congrArg Prod.fst failed⟩
  | returnHandling =>
      have ready : e.state = .invocationEmitted := due
      refine .inl ?_
      simp only [call, emitReturn, expect_ok ready]
      exact ⟨_, rfl, rfl⟩

/-! ## Lists of calls -/

/-- All calls are made, whatever the results. -/
def calls (e : Emitter) (cs : List Call) : Emitter :=
  cs.foldl (fun e c => (e.call c).2) e

/-- The calls are made up to the first that fails. -/
def attempt (e : Emitter) : List Call → Except (List CompileError) Emitter
  | [] => .ok e
  | c :: cs =>
    match e.call c with
    | (.ok (), e) => e.attempt cs
    | (.error errors, _) => .error errors

end Emitter

/-- The calls that are still to be made, in order. -/
def EmitState.ahead : EmitState → List Emitter.Call
  | start => [.parameters, .invocation, .returnHandling]
  | parametersEmitted => [.invocation, .returnHandling]
  | invocationEmitted => [.returnHandling]
  | returnHandled => []

theorem EmitState.ahead_eq_nil {state : EmitState} : state.ahead = [] ↔ state = returnHandled := by
  cases state <;> simp [ahead]

namespace Emitter

theorem Call.ahead_before (c : Call) : c.before.ahead = c :: c.after.ahead := by
  cases c <;> rfl

theorem Call.before_of_ahead {state : EmitState} {c : Call} {cs : List Call}
    (ahead : state.ahead = c :: cs) : state = c.before := by
  cases state <;> cases ahead <;> rfl

theorem Call.ahead_sublist_cons {state : EmitState} {c : Call} {cs : List Call}
    (other : state ≠ c.before) : state.ahead.Sublist (c :: cs) ↔ state.ahead.Sublist cs := by
  rw [List.sublist_cons_iff]
  refine or_iff_left ?_
  rintro ⟨_, ahead, -⟩
  exact other (before_of_ahead ahead)

theorem calls_alike (e : Emitter) (cs : List Call) : e.Alike (e.calls cs) := by
  induction cs generalizing e with
  | nil => exact ⟨rfl, rfl, rfl⟩
  | cons c cs ih =>
      have first := call_alike e c
      have others := ih (e.call c).2
      exact ⟨others.schema.trans first.schema, others.controller.trans first.controller,
        others.method.trans first.method⟩

theorem attempt_due {e e' : Emitter} {c : Call} (due : e.state = c.before)
    (called : e.call c = (.ok (), e')) (advanced : e'.state = c.after) :
    e.attempt e.state.ahead = e'.attempt e'.state.ahead := by
  rw [due, Call.ahead_before, attempt, called, advanced]

theorem attempt_failed {e : Emitter} {c : Call} {errors : List CompileError}
    (due : e.state = c.before) (failed : (e.call c).1 = .error errors) :
    e.attempt e.state.ahead = .error errors := by
  rw [due, Call.ahead_before, attempt]
  rcases called : e.call c with ⟨result, e'⟩
  rw [called] at failed
  cases failed
  rfl

/-- The return is handled after a list of calls exactly if the calls that were ahead are among them
in order and succeed one after the other; all others leave no trace. -/
theorem calls_eq_iff {e e' : Emitter} {cs : List Call} :
    e.calls cs = e' ∧ e'.state = .returnHandled ↔
      e.attempt e.state.ahead = .ok e' ∧ e.state.ahead.Sublist cs := by
  induction cs generalizing e with
  | nil =>
      rw [calls, List.foldl_nil, List.sublist_nil]
      constructor
      · rintro ⟨rfl, handled⟩
        rw [EmitState.ahead_eq_nil.mpr handled]
        exact ⟨rfl, rfl⟩
      · rintro ⟨made, none⟩
        rw [none] at made
        cases made
        exact ⟨rfl, EmitState.ahead_eq_nil.mp none⟩
  | cons c cs ih =>
      have first : e.calls (c :: cs) = (e.call c).2.calls cs := rfl
      by_cases due : e.state = c.before
      · obtain ⟨e₁, called, advanced⟩ | ⟨errors, e₁, called, still, again⟩ := call_cases due
        · rw [first, called, ih, attempt_due due called advanced, due, Call.ahead_before, advanced,
            List.cons_sublist_cons]
        · -- The failed call may have written something, but it fails again, so neither side holds.
          have failed : (e.call c).1 = .error errors := by rw [called]
          rw [first, called, ih, attempt_failed still again, attempt_failed due failed]
          simp only [reduceCtorEq, false_and]
      · rw [first, call_refused due, ih, Call.ahead_sublist_cons due]

/-! ## The finished unit -/

theorem andThen_eq {α : Type} (step : Except CompileError Unit × Emitter)
    (next : Emitter → Except (List CompileError) α) :
    andThen step next =
      match (step.1.mapError fun fault => [fault], step.2) with
      | (.ok (), e) => next e
      | (.error errors, _) => .error errors := by
  rcases step with ⟨fault | ⟨⟩, e⟩ <;> rfl

theorem emit_eq_attempt (s : Schema) (controller : String) (m : DeclaredMethod) :
    emit s controller m =
      (start s controller m).attempt EmitState.start.ahead >>= fun e =>
        e.finish.mapError fun fault => [fault] := by
  simp only [emit, andThen_eq, EmitState.ahead, attempt, call]
  split
  · rename_i emitted
    rw [emitted]
    rfl
  · rename_i e emitted
    rw [emitted]
    dsimp only
    split
    · split <;> rfl
    · rfl

theorem state_of_finish {e : Emitter} {u : AdapterUnit} (finished : e.finish = .ok u) :
    e.state = .returnHandled := by
  by_contra other
  rw [finish, expect_error other] at finished
  cases finished

/-- Whatever calls were made before, a call in the wrong state is refused and changes nothing, and
any other advances the state by one or leaves it. What can be finished is what is emitted without
detours, and it can if the calls without detours were made, others between them or not. -/
theorem finish_calls (s : Schema) (controller : String) (m : DeclaredMethod) (cs : List Call) :
    let e := (start s controller m).calls cs
    (∀ c : Call, e.state ≠ c.before →
      e.call c =
        (.error [.emission (.wrongState c.step controller m.name e.state c.before)], e)) ∧
    (∀ c : Call, match e.call c with
      | (.ok (), e') => e.state = c.before ∧ e'.state = c.after
      | (.error _, e') => e'.state = e.state) ∧
    (e.state ≠ .returnHandled →
      e.finish =
        .error (.emission (.wrongState .finish controller m.name e.state .returnHandled))) ∧
    ∀ u, e.finish = .ok u ↔
      emit s controller m = .ok u ∧
        [Call.parameters, .invocation, .returnHandling].Sublist cs := by
  intro e
  obtain ⟨-, sameController, sameMethod⟩ : (start s controller m).Alike e := calls_alike _ cs
  refine ⟨fun c other => ?_, fun c => ?_, fun other => ?_, fun u => ?_⟩
  · rw [call_refused other, sameController, sameMethod]
    rfl
  · by_cases due : e.state = c.before
    · obtain ⟨e', called, advanced⟩ | ⟨errors, e', called, still, -⟩ := call_cases due
      · rw [called]
        exact ⟨due, advanced⟩
      · rw [called]
        exact still.trans due.symm
    · rw [call_refused due]
  · rw [finish, expect_error other, sameController, sameMethod]
    rfl
  · rw [emit_eq_attempt]
    simp only [bind_eq_ok, mapError_eq_ok]
    constructor
    · intro finished
      obtain ⟨made, among⟩ := calls_eq_iff.mp ⟨rfl, state_of_finish finished⟩
      exact ⟨⟨e, made, finished⟩, among⟩
    · rintro ⟨⟨e', made, finished⟩, among⟩
      obtain ⟨same, -⟩ := calls_eq_iff.mpr ⟨made, among⟩
      rw [show e = e' from same]
      exact finished

def brokenMethod : DeclaredMethod :=
  ⟨"find", [⟨"id", .i32, [⟨"path", none⟩]⟩, ⟨"page", .i32, []⟩], .str⟩

def plainMethod : DeclaredMethod :=
  ⟨"find", [⟨"id", .i32, [⟨"path", none⟩]⟩], .str⟩

theorem finish_calls_detours :
    let e := start .standard "Users" plainMethod
    let broken := (start .standard "Users" brokenMethod).calls [.parameters, .parameters]
    e.call .invocation =
      (.error [.emission (.wrongState .invocation "Users" "find" .start .parametersEmitted)], e) ∧
    (∃ u, emit .standard "Users" plainMethod = .ok u ∧
      (e.calls [.invocation, .parameters, .parameters, .invocation, .returnHandling]).finish =
        .ok u) ∧
    broken.ops.length = 8 ∧
    broken.finish =
      .error (.emission (.wrongState .finish "Users" "find" .start .returnHandled)) := by
  intro e broken
  have started : broken.state = .start := by decide +kernel
  obtain ⟨refused, -⟩ := finish_calls .standard "Users" plainMethod []
  obtain ⟨-, -, -, finished⟩ := finish_calls .standard "Users" plainMethod
    [.invocation, .parameters, .parameters, .invocation, .returnHandling]
  obtain ⟨-, -, unfinished, -⟩ :=
    finish_calls .standard "Users" brokenMethod [.parameters, .parameters]
  refine ⟨refused .invocation (by decide), ⟨_, rfl, (finished _).mpr ⟨rfl, by decide⟩⟩,
    by decide +kernel, ?_⟩
  rw [unfinished (by rw [started]; decide), started]
  rfl

end Emitter
end RouteAdapter
