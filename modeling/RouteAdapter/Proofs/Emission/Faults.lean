import Mathlib.Data.List.ReduceOption
import RouteAdapter.Proofs.Emission.Shape
import RouteAdapter.Proofs.Emission.Steps

/-!
# Faulty parameters

Every parameter that cannot be bound is reported, once and in order, with the error that it has on
its own. What the chains of faulty parameters had written when they failed has no effect on others.
A method without faulty parameters can only have too many of them.

* `DeclaredMethod.faults_eq`: the errors of a method, one for each faulty parameter;
* `DeclaredMethod.filter_faults`: those of the parameters that are not resolved;
* `Emitter.emit_cases`: when a method is emitted, and its errors if it is not;
* `Emitter.emit_reports`: the report of a method.
-/

namespace RouteAdapter

/-! ## Kinds of errors -/

/-- The parameter is not resolved, with any schema. -/
def CompileError.isUnsupported : CompileError → Bool
  | unsupportedParameter _ _ => true
  | _ => false

def CompileError.of? : Except CompileError Unit → Option CompileError
  | .error e => some e
  | .ok () => none

namespace Chain

variable {s : Schema} {p : Parameter} {e : CompileError}

theorem fetch_error {kind : SourceKind} {before : List Op}
    (failed : (fetch s p kind before).2 = .error e) : e.isUnsupported = false := by
  unfold fetch lookup accessorRef at failed
  cases found : s.lookup (p.source, kind) with
  | none =>
      rw [found] at failed
      cases failed
      rfl
  | some a =>
      by_cases few : a.params.length < 256
      · simp [found, few] at failed
      · simp only [found, few, ↓reduceIte] at failed
        cases failed
        rfl

theorem convertTop_error {top : Option Ty} (failed : (convertTop p top).2 = .error e) :
    e.isUnsupported = false := by
  unfold convertTop at failed
  split at failed
  · cases failed
    rfl
  · split at failed
    · cases failed
    · split at failed
      · cases failed
      · cases failed
        rfl

theorem write_error {top : Option Ty} {w : Writer} (failed : (write s p top w).2 = .error e) :
    e.isUnsupported = false := by
  cases w with
  | context => cases failed
  | named => exact fetch_error failed
  | object => exact fetch_error failed
  | convert => exact convertTop_error failed

theorem emitFrom_error {top : Option Ty} {chain : Chain}
    (failed : (emitFrom s p top chain).2 = .error e) : e.isUnsupported = false := by
  induction chain generalizing top with
  | nil => cases failed
  | cons w chain ih =>
      rw [emitFrom] at failed
      rcases written : write s p top w with ⟨ops, fault | ty⟩
      · rw [written] at failed
        cases failed
        exact write_error (congrArg Prod.snd written)
      · rw [written] at failed
        exact ih failed

end Chain

namespace Parameter

theorem resolve_error {index : Nat} {d : DeclaredParam} {e : CompileError}
    (failed : resolve index d = .error e) : e.isUnsupported = true := by
  obtain ⟨reason, -, rfl⟩ := mapError_eq_error.mp failed
  rfl

/-- The error that a parameter has on its own. -/
def fault? (s : Schema) (index : Nat) (d : DeclaredParam) : Option CompileError :=
  CompileError.of? (check s index d)

theorem fault?_eq_some {s : Schema} {index : Nat} {d : DeclaredParam} {e : CompileError} :
    fault? s index d = some e ↔ check s index d = .error e := by
  rw [fault?]
  cases check s index d <;> simp [CompileError.of?]

/-- Errors of the chains of resolved parameters are of other kinds, so the unsupported ones are
those of resolution. -/
theorem filter_partition {results : List (Except CompileError Parameter)}
    {chain : Parameter → Except CompileError Unit}
    (unsupported : ∀ e, .error e ∈ results → e.isUnsupported = true)
    (others : ∀ p e, chain p = .error e → e.isUnsupported = false) :
    (partition (results.map (· >>= chain))).1.filter CompileError.isUnsupported =
      (partition results).1 := by
  induction results with
  | nil => rfl
  | cons r results ih =>
      have rest := ih fun e member => unsupported e (List.mem_cons_of_mem r member)
      cases r with
      | error e =>
          have here := unsupported e List.mem_cons_self
          exact (List.filter_cons_of_pos here).trans (congrArg (e :: ·) rest)
      | ok p =>
          have here : (partition [chain p]).1.filter CompileError.isUnsupported = [] := by
            cases written : chain p with
            | ok _ => rfl
            | error e => exact List.filter_cons_of_neg (by rw [others p e written]; decide)
          rw [List.map_cons, partition_cons_fst, List.filter_append, rest]
          exact congrArg (· ++ (partition results).1) here

theorem partition_fst (results : List (Except CompileError Unit)) :
    (partition results).1 = (results.map CompileError.of?).reduceOption := by
  induction results with
  | nil => rfl
  | cons r results ih =>
      rw [partition_cons_fst, ih]
      cases r <;> rfl

theorem resolveAll_error (m : DeclaredMethod) :
    (partition (m.params.mapIdx resolve)).1 =
      match resolveAll m with
      | .ok _ => []
      | .error unresolved => unresolved := by
  unfold resolveAll
  rcases partition (m.params.mapIdx resolve) with ⟨_ | ⟨e, errors⟩, params⟩ <;> rfl

end Parameter

namespace DeclaredMethod

variable {s : Schema} {m : DeclaredMethod}

theorem faults_eq (s : Schema) (m : DeclaredMethod) :
    m.faults s = (m.params.mapIdx (Parameter.fault? s)).reduceOption := by
  rw [faults, Parameter.partition_fst, map_mapIdx]
  rfl

theorem mem_faults {e : CompileError} :
    e ∈ m.faults s ↔ ∃ (i : Nat) (d : DeclaredParam),
      m.params[i]? = some d ∧ Parameter.check s i d = .error e := by
  rw [faults_eq, List.reduceOption_mem_iff, List.mem_iff_getElem?]
  simp only [List.getElem?_mapIdx, Option.map_eq_some_iff, Parameter.fault?_eq_some]

/-- The errors of resolution and those of the chains of resolved parameters. -/
theorem faults_eq_partition (s : Schema) (m : DeclaredMethod) :
    m.faults s = (Parameter.partition ((m.params.mapIdx Parameter.resolve).map
      (· >>= fun p => (Chain.emit s p (Chain.ofParameter p)).2))).1 := by
  rw [map_mapIdx]
  rfl

theorem filter_faults (s : Schema) (m : DeclaredMethod) :
    (m.faults s).filter CompileError.isUnsupported =
      (Parameter.partition (m.params.mapIdx Parameter.resolve)).1 := by
  rw [faults_eq_partition]
  refine Parameter.filter_partition (fun e member => ?_) fun p e => Chain.emitFrom_error
  obtain ⟨i, _, failed⟩ := List.mem_mapIdx.mp member
  exact Parameter.resolve_error failed

theorem exists_emits (none : m.faults s = []) :
    ∃ params arguments, Parameter.resolveAll m = .ok params ∧
      List.Forall₂ (Parameter.Emits s) params arguments := by
  -- A run from nothing has the errors of the method, and no errors only if it is complete.
  have errors := Emitter.addParameters_errors (s := s) ⟨[], [], [], []⟩ 0 m.params
  simp only [Nat.zero_add, List.nil_append] at errors
  obtain ⟨-, params, arguments, resolved, emits, -⟩ := Emitter.addParameters_ok (errors.trans none)
  simp only [Nat.zero_add] at resolved
  exact ⟨params, arguments, Parameter.resolveAll_ok.mpr resolved, emits⟩

end DeclaredMethod

namespace Emitter

variable {s : Schema} {controller : String} {m : DeclaredMethod} {errors : List CompileError}

theorem emitParameters_error :
    (start s controller m).emitParameters.1 = .error errors ↔
      m.faults s ≠ [] ∧ errors = m.faults s := by
  obtain ⟨none, e, emitted, -⟩ | ⟨some, e, emitted, -⟩ :=
    emitParameters_cases (e := start s controller m) rfl
  · have clean : m.faults s = [] := none
    rw [emitted]
    exact iff_of_false nofun fun faulty => faulty.1 clean
  · have faulty : m.faults s ≠ [] := some
    rw [emitted, and_iff_right faulty]
    exact ⟨fun failed => (Except.error.inj failed).symm,
      fun same => congrArg Except.error same.symm⟩

theorem emit_of_emitParameters (failed : (start s controller m).emitParameters.1 = .error errors) :
    emit s controller m = .error errors := by
  rw [emit]
  rcases emitted : (start s controller m).emitParameters with ⟨errors' | ⟨⟩, e⟩
  · rw [emitted] at failed
    cases failed
    rfl
  · rw [emitted] at failed
    cases failed

theorem emit_cases (s : Schema) (controller : String) (m : DeclaredMethod) :
    (m.faults s ≠ [] ∧ emit s controller m = .error (m.faults s)) ∨
    (m.faults s = [] ∧ m.params.length < 256 ∧ ∃ u, emit s controller m = .ok u) ∨
    (m.faults s = [] ∧ ¬m.params.length < 256 ∧
      emit s controller m =
        .error [.emission (.tooManyParameters controller m.name m.params.length)]) := by
  by_cases none : m.faults s = []
  · obtain ⟨params, arguments, resolved, emits⟩ := m.exists_emits none
    rw [emit_of_emits controller resolved emits, Parameter.length_resolveAll resolved]
    by_cases few : m.params.length < 256
    · exact .inr (.inl ⟨none, few, _, if_pos few⟩)
    · exact .inr (.inr ⟨none, few, if_neg few⟩)
  · exact .inl ⟨none, emit_of_emitParameters (emitParameters_error.mpr ⟨none, rfl⟩)⟩

/-- That a call cannot take as many parameters is another kind of error. -/
theorem filter_errors (failed : emit s controller m = .error errors) :
    errors.filter CompileError.isUnsupported = (m.faults s).filter CompileError.isUnsupported := by
  obtain ⟨-, reported⟩ | ⟨-, -, u, emitted⟩ | ⟨none, -, reported⟩ := emit_cases s controller m
  · cases reported.symm.trans failed
    rfl
  · cases emitted.symm.trans failed
  · cases reported.symm.trans failed
    rw [none]
    rfl

/-- The parameters of a method fail exactly if one of them fails on its own, and the report has the
errors that they have on their own, one for each and in order. Those of unresolved parameters are
the errors of resolution; the others depend on the schema. Without faulty parameters a method fails
exactly if a call cannot take as many. -/
theorem emit_reports (s : Schema) (controller : String) (m : DeclaredMethod) :
    let stage := (start s controller m).emitParameters.1
    let alone := (m.params.mapIdx (Parameter.fault? s)).reduceOption
    ((∃ errors, stage = .error errors) ↔
      ∃ (i : Nat) (d : DeclaredParam) (e : CompileError),
        m.params[i]? = some d ∧ Parameter.check s i d = .error e) ∧
    (∀ errors, stage = .error errors → errors = alone ∧ emit s controller m = .error alone) ∧
    (∀ errors, emit s controller m = .error errors →
      errors.filter CompileError.isUnsupported =
        match Parameter.resolveAll m with
        | .ok _ => []
        | .error unresolved => unresolved) ∧
    (∀ u, emit s controller m = .ok u → Parameter.resolveAll m = .ok u.params) ∧
    (alone = [] → ((∃ errors, emit s controller m = .error errors) ↔ 255 < m.params.length)) := by
  intro stage alone
  have same : m.faults s = alone := m.faults_eq s
  refine ⟨⟨?_, ?_⟩, fun errors failed => ?_, fun errors failed => ?_, fun u emitted => ?_,
    fun none => ?_⟩
  · rintro ⟨errors, failed⟩
    obtain ⟨some, -⟩ := emitParameters_error.mp failed
    obtain ⟨e, member⟩ := List.exists_mem_of_ne_nil _ some
    obtain ⟨i, d, faulty⟩ := DeclaredMethod.mem_faults.mp member
    exact ⟨i, d, e, faulty⟩
  · rintro ⟨i, d, e, faulty⟩
    have member := DeclaredMethod.mem_faults.mpr ⟨i, d, faulty⟩
    exact ⟨_, emitParameters_error.mpr ⟨List.ne_nil_of_mem member, rfl⟩⟩
  · obtain ⟨-, reported⟩ := emitParameters_error.mp failed
    rw [same] at reported
    exact ⟨reported, reported ▸ emit_of_emitParameters failed⟩
  · rw [filter_errors failed, m.filter_faults s, Parameter.resolveAll_error]
  · obtain ⟨arguments, adapts⟩ := emit_ok emitted
    exact adapts.params
  · rw [← same] at none
    obtain ⟨some, -⟩ | ⟨-, few, u, emitted⟩ | ⟨-, many, reported⟩ := emit_cases s controller m
    · exact absurd none some
    · rw [emitted]
      refine iff_of_false nofun ?_
      omega
    · rw [reported]
      refine iff_of_true ⟨_, rfl⟩ ?_
      omega

/-- The second and the fourth parameter are not resolved; of the others one has no accessor without
queries, and one has no conversion. -/
def muddled : DeclaredMethod where
  name := "list"
  params := [⟨"page", .i32, [⟨"query", none⟩]⟩, ⟨"size", .i32, [⟨"doc", none⟩]⟩,
    ⟨"agent", .str, [⟨"header", none⟩]⟩, ⟨"id", .i64, [⟨"path", none⟩, ⟨"form", none⟩]⟩,
    ⟨"filter", .named "Filter", [⟨"named", none⟩]⟩]
  returns := .void

theorem emit_reports_muddled :
    let errors : List CompileError :=
      [.noAccessor "page" .query .named, .unsupportedParameter "size" (.noSource .i32),
        .unsupportedParameter "id" (.conflicting [.path, .form]),
        .emission (.cannotConvert .value (.named "Filter") "filter")]
    emit (Schema.standard.disable "query") "Pages" muddled = .error errors ∧
      Parameter.resolveAll muddled = .error (errors.filter CompileError.isUnsupported) := by
  intro errors
  obtain ⟨-, staged, unresolved, -⟩ :=
    emit_reports (Schema.standard.disable "query") "Pages" muddled
  obtain ⟨alone, emitted⟩ := staged errors (by decide +kernel)
  rw [← alone] at emitted
  refine ⟨emitted, ?_⟩
  have reported := unresolved errors emitted
  cases resolved : Parameter.resolveAll muddled with
  | ok params =>
      rw [resolved] at reported
      cases reported
  | error found =>
      rw [resolved] at reported
      rw [reported]

end Emitter
end RouteAdapter
