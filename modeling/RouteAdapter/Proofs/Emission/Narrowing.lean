import RouteAdapter.Proofs.Emission.Faults
import RouteAdapter.Proofs.Emission.Schema

/-!
# Narrowed schemas

With fewer accessors a method has the same unit or none. It has none exactly if it binds a parameter
to an accessor that is missing, and each of these parameters is reported.

* `Parameter.Emits.widen`, `Parameter.Emits.narrow`: the argument of a parameter under two schemas;
* `DeclaredMethod.faults_narrowed`: the errors of a method that the wider schema accepts;
* `Emitter.emit_narrowed`: units and errors under a narrowed schema.
-/

namespace RouteAdapter

/-- There is no accessor for the parameter. -/
def Schema.Lacks (s : Schema) (p : Parameter) : Prop :=
  p.source ≠ .context ∧ s.lookup (p.source, p.kind) = none

instance (s : Schema) : DecidablePred s.Lacks :=
  fun _ => inferInstanceAs (Decidable (_ ∧ _))

namespace Parameter

variable {s s' : Schema} {p : Parameter} {ops : List Op}

theorem Emits.widen (narrows : s.Narrows s') (emits : p.Emits s ops) : p.Emits s' ops := by
  cases emits with
  | context source => exact .context source
  | named source kind found few converts =>
      exact .named source kind (narrows _ _ found) few converts
  | object source kind found few converts =>
      exact .object source kind (narrows _ _ found) few converts

/-- What a schema has for a parameter is what every wider one has for it. -/
theorem lookup_of_not_lacks {kind : SourceKind} {a : AccessorSpec} (narrows : s.Narrows s')
    (has : ¬s.Lacks p) (request : p.source ≠ .context) (known : p.kind = kind)
    (found : s'.lookup (p.source, kind) = some a) : s.lookup (p.source, kind) = some a := by
  subst known
  obtain ⟨a', bound⟩ := Option.ne_none_iff_exists'.mp fun none => has ⟨request, none⟩
  cases found.symm.trans (narrows _ _ bound)
  exact bound

theorem Emits.narrow (narrows : s.Narrows s') (emits : p.Emits s' ops) (has : ¬s.Lacks p) :
    p.Emits s ops := by
  cases emits with
  | context source => exact .context source
  | named source kind found few converts =>
      have bound := lookup_of_not_lacks narrows has source kind found
      exact .named source kind bound few converts
  | object source kind found few converts =>
      have bound := lookup_of_not_lacks narrows has source kind found
      exact .object source kind bound few converts

/-- What is written for a parameter that is bound has been fetched. -/
theorem Emits.exists_lookup (emits : p.Emits s ops) (request : p.source ≠ .context) :
    ∃ a, s.lookup (p.source, p.kind) = some a := by
  cases emits with
  | context source => exact absurd source request
  | named _ kind found => exact ⟨_, kind ▸ found⟩
  | object _ kind found => exact ⟨_, kind ▸ found⟩

/-- The error of a parameter without an accessor. -/
def missing (p : Parameter) : CompileError :=
  .noAccessor p.name p.source p.kind

end Parameter

namespace Chain

variable {s s' : Schema} {p : Parameter}

theorem emit_lacking (lacks : s.Lacks p) : (emit s p (ofParameter p)).2 = .error p.missing := by
  obtain ⟨request, none⟩ := lacks
  cases kind : p.kind with
  | named =>
      rw [kind] at none
      simp only [emit, ofParameter, request, Parameter.isNamed, kind, decide_true, ↓reduceIte,
        emitFrom, write, fetch, lookup, none, Parameter.missing]
  | object =>
      rw [kind] at none
      simp only [emit, ofParameter, request, Parameter.isNamed, kind, reduceCtorEq, decide_false,
        Bool.false_eq_true, ↓reduceIte, emitFrom, write, fetch, lookup, none, Parameter.missing]

theorem emit_of_narrows {ops : List Op} (narrows : s.Narrows s') (emits : p.Emits s' ops) :
    (emit s p (ofParameter p)).2 = if s.Lacks p then .error p.missing else .ok () := by
  split
  · rename_i lacks
    exact emit_lacking lacks
  · rename_i has
    rw [emit_eq_ok.mpr (emits.narrow narrows has)]

end Chain

theorem DeclaredMethod.faults_narrowed {s s' : Schema} {m : DeclaredMethod}
    {params : List Parameter} {arguments : List (List Op)} (narrows : s.Narrows s')
    (resolved : Parameter.resolveAll m = .ok params)
    (emits : List.Forall₂ (Parameter.Emits s') params arguments) :
    m.faults s = (params.filter fun p => s.Lacks p).map Parameter.missing := by
  rw [faults_eq_partition, Parameter.resolveAll_eq_ok.mp resolved, List.map_map]
  -- Only their arguments are known of the parameters that are left in the induction.
  clear resolved
  induction emits with
  | nil => rfl
  | @cons p _ params _ first _ ih =>
      have here : ((· >>= fun p => (Chain.emit s p (Chain.ofParameter p)).2) ∘ Except.ok) p =
          if s.Lacks p then .error p.missing else .ok () := Chain.emit_of_narrows narrows first
      rw [List.map_cons, here]
      by_cases lacks : s.Lacks p
      · rw [if_pos lacks, List.filter_cons, if_pos (decide_eq_true lacks)]
        exact congrArg (p.missing :: ·) ih
      · rw [if_neg lacks, List.filter_cons, if_neg (mt of_decide_eq_true lacks)]
        exact ih

namespace Emitter

/-- What is emitted under a schema is emitted unchanged under every wider one. A method that is
emitted under the wider schema alone has one error for each parameter whose accessor the narrower
one lacks, in order, and no other. Schemas are narrowed by disabling accessors, and so are those of
configurations that disable more. -/
theorem emit_narrowed :
    (∀ s s' : Schema, s.Narrows s' → ∀ (controller : String) (m : DeclaredMethod),
      (∀ u, emit s controller m = .ok u → emit s' controller m = .ok u) ∧
      ∀ u errors, emit s' controller m = .ok u → emit s controller m = .error errors →
        errors = (u.params.filter fun p => s.Lacks p).map Parameter.missing ∧ errors ≠ [] ∧
          ∀ p ∈ u.params, s.Lacks p → ∃ a, s'.lookup (p.source, p.kind) = some a) ∧
    (∀ s : Schema, s.Built → ∀ names : List String, (names.foldl Schema.disable s).Narrows s) ∧
    ∀ c c' : Config, c.disabled ⊆ c'.disabled → c'.schema.Narrows c.schema := by
  refine ⟨fun s s' narrows controller m => ⟨fun u emitted => ?_, fun u errors emitted failed => ?_⟩,
    fun s => Schema.Built.disableAll_narrows, fun c c' => Config.schema_narrows⟩
  · obtain ⟨params, arguments, resolved, few, emits, same⟩ := emit_eq_ok.mp emitted
    exact emit_eq_ok.mpr
      ⟨params, arguments, resolved, few, emits.imp fun _ _ => Parameter.Emits.widen narrows, same⟩
  · obtain ⟨arguments, adapts⟩ := emit_ok emitted
    have faults := DeclaredMethod.faults_narrowed narrows adapts.params adapts.emits
    obtain ⟨some, reported⟩ | ⟨-, -, u', other⟩ | ⟨-, many, -⟩ := emit_cases s controller m
    · cases reported.symm.trans failed
      refine ⟨faults, some, fun p param lacks => ?_⟩
      obtain ⟨argument, -, emits⟩ := exists_of_mem_forall₂ adapts.emits param
      exact emits.exists_lookup lacks.1
    · cases other.symm.trans failed
    · have few := adapts.few
      rw [Parameter.length_resolveAll adapts.params] at few
      exact absurd few many

def search : DeclaredMethod where
  name := "search"
  params := [⟨"page", .i32, [⟨"query", none⟩]⟩, ⟨"ctx", .context, []⟩,
    ⟨"area", .str, [⟨"path", none⟩]⟩, ⟨"note", .value, [⟨"flash", none⟩]⟩]
  returns := .named "Page"

/-- Without queries and flash values. -/
def restricted : Config :=
  { Config.standard with disabled := ["flash", "query"] }

theorem emit_narrowed_search :
    let errors : List CompileError :=
      [.noAccessor "page" .query .named, .noAccessor "note" .flash .named]
    restricted.schema.Narrows Config.standard.schema ∧
      (∃ u, emit Config.standard.schema "Pages" search = .ok u ∧
        (u.params.filter fun p => restricted.schema.Lacks p).map Parameter.missing = errors) ∧
      emit restricted.schema "Pages" search = .error errors ∧
      ∃ u, emit restricted.schema "Users" plainMethod = .ok u ∧
        emit Config.standard.schema "Users" plainMethod = .ok u := by
  intro errors
  obtain ⟨units, -, configs⟩ := emit_narrowed
  have narrows : restricted.schema.Narrows Config.standard.schema := configs _ _ nofun
  obtain ⟨-, report⟩ := units _ _ narrows "Pages" search
  obtain ⟨keep, -⟩ := units _ _ narrows "Users" plainMethod
  have failed : emit restricted.schema "Pages" search = .error errors := by decide +kernel
  exact ⟨narrows, ⟨_, rfl, (report _ _ rfl failed).1.symm⟩, failed, _, rfl, keep _ rfl⟩

end Emitter
end RouteAdapter
