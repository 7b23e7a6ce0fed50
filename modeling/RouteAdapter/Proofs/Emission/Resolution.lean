import RouteAdapter.Emission.Parameter
import RouteAdapter.Emission.Schema
import RouteAdapter.Proofs.Outcome

/-!
# Where parameters come from

The source of a parameter is that of its only annotation that names one. A context needs no
annotation, and all others are left alone. What can be bound from a source depends on the type, and
whatever is bound has an accessor in the standard schema, unless it is the context.

* `DeclaredParam.Binds`: the sources that a declared parameter can be bound from;
* `Parameter.resolve_eq_ok`: resolution finds these and no others;
* `Parameter.resolve_exact`: the relation, the annotations it depends on, and the accessors.
-/

namespace RouteAdapter

/-! ## Annotations -/

theorem Source.ofTag?_eq_some {tag : String} {source : Source} :
    ofTag? tag = some source ↔ tag = source.tag := by
  constructor
  · intro found
    have same := List.find?_some found
    exact (beq_iff_eq.mp same).symm
  · rintro rfl
    cases source <;> decide

namespace Annotation

/-- The annotation names no source. -/
def Foreign (a : Annotation) : Prop :=
  ∀ source : Source, a.kind ≠ source.tag

theorem foreign_iff {a : Annotation} : a.Foreign ↔ Source.ofTag? a.kind = none := by
  rw [Option.eq_none_iff_forall_ne_some]
  exact forall_congr' fun source => not_congr Source.ofTag?_eq_some.symm

instance : DecidablePred Foreign :=
  fun _ => decidable_of_iff _ foreign_iff.symm

end Annotation

/-! ## The relation -/

namespace DeclaredParam

/-- The source of a parameter and the name that goes with it: those of the only annotation that
names a source, or the context without an annotation. -/
inductive Origin (d : DeclaredParam) : Source → Option String → Prop
  | annotated {front back : List Annotation} {a : Annotation} {source : Source}
      (annotations : d.annotations = front ++ a :: back) (tag : a.kind = source.tag)
      (only : ∀ other ∈ front ++ back, other.Foreign) : Origin d source a.name
  | injected (context : d.ty = .context) (all : ∀ other ∈ d.annotations, other.Foreign) :
      Origin d .context none

/-- The parameter can be bound from the source. -/
structure Binds (d : DeclaredParam) (source : Source) (explicit : Option String) : Prop where
  nonvoid : d.ty ≠ .void
  origin : d.Origin source explicit
  context : d.ty = .context ↔ source = .context
  bindable : source ∈ [.body, .context, .named] ∨ d.ty.isScalarLike ∨ d.ty = .map ∨ d.ty.isComposite

end DeclaredParam

/-- Bodies and the context are bound as a whole, values of no particular facet by name, and all
others as the type asks for. -/
def SourceKind.of (source : Source) (ty : Ty) : SourceKind :=
  if source = .body ∨ source = .context then .object
  else if source = .named ∨ ty.isScalarLike then .named
  else .object

def DeclaredParam.bound (index : Nat) (d : DeclaredParam) (source : Source)
    (explicit : Option String) : Parameter where
  index := index
  name := d.name
  httpName := (explicit.filter (· ≠ "")).getD d.name
  kind := .of source d.ty
  ty := d.ty
  source := source

namespace Parameter

theorem sources_of_foreign {annotations : List Annotation}
    (foreign : ∀ a ∈ annotations, a.Foreign) : sources annotations = [] := by
  rw [sources, List.filterMap_eq_nil_iff]
  intro a member
  have unknown := Annotation.foreign_iff.mp (foreign a member)
  rw [unknown]
  rfl

/-- Annotations that name no source are never looked at. -/
theorem sources_filter (annotations : List Annotation) :
    sources (annotations.filter fun a => ¬a.Foreign) = sources annotations := by
  rw [sources, List.filterMap_filter]
  refine List.filterMap_congr fun a _ => ?_
  by_cases foreign : a.Foreign
  · simp [foreign, Annotation.foreign_iff.mp foreign]
  · simp [foreign]

theorem sources_eq_singleton {annotations : List Annotation} {source : Source}
    {explicit : Option String} :
    sources annotations = [(source, explicit)] ↔
      ∃ front a back, annotations = front ++ a :: back ∧ a.kind = source.tag ∧ a.name = explicit ∧
        ∀ other ∈ front ++ back, other.Foreign := by
  have named (a : Annotation) :
      (Source.ofTag? a.kind).map (fun s => (s, a.name)) = some (source, explicit) ↔
        a.kind = source.tag ∧ a.name = explicit := by
    simp [Option.map_eq_some_iff, Source.ofTag?_eq_some]
  have nameless (a : Annotation) :
      (Source.ofTag? a.kind).map (fun s => (s, a.name)) = none ↔ a.Foreign := by
    rw [Option.map_eq_none_iff, Annotation.foreign_iff]
  simp only [sources, List.filterMap_eq_cons_iff, List.filterMap_eq_nil_iff, named, nameless,
    List.forall_mem_append]
  constructor
  · rintro ⟨front, a, back, whole, before, ⟨tag, name⟩, after⟩
    exact ⟨front, a, back, whole, tag, name, before, after⟩
  · rintro ⟨front, a, back, whole, tag, name, before, after⟩
    exact ⟨front, a, back, whole, before, ⟨tag, name⟩, after⟩

theorem sourceOf_eq_ok {d : DeclaredParam} {source : Source} {explicit : Option String} :
    sourceOf d.ty (sources d.annotations) = .ok (source, explicit) ↔ d.Origin source explicit := by
  constructor
  · intro found
    unfold sourceOf at found
    split at found
    · rename_i none
      split at found
      · rename_i context
        cases found
        refine .injected context fun a member => ?_
        have nameless := List.filterMap_eq_nil_iff.mp none a member
        exact Annotation.foreign_iff.mpr (Option.map_eq_none_iff.mp nameless)
      · cases found
    · rename_i one
      cases found
      obtain ⟨front, a, back, whole, tag, rfl, only⟩ := sources_eq_singleton.mp one
      exact .annotated whole tag only
    · cases found
  · intro origin
    cases origin with
    | @annotated front back a _ whole tag only =>
        rw [sources_eq_singleton.mpr ⟨front, a, back, whole, tag, rfl, only⟩]
        rfl
    | injected context all => rw [sources_of_foreign all, sourceOf, if_pos context]

theorem kindFor_eq (source : Source) (ty : Ty) :
    kindFor source ty =
      if source ∈ [.body, .context, .named] ∨ ty.isScalarLike ∨ ty = .map ∨ ty.isComposite then
        some (.of source ty)
      else none := by
  by_cases scalar : ty.isScalarLike <;> by_cases whole : ty = .map ∨ ty.isComposite <;>
    cases source <;> simp [kindFor, SourceKind.of, scalar, whole]

theorem wireName_eq (declared : String) (explicit : Option String) :
    wireName declared explicit = (explicit.filter (· ≠ "")).getD declared := by
  cases explicit with
  | none => rfl
  | some name => by_cases empty : name = "" <;> simp [wireName, Option.filter, empty]

theorem resolve_eq_ok {index : Nat} {d : DeclaredParam} {p : Parameter} :
    resolve index d = .ok p ↔
      ∃ source explicit, d.Binds source explicit ∧ p = d.bound index source explicit := by
  have nonvoid : d.ty.isVoid = true ↔ d.ty = .void := by
    cases d.ty <;> simp [Ty.isVoid]
  rw [resolve, mapError_eq_ok]
  constructor
  · intro resolved
    split at resolved
    · cases resolved
    · rename_i written
      obtain ⟨⟨source, explicit⟩, found, checked⟩ := bind_eq_ok.mp resolved
      dsimp only at checked
      split at checked
      · cases checked
      · rename_i alike
        rw [kindFor_eq] at checked
        split at checked
        · rename_i kind bound
          obtain ⟨bindable, same⟩ := Option.ite_none_right_eq_some.mp bound
          cases checked
          cases same
          refine ⟨source, explicit, ⟨mt nonvoid.mpr written, sourceOf_eq_ok.mp found,
            not_not.mp alike, bindable⟩, ?_⟩
          rw [wireName_eq]
          rfl
        · cases checked
  · rintro ⟨source, explicit, ⟨written, origin, alike, bindable⟩, rfl⟩
    rw [if_neg (mt nonvoid.mp written)]
    refine bind_eq_ok.mpr ⟨_, sourceOf_eq_ok.mpr origin, ?_⟩
    dsimp only
    rw [if_neg (not_not.mpr alike), kindFor_eq, if_pos bindable, wireName_eq]
    rfl

theorem exists_standard {source : Source} (request : source ≠ .context) (ty : Ty) :
    ∃ a, Schema.standard.lookup (source, .of source ty) = some a := by
  cases source with
  | context => exact absurd rfl request
  | body => exact ⟨_, rfl⟩
  | named => exact ⟨_, rfl⟩
  | path => cases SourceKind.of .path ty <;> exact ⟨_, rfl⟩
  | query => cases SourceKind.of .query ty <;> exact ⟨_, rfl⟩
  | header => cases SourceKind.of .header ty <;> exact ⟨_, rfl⟩
  | form => cases SourceKind.of .form ty <;> exact ⟨_, rfl⟩
  | session => cases SourceKind.of .session ty <;> exact ⟨_, rfl⟩
  | flash => cases SourceKind.of .flash ty <;> exact ⟨_, rfl⟩

theorem resolve_filter (index : Nat) (d : DeclaredParam) :
    resolve index { d with annotations := d.annotations.filter fun a => ¬a.Foreign } =
      resolve index d := by
  simp only [resolve, sources_filter]

/-- Resolution is the relation `Binds`, with the parameter that is bound. Its outcome, errors
included, depends on the annotations that name sources alone, in their order: the foreign ones can
be inserted, removed and moved. What is bound has an accessor in the standard schema, unless it is
the context. -/
theorem resolve_exact (index : Nat) (d : DeclaredParam) :
    (∀ p, resolve index d = .ok p ↔
      ∃ source explicit, d.Binds source explicit ∧ p = d.bound index source explicit) ∧
    (∀ annotations : List Annotation,
      (annotations.filter fun a => ¬a.Foreign) = (d.annotations.filter fun a => ¬a.Foreign) →
        resolve index { d with annotations := annotations } = resolve index d) ∧
    ∀ p, resolve index d = .ok p → p.source ≠ .context →
      ∃ a, Schema.standard.lookup (p.source, p.kind) = some a := by
  refine ⟨fun p => resolve_eq_ok, fun annotations same => ?_, fun p resolved request => ?_⟩
  · rw [← resolve_filter index d, ← same]
    exact (resolve_filter index { d with annotations := annotations }).symm
  · obtain ⟨source, explicit, -, rfl⟩ := resolve_eq_ok.mp resolved
    exact exists_standard request d.ty

def agent : DeclaredParam :=
  ⟨"agent", .option .str, [⟨"doc", some "the browser"⟩, ⟨"header", some "User-Agent"⟩]⟩

theorem resolve_exact_agent :
    let p : Parameter := ⟨2, "agent", "User-Agent", .named, .option .str, .header⟩
    resolve 2 agent = .ok p ∧
      resolve 2 { agent with annotations := [⟨"header", some "User-Agent"⟩, ⟨"Path", none⟩] } =
        .ok p ∧
      ∃ a, Schema.standard.lookup (p.source, p.kind) = some a := by
  intro p
  obtain ⟨relation, foreign, standard⟩ := resolve_exact 2 agent
  have binds : agent.Binds .header (some "User-Agent") := by
    have whole : agent.annotations =
        [⟨"doc", some "the browser"⟩] ++ ⟨"header", some "User-Agent"⟩ :: [] := rfl
    exact ⟨by decide, .annotated whole rfl (by decide), by decide, .inr (.inl rfl)⟩
  have resolved : resolve 2 agent = .ok p := (relation p).mpr ⟨_, _, binds, rfl⟩
  exact ⟨resolved, (foreign _ (by decide)).trans resolved, standard p resolved (by decide)⟩

end Parameter
end RouteAdapter
