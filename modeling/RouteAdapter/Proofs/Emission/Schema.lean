import Mathlib.Data.List.Nodup
import RouteAdapter.Config.Basic

/-!
# Accessors of a schema

A schema that was made by its operations binds a pair of source and kind at most once. So what is
left when accessors are disabled are the bindings to the others, whatever the order.

* `Schema.Built.distinct`: each binding has one accessor;
* `Schema.Distinct.lookup_disableAll`: the bindings that are left;
* `Schema.Narrows`: all bindings of a schema are those of another.
-/

namespace RouteAdapter

namespace Schema

/-- The schemas that the operations make. -/
inductive Built : Schema → Prop
  | empty : Built .empty
  | standard : Built .standard
  | insert {s : Schema} (built : Built s) (b : Binding) (a : AccessorSpec) : Built (s.insert b a)
  | disable {s : Schema} (built : Built s) (name : String) : Built (s.disable name)

/-- Each binding has one accessor. -/
def Distinct (s : Schema) : Prop :=
  (s.bindings.map Prod.fst).Nodup

instance : DecidablePred Distinct :=
  fun _ => inferInstanceAs (Decidable (List.Nodup _))

variable {s s' : Schema} {b : Binding} {a : AccessorSpec}

theorem Distinct.filter (distinct : s.Distinct) (keep : Binding × AccessorSpec → Bool) :
    Distinct ⟨s.bindings.filter keep⟩ :=
  List.Nodup.sublist (List.filter_sublist.map Prod.fst) distinct

theorem Distinct.insert (distinct : s.Distinct) (b : Binding) (a : AccessorSpec) :
    (s.insert b a).Distinct := by
  have others : ((s.bindings.filter fun entry => entry.1 != b).map Prod.fst).Nodup :=
    distinct.filter _
  have fresh : b ∉ (s.bindings.filter fun entry => entry.1 != b).map Prod.fst := by
    intro member
    obtain ⟨entry, kept, same⟩ := List.mem_map.mp member
    simp [same] at kept
  rw [Distinct, Schema.insert, List.map_append, List.map_singleton, ← List.concat_eq_append]
  exact others.concat fresh

theorem Built.distinct (built : s.Built) : s.Distinct := by
  induction built with
  | empty => exact List.nodup_nil
  | standard => decide
  | insert _ b a ih => exact ih.insert b a
  | disable _ name ih => exact ih.filter _

/-! ## Lookups -/

theorem mem_of_lookup (found : s.lookup b = some a) : (b, a) ∈ s.bindings := by
  obtain ⟨⟨b', a'⟩, entry, rfl⟩ := Option.map_eq_some_iff.mp found
  have same : b' = b := by simpa using List.find?_some entry
  exact same ▸ List.mem_of_find?_eq_some entry

theorem Distinct.lookup_eq_some (distinct : s.Distinct) :
    s.lookup b = some a ↔ (b, a) ∈ s.bindings := by
  refine ⟨mem_of_lookup, fun member => ?_⟩
  cases found : s.lookup b with
  | none =>
      have absent := List.find?_eq_none.mp (Option.map_eq_none_iff.mp found) _ member
      simp at absent
  | some a' =>
      have same := List.inj_on_of_nodup_map distinct (mem_of_lookup found) member rfl
      exact congrArg (fun entry => some entry.2) same

theorem Distinct.lookup_disable (distinct : s.Distinct) {name : String} :
    (s.disable name).lookup b = some a ↔ s.lookup b = some a ∧ a.name ≠ name := by
  have kept : (s.disable name).Distinct := distinct.filter _
  rw [kept.lookup_eq_some, distinct.lookup_eq_some, disable, List.mem_filter, bne_iff_ne]

theorem Distinct.lookup_disableAll (distinct : s.Distinct) {names : List String} :
    (names.foldl disable s).lookup b = some a ↔ s.lookup b = some a ∧ a.name ∉ names := by
  induction names generalizing s with
  | nil => simp
  | cons name names ih =>
      have kept : (s.disable name).Distinct := distinct.filter _
      rw [List.foldl_cons, ih kept, distinct.lookup_disable, List.mem_cons, not_or, and_assoc]

/-! ## Narrowing -/

/-- The other schema agrees with every binding that this one has. -/
def Narrows (s s' : Schema) : Prop :=
  ∀ b a, s.lookup b = some a → s'.lookup b = some a

/-- Disabling an accessor takes every binding to it, and no binding gets another accessor. -/
theorem Built.disableAll_narrows (built : s.Built) (names : List String) :
    (names.foldl Schema.disable s).Narrows s :=
  fun _ _ found => (built.distinct.lookup_disableAll.mp found).1

end Schema

theorem Config.schema_narrows {c c' : Config} (more : c.disabled ⊆ c'.disabled) :
    c'.schema.Narrows c.schema := by
  intro b a found
  have distinct := Schema.Built.standard.distinct
  obtain ⟨bound, enabled⟩ := distinct.lookup_disableAll.mp found
  exact distinct.lookup_disableAll.mpr ⟨bound, fun disabled => enabled (more disabled)⟩

end RouteAdapter
