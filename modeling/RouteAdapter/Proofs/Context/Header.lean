import Mathlib.Data.List.Basic
import RouteAdapter.Proofs.Context.Insertion

/-!
# Header lookup

Headers are stored under the names they are inserted with and looked up without regard to ASCII
case. A lookup answers for the first of the names that match, in the order of names, so it finds all
values exactly if they were inserted under one spelling.

* `Dict.Ascending.least_of_find?`: the first entry of a dictionary that matches;
* `Request.header_of_leads`, `Request.header_missing_iff`: what a lookup answers;
* `Request.header_complete_iff`: when it answers everything;
* `Request.lossless_iff`: histories of which every header is found.
-/

namespace RouteAdapter

theorem Dict.Ascending.least_of_find? {α : Type} {d : List (String × α)} {key : String} {a : α}
    (ascending : Ascending d) (p : String → Bool)
    (found : d.find? (fun entry => p entry.1) = some (key, a)) :
    get? d key = some a ∧ p key = true ∧
      ∀ other b, get? d other = some b → p other = true → key ≤ other := by
  induction d with
  | nil => cases found
  | cons first rest ih =>
      obtain ⟨k, b⟩ := first
      obtain ⟨least, others⟩ := List.pairwise_cons.mp ascending
      rw [List.find?_cons] at found
      cases here : p k with
      | true =>
          rw [here] at found
          cases found
          refine ⟨by simp [get?], here, fun other c held _ => ?_⟩
          rw [get?] at held
          split at held
          · rename_i same
            exact same ▸ String.le_refl _
          · exact Std.le_of_lt (least (other, c) (mem_of_get? held))
      | false =>
          rw [here] at found
          obtain ⟨held, matching, before⟩ := ih others found
          have apart {n : String} (hit : p n = true) : k ≠ n := by
            rintro rfl
            exact absurd (here.symm.trans hit) Bool.false_ne_true
          refine ⟨by rw [get?, if_neg (apart matching), held], matching, fun other c held hit => ?_⟩
          rw [get?, if_neg (apart hit)] at held
          exact before other c held hit

namespace Request

variable {entries : List Entry} {name other spelling : String}

/-! ## Names up to case -/

theorem sameIgnoringCase_iff {a b : String} :
    sameIgnoringCase a b = true ↔ a.toList.map Char.toLower = b.toList.map Char.toLower :=
  beq_iff_eq

theorem sameIgnoringCase_congr {a b : String} (same : sameIgnoringCase a b = true) (c : String) :
    sameIgnoringCase c a = sameIgnoringCase c b := by
  rw [sameIgnoringCase, sameIgnoringCase, sameIgnoringCase_iff.mp same]

/-- What was inserted as a header under the name in any case, in order. -/
def headerValues (name : String) (entries : List Entry) : List String :=
  (entries.filter fun e => e.1 = .header ∧ sameIgnoringCase e.2.1 name).map fun e => e.2.2

/-- The first of the inserted names that are the given one in some case. -/
structure Leads (spelling name : String) (entries : List Entry) : Prop where
  inserted : ∃ value, (.header, spelling, value) ∈ entries
  alike : sameIgnoringCase spelling name = true
  least : ∀ other value, (.header, other, value) ∈ entries →
    sameIgnoringCase other name = true → spelling ≤ other

/-- The name was inserted in one case only. -/
def OneSpelling (name : String) (entries : List Entry) : Prop :=
  ∀ a b value value', (.header, a, value) ∈ entries → (.header, b, value') ∈ entries →
    sameIgnoringCase a name = true → sameIgnoringCase b name = true → a = b

/-! ## Lookups -/

theorem ascending_insertAll {r : Request} (ascending : ∀ facet, Dict.Ascending (r.facets facet))
    (entries : List Entry) (facet : Facet) :
    Dict.Ascending ((r.insertAll entries).facets facet) := by
  induction entries generalizing r with
  | nil => exact ascending facet
  | cons e entries ih =>
      refine ih fun f => ?_
      simp only [insert]
      split
      · exact Dict.Ascending.insert (ascending _)
      · exact ascending f

theorem valuesAt_ne_nil_iff {facet : Facet} :
    valuesAt facet name entries ≠ [] ↔ ∃ value, (facet, name, value) ∈ entries := by
  rw [valuesAt, Ne, List.map_eq_nil_iff, List.filter_eq_nil_iff]
  simp

theorem headerValues_eq_nil_iff : headerValues name entries = [] ↔
    ∀ n value, (.header, n, value) ∈ entries → sameIgnoringCase n name = false := by
  rw [headerValues, List.map_eq_nil_iff, List.filter_eq_nil_iff]
  constructor
  · intro none n value member
    simpa using none _ member
  · rintro none ⟨facet, n, value⟩ member
    rw [decide_eq_true_eq]
    rintro ⟨rfl, same⟩
    rw [none n value member] at same
    cases same

theorem get?_headers (entries : List Entry) {n : String} {values : List String} :
    Dict.get? ((empty.insertAll entries).facets .header) n = some values ↔
      values = valuesAt .header n entries ∧ ∃ value, (.header, n, value) ∈ entries := by
  rw [get?_insertAll_empty, ← valuesAt_ne_nil_iff]
  split
  · rename_i none
    simp [none]
  · rename_i some
    simp [some, eq_comm]

/-- A lookup answers for the first spelling that was inserted, if there is one. -/
theorem header_cases (name : String) (entries : List Entry) :
    (headerValues name entries = [] ∧ (empty.insertAll entries).header name = .missing name) ∨
      ∃ spelling, Leads spelling name entries ∧
        (empty.insertAll entries).header name = ⟨name, valuesAt .header spelling entries⟩ := by
  have none (facet : Facet) : Dict.Ascending (empty.facets facet) := List.Pairwise.nil
  have ascending := ascending_insertAll none entries .header
  rw [header]
  split
  · rename_i spelling values found
    obtain ⟨held, alike, least⟩ := ascending.least_of_find? (sameIgnoringCase · name) found
    obtain ⟨rfl, inserted⟩ := (get?_headers entries).mp held
    refine .inr ⟨spelling, ⟨inserted, alike, fun other value member same => ?_⟩, rfl⟩
    exact least other _ ((get?_headers entries).mpr ⟨rfl, value, member⟩) same
  · rename_i nothing
    refine .inl ⟨headerValues_eq_nil_iff.mpr fun n value member => ?_, rfl⟩
    have held := (get?_headers entries).mpr ⟨rfl, value, member⟩
    exact Bool.eq_false_iff.mpr (List.find?_eq_none.mp nothing _ (Dict.mem_of_get? held))

theorem Leads.unique {spelling' : String} (first : Leads spelling name entries)
    (second : Leads spelling' name entries) : spelling = spelling' := by
  obtain ⟨value, inserted⟩ := first.inserted
  obtain ⟨value', inserted'⟩ := second.inserted
  exact String.le_antisymm (first.least _ _ inserted' second.alike)
    (second.least _ _ inserted first.alike)

theorem header_of_leads (leads : Leads spelling name entries) :
    (empty.insertAll entries).header name = ⟨name, valuesAt .header spelling entries⟩ := by
  obtain ⟨nothing, -⟩ | ⟨first, other, answer⟩ := header_cases name entries
  · obtain ⟨value, inserted⟩ := leads.inserted
    cases leads.alike.symm.trans (headerValues_eq_nil_iff.mp nothing _ _ inserted)
  · rw [answer, other.unique leads]

theorem header_missing_iff :
    (empty.insertAll entries).header name = .missing name ↔ headerValues name entries = [] := by
  obtain ⟨nothing, answer⟩ | ⟨spelling, leads, answer⟩ := header_cases name entries
  · exact iff_of_true answer nothing
  · have some : valuesAt .header spelling entries ≠ [] := valuesAt_ne_nil_iff.mpr leads.inserted
    obtain ⟨value, inserted⟩ := leads.inserted
    refine iff_of_false (fun missing => some ?_) fun nothing => ?_
    · exact congrArg RawValue.values (answer.symm.trans missing)
    · cases leads.alike.symm.trans (headerValues_eq_nil_iff.mp nothing _ _ inserted)

theorem header_congr (r : Request) (same : sameIgnoringCase name other = true) :
    (r.header name).values = (r.header other).values := by
  simp only [header, sameIgnoringCase_congr same]
  split <;> rfl

/-! ## Complete lookups -/

/-- The values of one spelling are those of all if there is no other. -/
theorem valuesAt_eq_headerValues_iff (alike : sameIgnoringCase spelling name = true) :
    valuesAt .header spelling entries = headerValues name entries ↔
      ∀ n value, (.header, n, value) ∈ entries → sameIgnoringCase n name = true → n = spelling := by
  constructor
  · intro same n value member matching
    have narrower : (entries.filter fun e => e.1 = .header ∧ e.2.1 = spelling).Sublist
        (entries.filter fun e => e.1 = .header ∧ sameIgnoringCase e.2.1 name) := by
      refine List.monotone_filter_right entries fun e => ?_
      simp only [decide_eq_true_eq]
      rintro ⟨header, rfl⟩
      exact ⟨header, alike⟩
    have length := congrArg List.length same
    rw [valuesAt, headerValues, List.length_map, List.length_map] at length
    have listed : (.header, n, value) ∈ entries.filter fun e =>
        e.1 = .header ∧ sameIgnoringCase e.2.1 name :=
      List.mem_filter.mpr ⟨member, decide_eq_true ⟨rfl, matching⟩⟩
    rw [← narrower.eq_of_length length] at listed
    exact (of_decide_eq_true (List.mem_filter.mp listed).2).2
  · intro one
    rw [valuesAt, headerValues]
    refine congrArg _ (List.filter_congr fun e member => decide_eq_decide.mpr ?_)
    obtain ⟨facet, n, value⟩ := e
    refine and_congr_right fun header => ⟨?_, fun matching => ?_⟩
    · rintro rfl
      exact alike
    · subst header
      exact one n value member matching

/-- A lookup answers everything exactly if there is one spelling. -/
theorem header_complete_iff :
    (empty.insertAll entries).header name = ⟨name, headerValues name entries⟩ ↔
      OneSpelling name entries := by
  obtain ⟨nothing, answer⟩ | ⟨spelling, leads, answer⟩ := header_cases name entries
  · refine iff_of_true (by rw [answer, nothing]; rfl) fun a b value value' inserted _ same => ?_
    cases same.symm.trans (headerValues_eq_nil_iff.mp nothing _ _ inserted)
  · rw [answer, RawValue.mk.injEq]
    simp only [true_and, valuesAt_eq_headerValues_iff leads.alike]
    obtain ⟨first, inserted⟩ := leads.inserted
    constructor
    · intro one a b value value' left right same same'
      rw [one a value left same, one b value' right same']
    · intro one n value member matching
      exact one n spelling value first member inserted matching leads.alike

/-- Header lookup disregards case and finds every value that was inserted, in order. -/
structure Lossless (entries : List Entry) : Prop where
  complete : ∀ name,
    (empty.insertAll entries).header name = ⟨name, headerValues name entries⟩
  alike : ∀ name other, sameIgnoringCase name other = true →
    ((empty.insertAll entries).header name).values =
      ((empty.insertAll entries).header other).values
  fresh : ∀ earlier name value, entries = earlier ++ [(.header, name, value)] →
    value ∈ ((empty.insertAll entries).header name).values

theorem lossless_of_oneSpelling (one : ∀ name, OneSpelling name entries) : Lossless entries := by
  refine ⟨fun name => header_complete_iff.mpr (one name), fun name other => header_congr _, ?_⟩
  rintro earlier name value rfl
  rw [header_complete_iff.mpr (one name), headerValues]
  simp [sameIgnoringCase]

/-- Names that differ in case are always answered alike, and nothing is answered exactly if nothing
was inserted. But the answer is that of the first spelling, so every header is found exactly if no
two names differ only in case. -/
theorem lossless_iff (entries : List Entry) :
    (∀ name other, sameIgnoringCase name other = true →
      ((empty.insertAll entries).header name).values =
        ((empty.insertAll entries).header other).values) ∧
    (∀ name, (empty.insertAll entries).header name = .missing name ↔
      headerValues name entries = []) ∧
    (∀ name spelling, Leads spelling name entries →
      (empty.insertAll entries).header name = ⟨name, valuesAt .header spelling entries⟩) ∧
    (∀ name, (empty.insertAll entries).header name = ⟨name, headerValues name entries⟩ ↔
      OneSpelling name entries) ∧
    (Lossless entries ↔ ∀ name, OneSpelling name entries) := by
  refine ⟨fun name other => header_congr _, fun name => header_missing_iff,
    fun name spelling => header_of_leads, fun name => header_complete_iff, fun lossless name => ?_,
    lossless_of_oneSpelling⟩
  exact header_complete_iff.mp (lossless.complete name)

/-- The second of two values under names that differ in case is lost. -/
theorem header_lost :
    let entries : List Entry := [(.header, "X-Tag", "1"), (.header, "x-tag", "2")]
    (empty.insertAll entries).header "x-tag" = ⟨"x-tag", ["1"]⟩ ∧
      headerValues "x-tag" entries = ["1", "2"] ∧ ¬ Lossless entries := by
  intro entries
  have answer : (empty.insertAll entries).header "x-tag" = ⟨"x-tag", ["1"]⟩ := by decide +kernel
  refine ⟨answer, by decide +kernel, fun lossless => ?_⟩
  have fresh := lossless.fresh [(.header, "X-Tag", "1")] "x-tag" "2" rfl
  rw [answer] at fresh
  exact absurd fresh (by decide)

end Request
end RouteAdapter
