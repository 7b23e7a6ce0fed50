import Mathlib.Data.List.TakeWhile
import RouteAdapter.Text.Blank

/-!
# Blanks and trimming

Trimming takes the blanks off both ends and nothing else, so blanks at the ends do not matter to
what is left.

* `Text.trim_eq_self`: texts without blanks at their ends;
* `Text.exists_trim`: what trimming takes off;
* `Text.trim_padded`: texts with more blanks at their ends.
-/

namespace RouteAdapter.Text

theorem dropWhile_blank {s : List Char} (first : ∀ c, s.head? = some c → isBlank c = false) :
    s.dropWhile isBlank = s := by
  cases s with
  | nil => rfl
  | cons c s =>
      rw [List.dropWhile_cons, first c rfl]
      rfl

theorem trim_eq_self {s : List Char} (first : ∀ c, s.head? = some c → isBlank c = false)
    (last : ∀ c, s.getLast? = some c → isBlank c = false) : trim s = s := by
  have reversed : ∀ c, s.reverse.head? = some c → isBlank c = false := by
    intro c h
    rw [List.head?_reverse] at h
    exact last c h
  rw [trim, trimStart, trimEnd, dropWhile_blank first, dropWhile_blank reversed,
    List.reverse_reverse]

theorem trim_sublist (s : List Char) : (trim s).Sublist s := by
  have front : (trimStart s).Sublist s := List.dropWhile_sublist isBlank
  have back : (trimEnd (trimStart s)).Sublist (trimStart s) := by
    rw [trimEnd, ← List.reverse_sublist, List.reverse_reverse]
    exact List.dropWhile_sublist isBlank
  exact back.trans front

/-- Blanks and nothing else. -/
def Blank (s : List Char) : Prop :=
  ∀ c ∈ s, isBlank c = true

instance : DecidablePred Blank := fun _ =>
  decidable_of_iff _ List.all_eq_true

/-- A text with nothing but blanks of some kind around it. -/
def Padded (isBlank : Char → Bool) (core s : List Char) : Prop :=
  ∃ front back, (∀ c ∈ front, isBlank c = true) ∧ (∀ c ∈ back, isBlank c = true) ∧
    s = front ++ core ++ back

theorem Blank.not_mem {s : List Char} (blank : Blank s) {c : Char} (visible : isBlank c = false) :
    c ∉ s := by
  intro member
  rw [blank c member] at visible
  cases visible

theorem exists_trimStart (s : List Char) : ∃ front, Blank front ∧ s = front ++ trimStart s :=
  ⟨s.takeWhile isBlank, fun _ member => List.mem_takeWhile_imp member,
    List.takeWhile_append_dropWhile.symm⟩

theorem exists_trimEnd (s : List Char) : ∃ back, Blank back ∧ s = trimEnd s ++ back := by
  obtain ⟨front, blank, split⟩ := exists_trimStart s.reverse
  refine ⟨front.reverse, fun c member => blank c (List.mem_reverse.mp member), ?_⟩
  rw [trimEnd, ← List.reverse_append, ← trimStart, ← split, List.reverse_reverse]

theorem exists_trim (s : List Char) :
    ∃ front back, Blank front ∧ Blank back ∧ s = front ++ trim s ++ back := by
  obtain ⟨front, before, start⟩ := exists_trimStart s
  obtain ⟨back, after, rest⟩ := exists_trimEnd (trimStart s)
  refine ⟨front, back, before, after, ?_⟩
  rw [List.append_assoc, trim, ← rest, ← start]

theorem trimEnd_append (s : List Char) {back : List Char} (blank : Blank back) :
    trimEnd (s ++ back) = trimEnd s := by
  have reversed : ∀ c ∈ back.reverse, isBlank c = true := fun c member =>
    blank c (List.mem_reverse.mp member)
  rw [trimEnd, List.reverse_append, List.dropWhile_append_of_pos reversed, trimEnd]

theorem trim_padded {front back : List Char} (before : Blank front) (s : List Char)
    (after : Blank back) : trim (front ++ s ++ back) = trim s := by
  rw [List.append_assoc, trim, trimStart, List.dropWhile_append_of_pos before, ← trimStart,
    trimStart, List.dropWhile_append]
  split
  · -- Nothing is left of the text, so nothing of the blanks behind it.
    rename_i empty
    have none : back.dropWhile isBlank = [] := List.dropWhile_eq_nil_iff.mpr after
    rw [none, trim, trimStart, List.isEmpty_iff.mp empty]
  · exact trimEnd_append _ after

theorem isBlank_of_head?_trim {s : List Char} {c : Char} (first : (trim s).head? = some c) :
    isBlank c = false := by
  obtain ⟨back, -, split⟩ := exists_trimEnd (trimStart s)
  have start : (trimStart s).head? = some c := by
    rw [split, List.head?_append, ← trim, first]
    rfl
  have stopped := List.head?_dropWhile_not isBlank s
  rw [← trimStart, start] at stopped
  exact stopped

/-- Without blanks in front, trimming takes blanks off the end only. -/
theorem exists_of_trim {s word : List Char} (visible : ∀ c, s.head? = some c → isBlank c = false)
    (trimmed : trim s = word) : ∃ back, Blank back ∧ s = word ++ back := by
  rw [trim, trimStart, dropWhile_blank visible] at trimmed
  obtain ⟨back, blank, split⟩ := exists_trimEnd s
  exact ⟨back, blank, trimmed ▸ split⟩

end RouteAdapter.Text
