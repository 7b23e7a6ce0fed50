import Mathlib.Data.List.Forall2
import RouteAdapter.Lowering

/-!
# Interned tables

Lowering appends to four tables what operations refer to and refers to it by position. A table only
grows at its end, so a position that was handed out keeps its meaning in every later table.

* `Tables.firstUses`: a table after a list of uses;
* `Pool.intern_ofStrings`: the pool of literals is interned like the other tables;
* `Tables.Records`: the four tables after a list of operations.
-/

namespace RouteAdapter

namespace Tables

variable {α : Type} [DecidableEq α]

/-- The uses that a table does not hold yet are appended, each once, in their order. -/
def firstUses (table uses : List α) : List α :=
  uses.foldl (fun table a => if a ∈ table then table else table ++ [a]) table

theorem firstUses_append (table uses more : List α) :
    firstUses table (uses ++ more) = firstUses (firstUses table uses) more :=
  List.foldl_append

theorem firstUses_cons (table : List α) (a : α) (uses : List α) :
    firstUses table (a :: uses) = firstUses (if a ∈ table then table else table ++ [a]) uses := rfl

theorem prefix_firstUses (table uses : List α) : table <+: firstUses table uses := by
  induction uses generalizing table with
  | nil => exact List.prefix_rfl
  | cons a uses ih =>
      rw [firstUses_cons]
      split
      · exact ih table
      · exact (List.prefix_append table [a]).trans (ih _)

theorem mem_firstUses {table uses : List α} {a : α} :
    a ∈ firstUses table uses ↔ a ∈ table ∨ a ∈ uses := by
  induction uses generalizing table with
  | nil => simp [firstUses]
  | cons b uses ih =>
      rw [firstUses_cons, ih]
      split <;> grind

theorem length_firstUses_le (table uses : List α) :
    (firstUses table uses).length ≤ table.length + uses.length := by
  induction uses generalizing table with
  | nil => exact Nat.le_refl _
  | cons a uses ih =>
      rw [firstUses_cons, List.length_cons]
      refine Nat.le_trans (ih _) ?_
      split
      · omega
      · rw [List.length_append, List.length_singleton]
        omega

theorem intern_fst (table : List α) (a : α) : (intern table a).1 = firstUses table [a] := by
  rw [firstUses_cons, intern]
  split
  · rename_i i found
    rw [if_pos (List.isSome_idxOf?.mp (by rw [found]; rfl))]
    rfl
  · rename_i absent
    rw [if_neg (List.idxOf?_eq_none_iff.mp absent)]
    rfl

/-- A position that was handed out is that of its entry in every addressable table that has grown
from there. -/
theorem getElem?_intern {table final : List α} {a : α} (grown : (intern table a).1 <+: final)
    (addressable : final.length ≤ UInt32.size) : final[(intern table a).2.toNat]? = some a := by
  obtain ⟨more, rfl⟩ := grown
  cases h : table.idxOf? a with
  | some i =>
      obtain ⟨bound, found, -⟩ := List.idxOf?_eq_some_iff.mp h
      have known : intern table a = (table, UInt32.ofNat i) := by simp only [intern, h]
      rw [known] at addressable ⊢
      simp only [List.length_append, UInt32.size] at addressable
      rw [UInt32.toNat_ofNat', Nat.mod_eq_of_lt (by omega), List.getElem?_append_left bound,
        List.getElem?_eq_getElem bound, found]
  | none =>
      have new : intern table a = (table ++ [a], UInt32.ofNat table.length) := by
        simp only [intern, h]
      rw [new] at addressable ⊢
      simp only [List.length_append, List.length_singleton, UInt32.size] at addressable
      rw [UInt32.toNat_ofNat', Nat.mod_eq_of_lt (by omega), List.append_assoc,
        List.getElem?_append_right (Nat.le_refl _)]
      simp

end Tables

/-! ## The pool of literals -/

namespace Pool

theorem get?_indexFrom (position : Nat) (index : Dict UInt32) (strings : List String) (s : String) :
    Dict.get? (indexFrom position index strings) s =
      (Dict.get? index s).or ((strings.idxOf? s).map fun i => UInt32.ofNat (position + i)) := by
  induction strings generalizing position index with
  | nil => simp [indexFrom]
  | cons t strings ih =>
      rw [indexFrom, ih, List.idxOf?_cons]
      by_cases same : t = s
      · subst same
        cases known : Dict.get? index t with
        | some i => simp [Dict.contains, known]
        | none => simp [Dict.contains, known]
      · have other : Dict.get? (if Dict.contains index t then index
            else Dict.insert t (UInt32.ofNat position) index) s = Dict.get? index s := by
          split
          · rfl
          · exact Dict.get?_insert_of_ne index _ (Ne.symm same)
        simp only [other, beq_iff_eq, same, ↓reduceIte, Option.map_map, Function.comp_def]
        congr 2
        funext i
        congr 1
        omega

theorem indexFrom_append (position : Nat) (index : Dict UInt32) (strings : List String)
    (s : String) :
    indexFrom position index (strings ++ [s]) =
      (let known := indexFrom position index strings
      if Dict.contains known s then known
      else Dict.insert s (UInt32.ofNat (position + strings.length)) known) := by
  induction strings generalizing position index with
  | nil => rfl
  | cons t strings ih =>
      rw [List.cons_append, indexFrom, ih, indexFrom, List.length_cons]
      simp only [Nat.add_comm strings.length, Nat.add_assoc]

theorem get?_index_ofStrings (strings : List String) (s : String) :
    Dict.get? (ofStrings strings).index s = (strings.idxOf? s).map UInt32.ofNat := by
  rw [ofStrings, get?_indexFrom]
  simp [Dict.get?]

/-- A pool with the index of its strings is interned like any table, and keeps such an index. -/
theorem intern_ofStrings (strings : List String) (s : String) :
    (ofStrings strings).intern s =
      (ofStrings (Tables.intern strings s).1, (Tables.intern strings s).2) := by
  have index := get?_index_ofStrings strings s
  cases h : strings.idxOf? s with
  | some i =>
      rw [h] at index
      simp only [intern, Tables.intern, index, h, Option.map_some]
  | none =>
      have absent : Dict.get? (indexFrom 0 [] strings) s = none := by rw [h] at index; exact index
      have new : ¬ Dict.contains (indexFrom 0 [] strings) s := by simp [Dict.contains, absent]
      simp only [intern, Tables.intern, absent, h, ofStrings, indexFrom_append, new,
        Bool.false_eq_true, ↓reduceIte, Nat.zero_add]

end Pool
end RouteAdapter
