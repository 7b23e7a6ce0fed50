import RouteAdapter.Proofs.Format.Stored
import RouteAdapter.Proofs.Format.Taking
import RouteAdapter.Proofs.Lowering.FirstUses

/-!
# Interning

A pool starts empty or is read from some bytes, and takes in one literal after another. It always
has the index of its strings, also where a string was read twice, so a literal that is taken in is
answered with its first position and nothing that was answered before changes.

* `Pool.Reached.indexed`: the index of a pool;
* `Pool.interns_of_indexed`: one literal;
* `Pool.internAll_eq`: a list of literals;
* `Pool.reached_exact`: the pools that can be reached.
-/

namespace RouteAdapter.Pool

/-- Pools that start empty or are read, and take in literals. -/
inductive Reached : Pool → Prop
  | empty : Reached empty
  | read {c c' : Cursor} {pool : Pool} (read : Pool.read c = (.ok pool, c')) : Reached pool
  | intern {pool : Pool} (reached : Reached pool) (s : String) : Reached (pool.intern s).1

/-- The literal stands at the position, which is a new one only if the pool did not hold it, and
every position keeps its string. -/
structure Interns (pool : Pool) (s : String) (after : Pool) (i : UInt32) : Prop where
  found : after.get? i = some s
  strings : after.strings = if s ∈ pool.strings then pool.strings else pool.strings ++ [s]
  kept : ∀ j t, pool.get? j = some t → after.get? j = some t

variable {pool : Pool}

theorem Reached.indexed (reached : Reached pool) : pool = ofStrings pool.strings := by
  induction reached with
  | empty => rfl
  | read read => exact (Pool.takes _ _ _ read).1.2
  | intern _ s ih =>
      rw [ih, intern_ofStrings]
      rfl

theorem interns_of_indexed (indexed : pool = ofStrings pool.strings)
    (room : pool.strings.length < UInt32.size) (s : String) :
    Interns pool s (pool.intern s).1 (pool.intern s).2 := by
  have table : (Tables.intern pool.strings s).1 = Tables.firstUses pool.strings [s] :=
    Tables.intern_fst pool.strings s
  have addressable : (Tables.intern pool.strings s).1.length ≤ UInt32.size := by
    rw [table]
    exact (Tables.length_firstUses_le _ _).trans room
  have strings : (pool.intern s).1.strings = (Tables.intern pool.strings s).1 := by
    rw [indexed, intern_ofStrings]
    rfl
  refine ⟨?_, ?_, fun j t held => ?_⟩
  · rw [get?, strings, indexed, intern_ofStrings]
    exact Tables.getElem?_intern List.prefix_rfl addressable
  · rw [strings, table]
    rfl
  · obtain ⟨bound, rfl⟩ := List.getElem?_eq_some_iff.mp held
    rw [get?, strings, table]
    exact List.prefix_iff_getElem?.mp (Tables.prefix_firstUses _ _) _ bound

theorem foldl_intern (table literals : List String) :
    literals.foldl (fun pool s => (pool.intern s).1) (ofStrings table) =
      ofStrings (Tables.firstUses table literals) := by
  induction literals generalizing table with
  | nil => rfl
  | cons s literals ih =>
      rw [List.foldl_cons, intern_ofStrings, ih, Tables.intern_fst]
      rfl

theorem internAll_eq (literals : List String) :
    internAll literals = ofStrings (Tables.firstUses [] literals) :=
  foldl_intern [] literals

/-- The index of a pool is exact, interning answers a position that keeps its string, and a pool
that was not read has no string twice. -/
theorem reached_exact (reached : Reached pool) (room : pool.strings.length < UInt32.size) :
    pool.Exact ∧ (∀ s, Interns pool s (pool.intern s).1 (pool.intern s).2) ∧
      ∀ literals, pool = internAll literals → pool.strings.Nodup := by
  refine ⟨?_, interns_of_indexed reached.indexed room, ?_⟩
  · rw [reached.indexed]
    exact exact_ofStrings room
  · rintro literals rfl
    rw [internAll_eq]
    exact Tables.nodup_firstUses List.nodup_nil literals

/-- A pool that was read with a string twice, and takes in a new one. -/
theorem reached_exact_repeated :
    let file : Bytes := Bytes.ofTable Bytes.ofText ["id", "name", "id"]
    let pool := ofStrings ["id", "name", "id"]
    Pool.read (.start file) = (.ok pool, ⟨file.length, []⟩) ∧ Dict.get? pool.index "id" = some 0 ∧
      (pool.intern "page").1.get? (pool.intern "page").2 = some "page" ∧
      (pool.intern "page").1.get? 2 = some "id" := by
  intro file pool
  have read : Pool.read (.start file) = (.ok pool, ⟨file.length, []⟩) := by rfl
  obtain ⟨exact, interns, -⟩ := reached_exact (.read read) (by decide)
  have page := interns "page"
  exact ⟨read, (exact "id" 0).mpr ⟨rfl, nofun⟩, page.found, page.kept 2 "id" rfl⟩

end RouteAdapter.Pool
