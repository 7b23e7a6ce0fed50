import Mathlib.Data.List.Basic
import RouteAdapter.Files.Tree
import RouteAdapter.Proofs.Outcome

/-!
# Paths into a directory

A path that is joined from a directory and an ordinary name leads to a location right below that of
the directory, however the directory is spelled.

* `Path.split_follow`: the names of a path that goes on to a name;
* `FileTree.locate_join`: where a joined path leads.
-/

namespace RouteAdapter

namespace Path

structure Ordinary (name : Name) : Prop where
  noSlash : '/' ∉ name
  notVacuous : isVacuous name = false
  notUp : isUp name = false

theorem split_ne_nil (path : List Char) : split path ≠ [] := by
  cases path with
  | nil => simp [split]
  | cons c path =>
      rw [split]
      split
      · simp
      · split <;> simp

theorem split_append_slash (front back : List Char) :
    split (front ++ '/' :: back) = split front ++ split back := by
  induction front with
  | nil => simp [split]
  | cons c front ih =>
      rw [List.cons_append, split, split, ih]
      split
      · rfl
      · obtain ⟨name, names, first⟩ := List.exists_cons_of_ne_nil (split_ne_nil front)
        rw [first]
        rfl

theorem split_of_noSlash {name : Name} (noSlash : '/' ∉ name) : split name = [name] := by
  induction name with
  | nil => rfl
  | cons c name ih =>
      obtain ⟨other, rest⟩ := not_or.mp (mt List.mem_cons.mpr noSlash)
      rw [split, if_neg (Ne.symm other), ih rest]

def follow (path : List Char) (name : Name) : List Char :=
  if path = [] ∨ path.getLast? = some '/' then path ++ name else path ++ '/' :: name

/-- The names of a path do not count an empty one at its end. -/
theorem split_follow (path : List Char) {name : Name} (noSlash : '/' ∉ name) :
    ∃ front, split (follow path name) = front ++ [name] ∧
      (split path = front ∨ split path = front ++ [[]]) := by
  unfold follow
  split
  · next ended =>
    obtain rfl | ⟨path, last, rfl⟩ := List.eq_nil_or_concat' path
    · exact ⟨[], split_of_noSlash noSlash, .inr rfl⟩
    · obtain rfl : last = '/' := by simpa using ended
      refine ⟨split path, ?_, .inr (split_append_slash path [])⟩
      rw [List.append_assoc, List.singleton_append, split_append_slash, split_of_noSlash noSlash]
  · refine ⟨split path, ?_, .inl rfl⟩
    rw [split_append_slash, split_of_noSlash noSlash]

theorem join_relative {path name : String} (noSlash : '/' ∉ name.toList) :
    join path name = if path.isEmpty ∨ path.toList.getLast? = some '/' then path ++ name
      else path ++ "/" ++ name :=
  if_neg fun first => noSlash (List.mem_of_mem_head? first)

theorem toList_join {path name : String} (noSlash : '/' ∉ name.toList) :
    (join path name).toList = follow path.toList name.toList := by
  rw [join_relative noSlash, follow]
  have empty : path.isEmpty = true ↔ path.toList = [] := by
    rw [String.isEmpty_iff, ← String.toList_inj]
    rfl
  simp only [empty]
  split <;> simp

theorem join_injective {path name other : String} (noSlash : '/' ∉ name.toList)
    (noSlash' : '/' ∉ other.toList) (same : join path name = join path other) : name = other := by
  have letters := congrArg String.toList same
  rw [toList_join noSlash, toList_join noSlash', follow, follow] at letters
  apply String.toList_inj.mp
  split at letters
  · exact List.append_cancel_left letters
  · exact (List.cons.inj (List.append_cancel_left letters)).2

/-- Where a path begins, and what it has after that. -/
def origin : List Char → Location × List Char
  | '/' :: rest => (.root, rest)
  | path => ([], path)

theorem origin_relative {path : List Char} (relative : ∀ rest, path ≠ '/' :: rest) :
    origin path = ([], path) := by
  unfold origin
  split
  · exact absurd rfl (relative _)
  · rfl

theorem follow_slash (path : List Char) (name : Name) :
    follow ('/' :: path) name = '/' :: follow path name := by
  unfold follow
  cases path with
  | nil => simp
  | cons c path =>
      rw [List.getLast?_cons_cons]
      simp only [reduceCtorEq, false_or]
      split <;> rfl

theorem origin_follow (path : List Char) {name : Name} (noSlash : '/' ∉ name) :
    origin (follow path name) = ((origin path).1, follow (origin path).2 name) := by
  by_cases slash : ∃ rest, path = '/' :: rest
  · obtain ⟨rest, rfl⟩ := slash
    rw [follow_slash]
    rfl
  · rw [origin_relative (not_exists.mp slash), origin_relative]
    intro rest first
    unfold follow at first
    cases path with
    | nil =>
        rw [if_pos (.inl rfl), List.nil_append] at first
        exact noSlash (first ▸ List.mem_cons_self)
    | cons c path =>
        refine slash ⟨path, ?_⟩
        split at first <;> rw [(List.cons.inj first).1]

end Path

namespace FileTree

variable {t : FileTree} {l dir : Location}

theorem locate_eq_ok {path : String} :
    t.locate path = .ok l ↔ checkPath path = .ok () ∧ path ≠ "" ∧
      t.walk (Path.origin path.toList).1 (Path.split (Path.origin path.toList).2) = .ok l := by
  have named : path ≠ "" ↔ path.toList ≠ [] := by
    rw [ne_eq, ← String.toList_inj]
    rfl
  rw [locate, bind_eq_ok, named]
  constructor
  · rintro ⟨⟨⟩, fits, walked⟩
    refine ⟨fits, ?_⟩
    split at walked
    · cases walked
    · next slash =>
        rw [slash]
        exact ⟨nofun, walked⟩
    · next none other =>
        rw [Path.origin_relative other]
        exact ⟨none, walked⟩
  · rintro ⟨fits, nonempty, walked⟩
    refine ⟨(), fits, ?_⟩
    split
    · next none => exact absurd none nonempty
    · next slash =>
        rw [slash] at walked
        exact walked
    · next _ other =>
        rw [Path.origin_relative other] at walked
        exact walked

def goOn (dir : Location) (name : Path.Name) : Except FileError Location :=
  if Path.isVacuous name then .ok dir
  else if Path.isUp name then .ok dir.up
  else if Path.maxNameBytes < (String.ofList name).utf8ByteSize then .error .nameTooLong
  else .ok (dir ++ [name])

theorem walk_cons {name : Path.Name} {names : List Path.Name} :
    t.walk dir (name :: names) = .ok l ↔
      t.node? dir = some .directory ∧
        ∃ next, goOn dir name = .ok next ∧ t.walk next names = .ok l := by
  rw [walk, goOn]
  split
  · next none => simp [none]
  · next file => simp [file]
  · next directory =>
      rw [directory, eq_self, true_and]
      split
      · simp
      · split
        · simp
        · split <;> simp

theorem walk_append {front names : List Path.Name} :
    t.walk l (front ++ names) = .ok dir ↔
      ∃ next, t.walk l front = .ok next ∧ t.walk next names = .ok dir := by
  induction front generalizing l with
  | nil => simp [walk]
  | cons name front ih =>
      rw [List.cons_append, walk_cons]
      simp only [ih, walk_cons]
      constructor
      · rintro ⟨directory, below, first, next, later, last⟩
        exact ⟨next, ⟨directory, below, first, later⟩, last⟩
      · rintro ⟨next, ⟨directory, below, first, later⟩, last⟩
        exact ⟨directory, below, first, next, later, last⟩

theorem walk_ordinary {name : Path.Name} (ordinary : Path.Ordinary name)
    (walked : t.walk dir [name] = .ok l) :
    t.node? dir = some .directory ∧ l = dir ++ [name] := by
  obtain ⟨-, notVacuous, notUp⟩ := ordinary
  obtain ⟨directory, next, went, rest⟩ := walk_cons.mp walked
  cases rest
  refine ⟨directory, ?_⟩
  rw [goOn, notVacuous, notUp] at went
  simp only [Bool.false_eq_true, ↓reduceIte] at went
  split at went
  · cases went
  · cases went
    rfl

theorem walk_empty (directory : t.node? dir = some .directory) : t.walk dir [[]] = .ok dir :=
  walk_cons.mpr ⟨directory, dir, rfl, rfl⟩

/-- The path leads to this directory; the empty path to the working directory. -/
def LeadsTo (t : FileTree) (path : String) (dir : Location) : Prop :=
  t.node? dir = some .directory ∧ (path = "" ∧ dir = [] ∨ t.locate path = .ok dir)

theorem LeadsTo.unique {path : String} {dir' : Location} (first : t.LeadsTo path dir)
    (second : t.LeadsTo path dir') : dir = dir' := by
  obtain ⟨-, ⟨rfl, rfl⟩ | found⟩ := first
  · obtain ⟨-, ⟨-, rfl⟩ | found⟩ := second
    · rfl
    · cases found
  · obtain ⟨-, ⟨rfl, -⟩ | found'⟩ := second
    · cases found
    · exact Except.ok.inj (found.symm.trans found')

theorem checkPath_eq_ok {path : String} :
    checkPath path = .ok () ↔ '\x00' ∉ path.toList ∧ path.utf8ByteSize ≤ Path.maxBytes := by
  unfold checkPath
  split
  · next nul =>
      rw [List.contains_iff_mem] at nul
      simp [nul]
  · next other =>
      rw [List.contains_iff_mem] at other
      split
      · next long => simp [long]
      · next short => simp [other, Nat.le_of_not_lt short]

theorem checkPath_of_join {path name : String} (noSlash : '/' ∉ name.toList)
    (checked : checkPath (Path.join path name) = .ok ()) : checkPath path = .ok () := by
  have longer : ∃ rest, Path.join path name = path ++ rest := by
    rw [Path.join_relative noSlash]
    split
    · exact ⟨name, rfl⟩
    · exact ⟨"/" ++ name, String.append_assoc ..⟩
  obtain ⟨rest, joined⟩ := longer
  rw [joined, checkPath_eq_ok] at checked
  obtain ⟨noNul, short⟩ := checked
  rw [String.toList_append, List.mem_append, not_or] at noNul
  rw [String.utf8ByteSize_append] at short
  exact checkPath_eq_ok.mpr ⟨noNul.1, by omega⟩

theorem locate_join {path name : String} (ordinary : Path.Ordinary name.toList)
    (located : t.locate (Path.join path name) = .ok l) :
    ∃ dir, t.LeadsTo path dir ∧ l = dir ++ [name.toList] := by
  obtain ⟨checked, -, walked⟩ := locate_eq_ok.mp located
  have fits := checkPath_of_join ordinary.noSlash checked
  rw [Path.toList_join ordinary.noSlash, Path.origin_follow _ ordinary.noSlash] at walked
  obtain ⟨front, names, whole⟩ := Path.split_follow (Path.origin path.toList).2 ordinary.noSlash
  rw [names] at walked
  obtain ⟨dir, before, last⟩ := walk_append.mp walked
  obtain ⟨directory, rfl⟩ := walk_ordinary ordinary last
  have leads : t.walk (Path.origin path.toList).1 (Path.split (Path.origin path.toList).2) =
      .ok dir := by
    rcases whole with whole | whole
    · rw [whole, before]
    · rw [whole]
      exact walk_append.mpr ⟨dir, before, walk_empty directory⟩
  refine ⟨dir, ⟨directory, ?_⟩, rfl⟩
  by_cases empty : path = ""
  · subst empty
    exact .inl ⟨rfl, (Except.ok.inj leads).symm⟩
  · exact .inr (locate_eq_ok.mpr ⟨fits, empty, leads⟩)

end FileTree
end RouteAdapter
