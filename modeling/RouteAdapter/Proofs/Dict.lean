import RouteAdapter.Dict

/-!
# Keys of dictionaries

Keys ascend in every dictionary that is built by insertions and erasures. Inserting what is already
there changes nothing. A dictionary that is built from a list has its keys, distinct or not.
-/

namespace RouteAdapter.Dict

variable {α : Type} {d : List (String × α)} {key : String} {a : α}

def Ascending (d : List (String × α)) : Prop :=
  d.Pairwise fun x y => x.1 < y.1

theorem mem_of_get? (found : get? d key = some a) : (key, a) ∈ d := by
  induction d with
  | nil => cases found
  | cons entry rest ih =>
      obtain ⟨k, b⟩ := entry
      simp only [get?] at found
      split at found
      · rename_i same
        cases found
        exact same ▸ List.mem_cons_self
      · exact List.mem_cons_of_mem _ (ih found)

theorem mem_of_mem_insert {entry : String × α} (member : entry ∈ insert key a d) :
    entry = (key, a) ∨ entry ∈ d := by
  induction d with
  | nil => exact .inl (List.mem_singleton.mp member)
  | cons first rest ih =>
      simp only [insert] at member
      split at member
      · exact List.mem_cons.mp member
      · split at member
        · exact (List.mem_cons.mp member).imp_right (List.mem_cons_of_mem _)
        · rcases List.mem_cons.mp member with head | tail
          · exact .inr (head ▸ List.mem_cons_self)
          · exact (ih tail).imp_right (List.mem_cons_of_mem _)

theorem Ascending.insert (ascending : Ascending d) : Ascending (Dict.insert key a d) := by
  induction d with
  | nil => exact List.pairwise_singleton _ _
  | cons first rest ih =>
      obtain ⟨k, b⟩ := first
      obtain ⟨least, others⟩ := List.pairwise_cons.mp ascending
      simp only [Dict.insert]
      split
      · rename_i before
        refine List.pairwise_cons.mpr ⟨fun entry member => ?_, ascending⟩
        rcases List.mem_cons.mp member with rfl | later
        · exact before
        · exact String.lt_trans before (least entry later)
      · rename_i notBefore
        split
        · rename_i same
          subst same
          exact List.pairwise_cons.mpr ⟨least, others⟩
        · rename_i other
          have after : k < key := Std.lt_of_le_of_ne (String.not_lt.mp notBefore) (Ne.symm other)
          refine List.pairwise_cons.mpr ⟨fun entry member => ?_, ih others⟩
          rcases mem_of_mem_insert member with rfl | old
          · exact after
          · exact least entry old

theorem Ascending.erase (ascending : Ascending d) : Ascending (Dict.erase key d) :=
  List.Pairwise.filter _ ascending

theorem Ascending.insert_eq_self (ascending : Ascending d) (found : get? d key = some a) :
    Dict.insert key a d = d := by
  induction d with
  | nil => cases found
  | cons first rest ih =>
      obtain ⟨k, b⟩ := first
      obtain ⟨least, others⟩ := List.pairwise_cons.mp ascending
      simp only [get?] at found
      split at found
      · rename_i same
        subst same
        cases found
        simp [Dict.insert]
      · rename_i other
        have after : k < key := least (key, a) (mem_of_get? found)
        simp only [Dict.insert, String.lt_asymm after, Ne.symm other, ↓reduceIte, ih others found]

@[simp] theorem get?_erase_self (d : List (String × α)) (key : String) :
    get? (erase key d) key = none := by
  induction d with
  | nil => rfl
  | cons entry rest ih =>
      by_cases same : entry.1 = key
      · simpa [erase, same] using ih
      · simpa [erase, same, get?] using ih

theorem get?_erase_of_ne (d : List (String × α)) {key other : String} (h : other ≠ key) :
    get? (erase key d) other = get? d other := by
  induction d with
  | nil => rfl
  | cons entry rest ih =>
      by_cases same : entry.1 = key
      · have differs : entry.1 ≠ other := fun e => h (e.symm.trans same)
        have dropped : erase key (entry :: rest) = erase key rest := by simp [erase, same]
        rw [dropped, ih, get?, if_neg differs]
      · have kept : erase key (entry :: rest) = entry :: erase key rest := by simp [erase, same]
        rw [kept, get?, get?, ih]

/-! ## Built from lists -/

theorem contains_insert (d : List (String × α)) (key other : String) (a : α) :
    contains (insert key a d) other = true ↔ other = key ∨ contains d other = true := by
  by_cases same : other = key
  · simp [contains, same]
  · simp [contains, same, get?_insert_of_ne d a same]

theorem contains_foldl_insert (entries d : List (String × α)) (key : String) :
    contains (entries.foldl (fun d entry => insert entry.1 entry.2 d) d) key = true ↔
      key ∈ entries.map Prod.fst ∨ contains d key = true := by
  induction entries generalizing d with
  | nil => simp
  | cons entry entries ih =>
      rw [List.foldl_cons, ih, contains_insert, List.map_cons, List.mem_cons]
      exact or_left_comm.trans or_assoc.symm

theorem contains_ofList (entries : List (String × α)) (key : String) :
    contains (ofList entries) key = true ↔ key ∈ entries.map Prod.fst := by
  rw [ofList, contains_foldl_insert]
  simp [contains, get?]

theorem mem_of_get?_foldl_insert {entries d : List (String × α)} {key : String} {a : α}
    (found : get? (entries.foldl (fun d entry => insert entry.1 entry.2 d) d) key = some a) :
    (key, a) ∈ entries ∨ get? d key = some a := by
  induction entries generalizing d with
  | nil => exact .inr found
  | cons entry entries ih =>
      rcases ih found with later | here
      · exact .inl (List.mem_cons_of_mem _ later)
      · by_cases same : key = entry.1
        · subst same
          rw [get?_insert_self] at here
          cases here
          exact .inl List.mem_cons_self
        · rw [get?_insert_of_ne d entry.2 same] at here
          exact .inr here

theorem mem_of_get?_ofList {entries : List (String × α)} {key : String} {a : α}
    (found : get? (ofList entries) key = some a) : (key, a) ∈ entries := by
  rcases mem_of_get?_foldl_insert found with member | empty
  · exact member
  · cases empty

end RouteAdapter.Dict
