/-!
# Dictionaries

Entries in ascending order of their keys, each key once. Strings are ordered by code point, which is
also the order of their UTF-8 bytes.
-/

namespace RouteAdapter

abbrev Dict (α : Type) := List (String × α)

namespace Dict

variable {α β : Type}

def get? : List (String × α) → String → Option α
  | [], _ => none
  | (k, a) :: rest, key => if k = key then some a else get? rest key

def insert (key : String) (a : α) : List (String × α) → List (String × α)
  | [] => [(key, a)]
  | (k, b) :: rest =>
    if key < k then (key, a) :: (k, b) :: rest
    else if key = k then (key, a) :: rest
    else (k, b) :: insert key a rest

def erase (key : String) (d : List (String × α)) : List (String × α) :=
  d.filter fun entry => entry.1 ≠ key

def contains (d : List (String × α)) (key : String) : Bool :=
  (get? d key).isSome

def keys (d : List (String × α)) : List String :=
  d.map Prod.fst

/-- The last of two entries with equal keys counts. -/
def ofList (entries : List (String × α)) : List (String × α) :=
  entries.foldl (fun d entry => insert entry.1 entry.2 d) []

@[simp] theorem get?_insert_self (d : List (String × α)) (key : String) (a : α) :
    get? (insert key a d) key = some a := by
  induction d with
  | nil => simp [insert, get?]
  | cons entry rest ih =>
    simp only [insert]
    split
    · simp [get?]
    · split
      · simp [get?]
      · rename_i h
        simp [get?, ih, Ne.symm h]

theorem get?_insert_of_ne (d : List (String × α)) {key other : String} (a : α) (h : other ≠ key) :
    get? (insert key a d) other = get? d other := by
  induction d with
  | nil => simp [insert, get?, Ne.symm h]
  | cons entry rest ih =>
    simp only [insert]
    split
    · simp [get?, Ne.symm h]
    · split
      · rename_i e
        simp [get?, Ne.symm h, ← e]
      · simp [get?, ih]

end Dict
end RouteAdapter
