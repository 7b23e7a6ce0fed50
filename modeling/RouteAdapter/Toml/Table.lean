import RouteAdapter.Document.Draft

/-!
# TOML tables

The tables of a document grow by headers and by keys. A header names a table to define or an array
of tables to extend; a key with dots names tables on the way to its value. No table is defined
twice, no value replaced. A table is defined by its header, a parent in another header, or dotted:
named in a key.
-/

namespace RouteAdapter.Toml

inductive TableKind
  | defined
  | parent
  | dotted
  deriving DecidableEq

inductive Item
  /-- A value, to which nothing can be added. -/
  | value (d : Draft)
  | table (kind : TableKind) (entries : List (String × Item))
  /-- An array of tables, the last of which can grow. -/
  | tables (elements : List (List (String × Item)))

/-- Entries in the order of their first mention. -/
abbrev Entries := List (String × Item)

namespace Entries

def get? (entries : Entries) (key : String) : Option Item :=
  (entries.find? fun e => e.1 == key).map Prod.snd

def erase (entries : Entries) (key : String) : Entries :=
  entries.filter fun e => e.1 != key

/-- Change the entry of a key in its place, or add one at the end. -/
def alter (key : String) (change : Option Item → Option Item) : Entries → Option Entries
  | [] => (change none).map fun item => [(key, item)]
  | (k, item) :: rest =>
    if k = key then (change (some item)).map fun item => (k, item) :: rest
    else (alter key change rest).map ((k, item) :: ·)

/-- Change the table that a path leads to. Missing tables are added; keys with dots do not lead into
tables that have headers. -/
def within (byKey : Bool) (change : TableKind → Entries → Option Entries) :
    List String → TableKind → Entries → Option Entries
  | [], kind, entries => change kind entries
  | key :: path, _, entries =>
    alter key (fun
      | none =>
        let kind := if byKey then .dotted else .parent
        (within byKey change path kind []).map (.table kind)
      | some (.value _) => none
      | some (.table kind inner) =>
        if byKey && kind == .defined then none
        else (within byKey change path kind inner).map (.table kind)
      | some (.tables elements) => do
        let last ← elements.getLast?
        let last ← within byKey change path .defined last
        pure (.tables (elements.dropLast ++ [last]))) entries

def put (path : List String) (key : String) (d : Draft) (kind : TableKind) (entries : Entries) :
    Option Entries :=
  within true (fun kind inner =>
    if (kind == .dotted) == path.isEmpty then none
    else if (inner.get? key).isSome then none
    else some (inner ++ [(key, .value d)])) path kind entries

/-- Define a table that has not been defined; it moves to the end. -/
def define (path : List String) (key : String) (root : Entries) : Option Entries :=
  within false (fun _ entries =>
    match entries.get? key with
    | none => some (entries ++ [(key, .table .defined [])])
    | some (.table .parent inner) => some (entries.erase key ++ [(key, .table .defined inner)])
    | some _ => none) path .defined root

def extend (path : List String) (key : String) (root : Entries) : Option Entries :=
  within false (fun _ entries =>
    alter key (fun
      | none => some (.tables [[]])
      | some (.tables elements) => some (.tables (elements ++ [[]]))
      | some _ => none) entries) path .defined root

end Entries

/-! ## Drafts of tables -/

mutual

def Item.draft : Item → Draft
  | .value d => d
  | .table _ entries => .object (membersOf entries) true
  | .tables elements => .array (elementsOf elements) true

def membersOf : List (String × Item) → List (Option String × Draft)
  | [] => []
  | (key, item) :: rest => (some key, item.draft) :: membersOf rest

def elementsOf : List (List (String × Item)) → List Draft
  | [] => []
  | entries :: rest => .object (membersOf entries) true :: elementsOf rest

end

def Entries.draft (entries : Entries) : Draft :=
  .object (membersOf entries) true

end RouteAdapter.Toml
