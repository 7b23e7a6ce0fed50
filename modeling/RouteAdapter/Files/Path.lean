/-!
# Paths

A path is a text with names between slashes. Empty names and single dots stand for nothing, except
that a path may begin at the root or with a dot. A path keeps its spelling: its parent is what comes
before its last name.
-/

namespace RouteAdapter.Path

abbrev Name := List Char

/-- The longest name in UTF-8. -/
def maxNameBytes : Nat :=
  255

/-- The longest path in UTF-8: with a zero byte after it, it fills 4096 bytes. -/
def maxBytes : Nat :=
  4095

/-- The names between slashes, at least one. -/
def split : List Char → List Name
  | [] => [[]]
  | c :: rest =>
    if c = '/' then [] :: split rest
    else
      match split rest with
      | name :: names => (c :: name) :: names
      | [] => [[c]]

def unsplit (names : List Name) : List Char :=
  List.intercalate ['/'] names

/-- Stands for nothing. -/
def isVacuous (name : Name) : Bool :=
  name == [] || name == ['.']

/-- Stands for the directory above. -/
def upName : Name :=
  ['.', '.']

def isUp (name : Name) : Bool :=
  name == upName

def dropVacuous (names : List Name) : List Name :=
  (names.reverse.dropWhile isVacuous).reverse

/-- Where a path begins. -/
inductive Start
  | root
  | here
  | relative
  deriving DecidableEq

def parts (path : List Char) : Start × List Name :=
  match split path with
  | [] :: name :: names => (.root, name :: names)
  | ['.'] :: names => (.here, names)
  | names => (.relative, names)

def ofParts : Start → List Name → List Char
  | .root, names => '/' :: unsplit names
  | .here, names => unsplit (['.'] :: names)
  | .relative, names => unsplit names

def parent? (path : String) : Option String :=
  let (start, names) := parts path.toList
  let names := dropVacuous names
  if names.isEmpty then
    match start with
    | .here => some ""
    | _ => none
  else some (String.ofList (ofParts start (dropVacuous names.dropLast)))

/-- What follows the last dot of the last name, if anything stands before it. -/
def extension? (path : String) : Option String := do
  let name ← (dropVacuous (parts path.toList).2).getLast?
  if isUp name then none
  let afterDot := name.reverse.takeWhile (· != '.')
  let beforeDot := (name.reverse.dropWhile (· != '.')).tail
  if beforeDot.isEmpty then none else some (String.ofList afterDot.reverse)

/-- Without the slashes at its end, unless it has nothing else. -/
def trimEnd (path : String) : String :=
  let trimmed := (path.toList.reverse.dropWhile (· == '/')).reverse
  if trimmed.isEmpty then path else String.ofList trimmed

/-- Neither begins at the root nor with a step up. -/
def staysBelow (path : String) : Bool :=
  match parts path.toList with
  | (.root, _) => false
  | (_, name :: _) => !isUp name
  | (_, []) => true

/-- A path that begins at the root replaces the one before it. -/
def join (path next : String) : String :=
  if next.toList.head? = some '/' then next
  else if path.isEmpty ∨ path.toList.getLast? = some '/' then path ++ next
  else path ++ "/" ++ next

end RouteAdapter.Path
