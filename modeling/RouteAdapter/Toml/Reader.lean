import RouteAdapter.Document.Record
import RouteAdapter.Toml.Scalar
import RouteAdapter.Toml.Table
import RouteAdapter.Toml.Text

/-!
# Reading TOML

A document is a sequence of lines: headers, keys with values, comments. Values may be nested; an
array may go over several lines. A text with a fault has no draft at all.
-/

namespace RouteAdapter.Toml

def maxPath : Nat := 79

def maxDepth : Nat := 79

/-! ## Values -/

def readItems (value : List Char → Option (Draft × List Char)) :
    Nat → List Char → Option (List Draft × List Char)
  | 0, _ => none
  | fuel + 1, s => do
    let s ← skipGap s.length s
    match s with
    | ']' :: rest => pure ([], rest)
    | s =>
      let (item, rest) ← value s
      match ← skipGap rest.length rest with
      | ',' :: rest =>
        let (items, rest) ← readItems value fuel rest
        pure (item :: items, rest)
      | ']' :: rest => pure ([item], rest)
      | _ => none

def readPair (value : List Char → Option (Draft × List Char)) (s : List Char) :
    Option ((List String × String × Draft) × List Char) := do
  let (path, rest) ← readPath maxPath s
  let key ← path.getLast?
  match rest with
  | '=' :: rest =>
    let (d, rest) ← value (skipBlank rest)
    pure ((path.dropLast, key, d), skipBlank rest)
  | _ => none

def readMembers (value : List Char → Option (Draft × List Char)) :
    Nat → Entries → List Char → Option (Entries × List Char)
  | 0, _, _ => none
  | fuel + 1, entries, s => do
    let ((path, key, d), rest) ← readPair value s
    let entries ← entries.put path key d .defined
    match rest with
    | ',' :: rest => readMembers value fuel entries rest
    | '}' :: rest => pure (entries, rest)
    | _ => none

def readTable (value : List Char → Option (Draft × List Char)) (s : List Char) :
    Option (Entries × List Char) :=
  match skipBlank s with
  | '}' :: rest => some ([], rest)
  | s => readMembers value (s.length + 1) [] s

/-- A value with fewer than `depth` containers inside each other. -/
def readValue : Nat → List Char → Option (Draft × List Char)
  | 0, _ => none
  | depth + 1, s =>
    match s with
    | '[' :: rest =>
      if depth = 0 then none
      else do
        let (items, rest) ← readItems (readValue depth) (rest.length + 1) rest
        pure (.array items true, rest)
    | '{' :: rest =>
      if depth = 0 then none
      else do
        let (entries, rest) ← readTable (readValue depth) rest
        pure (entries.draft, rest)
    | '"' :: _ | '\x27' :: _ => (readString? s).map fun (text, rest) => (.string text, rest)
    | s => readScalar s

/-! ## Lines -/

structure Reading where
  root : Entries
  /-- The table of the last header. -/
  current : List String

def readHeader (close : List Char) (s : List Char) : Option (List String × List Char) := do
  let (path, rest) ← readPath maxPath s
  if close.isPrefixOf rest then some (path, rest.drop close.length) else none

def openTable (open? : List String → String → Entries → Option Entries) (path : List String)
    (r : Reading) : Option Reading := do
  let key ← path.getLast?
  let root ← open? path.dropLast key r.root
  pure ⟨root, path⟩

def readLine (r : Reading) (s : List Char) : Option (Reading × List Char) :=
  match s with
  | '[' :: '[' :: rest => do
    let (path, rest) ← readHeader [']', ']'] rest
    pure (← openTable Entries.extend path r, ← endLine? rest)
  | '[' :: rest => do
    let (path, rest) ← readHeader [']'] rest
    pure (← openTable Entries.define path r, ← endLine? rest)
  | '#' :: _ | '\n' :: _ | '\r' :: _ => (endLine? s).map fun rest => (r, rest)
  | s => do
    let ((path, key, d), rest) ← readPair (readValue (maxDepth + 1)) s
    let rest ← endLine? rest
    let root ← Entries.within false (Entries.put path key d) r.current .defined r.root
    pure (⟨root, r.current⟩, rest)

def readLines : Nat → Reading → List Char → Option Entries
  | 0, _, _ => none
  | fuel + 1, r, s =>
    match skipBlank s with
    | [] => some r.root
    | s => do
      let (r, rest) ← readLine r s
      readLines fuel r rest

/-- The draft of a text, which may begin with a byte order mark. -/
def draft? (s : String) : Option Draft :=
  let s :=
    match s.toList with
    | '\uFEFF' :: rest => rest
    | s => s
  (readLines (s.length + 1) ⟨[], []⟩ s).map Entries.draft

/-! ## Documents -/

/-- Positional, with at least one digit after the point. -/
def format : DocumentFormat where
  floatLayout := { Decimal.plain with integral := ".0" }
  surplus := true

def decode {α : Type} (decoder : Decoder α) (s : String) : Except DecodeFault α :=
  match draft? s with
  | some d => decoder format d
  | none => .error .malformed

end RouteAdapter.Toml
