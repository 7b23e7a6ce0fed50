import RouteAdapter.Text.Hex

/-!
# TOML text

Blanks, ends of lines, comments, strings and keys. Every reader gives what it has read and the text
after it.
-/

namespace RouteAdapter.Toml

/-! ## Blanks and lines -/

def isBlank (c : Char) : Bool :=
  c == ' ' || c == '\t'

/-- May stand in comments and strings. -/
def isPlain (c : Char) : Bool :=
  c == '\t' || (0x20 ≤ c.toNat && c.toNat != 0x7F)

def skipBlank (s : List Char) : List Char :=
  s.dropWhile isBlank

def newline? : List Char → Option (List Char)
  | '\n' :: rest => some rest
  | '\r' :: '\n' :: rest => some rest
  | _ => none

def skipComment : List Char → List Char
  | '#' :: rest => rest.dropWhile isPlain
  | s => s

/-- Blanks and a comment up to the end of the line or of the text. -/
def endLine? (s : List Char) : Option (List Char) :=
  match skipComment (skipBlank s) with
  | [] => some []
  | s => newline? s

def skipGap : Nat → List Char → Option (List Char)
  | 0, s => some s
  | fuel + 1, s =>
    match skipBlank s with
    | '#' :: rest => newline? (rest.dropWhile isPlain) >>= skipGap fuel
    | s =>
      match newline? s with
      | some rest => skipGap fuel rest
      | none => some s

def skipLines : List Char → List Char
  | '\r' :: '\n' :: rest => skipLines rest
  | c :: rest => if c = '\n' ∨ isBlank c then skipLines rest else c :: rest
  | [] => []

/-! ## Strings -/

/-- The character of a fixed number of hexadecimal digits. -/
def codePoint? (digits : Nat) (s : List Char) : Option (Char × List Char) := do
  let values ← (s.take digits).mapM Text.hexValue?
  let code := values.foldl (fun n d => 16 * n + d) 0
  if values.length = digits ∧ code.isValidChar then some (Char.ofNat code, s.drop digits) else none

def escape? : List Char → Option (Char × List Char)
  | 'b' :: rest => some ('\x08', rest)
  | 'f' :: rest => some ('\x0c', rest)
  | 'n' :: rest => some ('\n', rest)
  | 'r' :: rest => some ('\r', rest)
  | 't' :: rest => some ('\t', rest)
  | '"' :: rest => some ('"', rest)
  | '\\' :: rest => some ('\\', rest)
  | 'u' :: rest => codePoint? 4 rest
  | 'U' :: rest => codePoint? 8 rest
  | _ => none

abbrev Gathered := List Char

def Gathered.text (gathered : Gathered) : String :=
  String.ofList gathered.reverse

/-- Up to two quotes before the closing ones belong to the string. -/
def Gathered.close (quote : Char) (gathered : Gathered) (rest : List Char) : String × List Char :=
  let extra := (rest.takeWhile (· == quote)).take 2
  (Gathered.text (extra ++ gathered), rest.drop extra.length)

def readBasic : Nat → Gathered → List Char → Option (String × List Char)
  | 0, _, _ => none
  | fuel + 1, gathered, s =>
    match s with
    | '"' :: rest => some (gathered.text, rest)
    | '\\' :: rest => do
      let (c, rest) ← escape? rest
      readBasic fuel (c :: gathered) rest
    | c :: rest => if isPlain c then readBasic fuel (c :: gathered) rest else none
    | [] => none

/-- A backslash at the end of a line joins it with the next line that is not empty. -/
def readBasicLines : Nat → Gathered → List Char → Option (String × List Char)
  | 0, _, _ => none
  | fuel + 1, gathered, s =>
    match s with
    | '"' :: '"' :: '"' :: rest => some (gathered.close '"' rest)
    | '\\' :: rest =>
      match newline? (skipBlank rest) with
      | some rest => readBasicLines fuel gathered (skipLines rest)
      | none => do
        let (c, rest) ← escape? rest
        readBasicLines fuel (c :: gathered) rest
    | '\r' :: '\n' :: rest => readBasicLines fuel ('\n' :: gathered) rest
    | c :: rest =>
      if isPlain c ∨ c = '\n' then readBasicLines fuel (c :: gathered) rest else none
    | [] => none

def readLiteral (gathered : Gathered) : List Char → Option (String × List Char)
  | '\x27' :: rest => some (gathered.text, rest)
  | c :: rest => if isPlain c then readLiteral (c :: gathered) rest else none
  | [] => none

def readLiteralLines (gathered : Gathered) : List Char → Option (String × List Char)
  | '\x27' :: '\x27' :: '\x27' :: rest => some (gathered.close '\x27' rest)
  | '\r' :: '\n' :: rest => readLiteralLines ('\n' :: gathered) rest
  | c :: rest => if isPlain c ∨ c = '\n' then readLiteralLines (c :: gathered) rest else none
  | [] => none

/-- A string of several lines does not begin with the end of the first one. -/
def readString? : List Char → Option (String × List Char)
  | '"' :: '"' :: '"' :: rest =>
    readBasicLines (rest.length + 1) [] ((newline? rest).getD rest)
  | '"' :: rest => readBasic (rest.length + 1) [] rest
  | '\x27' :: '\x27' :: '\x27' :: rest => readLiteralLines [] ((newline? rest).getD rest)
  | '\x27' :: rest => readLiteral [] rest
  | _ => none

/-! ## Keys -/

def isBareChar (c : Char) : Bool :=
  c.isAlphanum || c == '_' || c == '-'

def readKey : List Char → Option (String × List Char)
  | '"' :: rest => readBasic (rest.length + 1) [] rest
  | '\x27' :: rest => readLiteral [] rest
  | s =>
    let key := s.takeWhile isBareChar
    if key.isEmpty then none else some (String.ofList key, s.dropWhile isBareChar)

/-- Keys divided by dots, at most as many as are asked for. -/
def readPath : Nat → List Char → Option (List String × List Char)
  | 0, _ => none
  | most + 1, s => do
    let (key, rest) ← readKey (skipBlank s)
    match skipBlank rest with
    | '.' :: rest =>
      let (path, rest) ← readPath most rest
      pure (key :: path, rest)
    | rest => pure ([key], rest)

end RouteAdapter.Toml
