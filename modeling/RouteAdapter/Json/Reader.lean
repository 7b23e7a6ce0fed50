import RouteAdapter.Json.Numeral
import RouteAdapter.Text.Hex

/-!
# Reading JSON

A text is read to a draft first: what comes before its first syntax error. The value of a text is
that of a draft without faults.
-/

namespace RouteAdapter.Json
open Text (hexValue?)

/-! ## Strings -/

def codeUnit? (a b c d : Char) : Option Nat := do
  pure (4096 * (← hexValue? a) + 256 * (← hexValue? b) + 16 * (← hexValue? c) + (← hexValue? d))

def isHighSurrogate (n : Nat) : Bool := 0xD800 ≤ n && n < 0xDC00

def isLowSurrogate (n : Nat) : Bool := 0xDC00 ≤ n && n < 0xE000

def simpleEscape? : Char → Option Char
  | '"' => some '"'
  | '\\' => some '\\'
  | '/' => some '/'
  | 'b' => some '\x08'
  | 'f' => some '\x0c'
  | 'n' => some '\n'
  | 'r' => some '\r'
  | 't' => some '\t'
  | _ => none

/-- The characters of a string in reverse, none once a surrogate is unpaired. -/
abbrev Gathered := Option (List Char)

def Gathered.push (g : Gathered) (c : Char) : Gathered :=
  g.map (c :: ·)

/-- The string up to its closing quote and the text after it; a high surrogate waits for a low
one. -/
def readString (g : Gathered) (high : Option Nat) : List Char → Option (Option String × List Char)
  | '"' :: rest =>
    let g := if high.isSome then none else g
    some (g.map fun cs => String.ofList cs.reverse, rest)
  | '\\' :: 'u' :: a :: b :: c :: d :: rest =>
    match codeUnit? a b c d, high with
    | none, _ => none
    | some n, some h =>
      if isLowSurrogate n then
        readString (g.push (Char.ofNat (0x10000 + (h - 0xD800) * 0x400 + (n - 0xDC00)))) none rest
      else readString none none rest
    | some n, none =>
      if isHighSurrogate n then readString g (some n) rest
      else if isLowSurrogate n then readString none none rest
      else readString (g.push (Char.ofNat n)) none rest
  | '\\' :: e :: rest =>
    match simpleEscape? e with
    | some c => readString (if high.isSome then none else g.push c) none rest
    | none => none
  | c :: rest =>
    if c.toNat < 0x20 ∨ c = '\\' then none
    else readString (if high.isSome then none else g.push c) none rest
  | [] => none

/-! ## Values -/

def isBlank (c : Char) : Bool :=
  c == ' ' || c == '\t' || c == '\n' || c == '\r'

def skipBlank (s : List Char) : List Char :=
  s.dropWhile isBlank

def readNumber (s : List Char) : Draft × List Char :=
  match readNumeral s with
  | some (numeral, rest) => ((numeral.value?).elim .valueless .number, rest)
  | none => (.broken, [])

mutual

/-- The value at the start of a text and the text after it; nothing is read after a fault. -/
def readValue : Nat → List Char → Draft × List Char
  | 0, _ => (.broken, [])
  | fuel + 1, s =>
    match skipBlank s with
    | 'n' :: 'u' :: 'l' :: 'l' :: rest => (.null, rest)
    | 't' :: 'r' :: 'u' :: 'e' :: rest => (.bool true, rest)
    | 'f' :: 'a' :: 'l' :: 's' :: 'e' :: rest => (.bool false, rest)
    | '"' :: rest =>
      match readString (some []) none rest with
      | some (some s, rest) => (.string s, rest)
      | some (none, rest) => (.valueless, rest)
      | none => (.broken, [])
    | '[' :: rest =>
      match skipBlank rest with
      | ']' :: rest => (.array [] true, rest)
      | rest =>
        let (items, closed, rest) := readItems fuel rest
        (.array items closed, rest)
    | '{' :: rest =>
      match skipBlank rest with
      | '}' :: rest => (.object [] true, rest)
      | rest =>
        let (members, closed, rest) := readMembers fuel rest
        (.object members closed, rest)
    | s => readNumber s

/-- Items from the first one on, divided by commas. -/
def readItems : Nat → List Char → List Draft × Bool × List Char
  | 0, _ => ([], false, [])
  | fuel + 1, s =>
    if (skipBlank s).head? = some ']' then ([], false, [])
    else
      let (item, rest) := readValue fuel s
      match skipBlank rest with
      | ',' :: rest =>
        let (items, closed, rest) := readItems fuel rest
        (item :: items, closed, rest)
      | ']' :: rest => ([item], true, rest)
      | _ => ([item], false, [])

/-- Members from the first one on, divided by commas. -/
def readMembers : Nat → List Char → List (Option String × Draft) × Bool × List Char
  | 0, _ => ([], false, [])
  | fuel + 1, s =>
    match skipBlank s with
    | '"' :: rest =>
      match readString (some []) none rest with
      | none => ([], false, [])
      | some (key, rest) =>
        match skipBlank rest with
        | ':' :: rest =>
          let (value, rest) := readValue fuel rest
          match skipBlank rest with
          | ',' :: rest =>
            let (members, closed, rest) := readMembers fuel rest
            ((key, value) :: members, closed, rest)
          | '}' :: rest => ([(key, value)], true, rest)
          | _ => ([(key, value)], false, [])
        | _ => ([(key, .broken)], false, [])
    | _ => ([], false, [])

end

/-- The draft of a text, and whether nothing but blanks follows it. -/
def draft (s : List Char) : Draft × Bool :=
  let (d, rest) := readValue (2 * s.length + 2) s
  (d, (skipBlank rest).isEmpty)

/-! ## Values of drafts -/

mutual

/-- The value of a draft with no fault and at most `depth` containers inside each other. -/
def valueOf? (depth : Nat) : Draft → Option Json
  | .null => some .null
  | .bool b => some (.bool b)
  | .number n => some (.number n)
  | .string s => some (.string s)
  | .valueless | .broken => none
  | .array items closed =>
    match depth with
    | 0 => none
    | depth + 1 => if closed then (itemsOf? depth items).map .array else none
  | .object members closed =>
    match depth with
    | 0 => none
    | depth + 1 => if closed then (membersOf? depth [] members).map .object else none

def itemsOf? (depth : Nat) : List Draft → Option (List Json)
  | [] => some []
  | d :: rest => do
    let j ← valueOf? depth d
    let items ← itemsOf? depth rest
    pure (j :: items)

/-- The last of two members with equal keys counts. -/
def membersOf? (depth : Nat) (read : List (String × Json)) :
    List (Option String × Draft) → Option (List (String × Json))
  | [] => some read
  | (key, d) :: rest =>
    match key with
    | some key => do
      let j ← valueOf? depth d
      membersOf? depth (Dict.insert key j read) rest
    | none => none

end

/-- The deepest nesting of containers. -/
def maxDepth : Nat := 127

def parse? (s : List Char) : Option Json :=
  match draft s with
  | (d, true) => valueOf? maxDepth d
  | (_, false) => none

end RouteAdapter.Json
