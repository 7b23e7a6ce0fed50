import RouteAdapter.Decimal.Reading
import RouteAdapter.Document.Draft
import RouteAdapter.Text.Hex

/-!
# TOML scalars

Truth values, integers of 64 bits, floating-point numbers, dates and times. All but a date that is
divided from its time by a space are written without blanks.
-/

namespace RouteAdapter.Toml
open Decimal

/-! ## Numbers -/

/-- Digits with single underscores between them. -/
def ungroup? (isDigit : Char → Bool) : List Char → Option (List Char)
  | [] => none
  | [c] => if isDigit c then some [c] else none
  | c :: '_' :: rest => if isDigit c then (ungroup? isDigit rest).map (c :: ·) else none
  | c :: rest => if isDigit c then (ungroup? isDigit rest).map (c :: ·) else none

/-- No leading zero before another digit. -/
def whole? (s : List Char) : Option (List Char) := do
  let digits ← ungroup? Char.isDigit s
  if digits.head? = some '0' ∧ digits.length ≠ 1 then none
  pure digits

def int? (n : Int) : Option Number :=
  if -0x8000000000000000 ≤ n ∧ n < 0x8000000000000000 then some (.int n) else none

def signed (negative : Bool) (n : Nat) : Int :=
  if negative then -n else n

def radixInt? (radix : Nat) (s : List Char) : Option Number := do
  let digits ← ungroup? (fun c => (Text.hexValue? c).any (· < radix)) s
  let values ← digits.mapM Text.hexValue?
  int? (values.foldl (fun n d => radix * n + d) 0 : Nat)

def exponent? (s : List Char) : Option Int := do
  let (negative, s) := sign s
  let digits ← ungroup? Char.isDigit s
  pure (signed negative (ofDigits digits))

/-- Only negative numbers may be too large. -/
def float? (negative : Bool) (whole fraction : List Char) (exponent : Int) : Option Number :=
  let x := Binary64.ofDecimal negative (ofDigits (whole ++ fraction)) (exponent - fraction.length)
  if x.isInfinite ∧ !negative then none else some (.float x)

/-- A number without a fraction and an exponent is an integer. -/
def decimal? (negative : Bool) (s : List Char) : Option Number := do
  let isMark (c : Char) : Bool := c == 'e' || c == 'E'
  let significand := s.takeWhile fun c => !isMark c
  let exponent := (s.dropWhile fun c => !isMark c).tail?
  let whole ← whole? (significand.takeWhile (· != '.'))
  match (significand.dropWhile (· != '.')).tail?, exponent with
  | none, none => int? (signed negative (ofDigits whole))
  | none, some e => float? negative whole [] (← exponent? e)
  | some fraction, none => float? negative whole (← ungroup? Char.isDigit fraction) 0
  | some fraction, some e =>
    float? negative whole (← ungroup? Char.isDigit fraction) (← exponent? e)

/-- Only decimal numbers have signs. -/
def number? (s : List Char) : Option Number :=
  match s with
  | '0' :: 'x' :: digits => radixInt? 16 digits
  | '0' :: 'o' :: digits => radixInt? 8 digits
  | '0' :: 'b' :: digits => radixInt? 2 digits
  | s =>
    let (negative, s) := sign s
    match s with
    | ['i', 'n', 'f'] => some (.float (Binary64.infinity negative))
    | ['n', 'a', 'n'] => some (.float (if negative then Binary64.nan.neg else Binary64.nan))
    | s => decimal? negative s

/-! ## Dates and times -/

def twoDigits? (low high : Nat) (a b : Char) : Option Nat := do
  let n ← nat? [a, b]
  if low ≤ n ∧ n ≤ high then some n else none

def isLeap (year : Nat) : Bool :=
  year % 4 == 0 && (year % 100 != 0 || year % 400 == 0)

def daysOf (year : Nat) : Nat → Nat
  | 2 => if isLeap year then 29 else 28
  | 4 | 6 | 9 | 11 => 30
  | _ => 31

def date? : List Char → Option (List Char)
  | y1 :: y2 :: y3 :: y4 :: '-' :: m1 :: m2 :: '-' :: d1 :: d2 :: rest => do
    let year ← nat? [y1, y2, y3, y4]
    let month ← twoDigits? 1 12 m1 m2
    let _ ← twoDigits? 1 (daysOf year month) d1 d2
    pure rest
  | _ => none

/-- The text after a time of day; a minute may have a leap second. -/
def time? : List Char → Option (List Char)
  | h1 :: h2 :: ':' :: m1 :: m2 :: ':' :: s1 :: s2 :: rest => do
    let _ ← twoDigits? 0 23 h1 h2
    let _ ← twoDigits? 0 59 m1 m2
    let _ ← twoDigits? 0 60 s1 s2
    match rest with
    | '.' :: rest =>
      if (rest.head?).any Char.isDigit then pure (rest.dropWhile Char.isDigit) else none
    | rest => pure rest
  | _ => none

/-- The offset from universal time, which may be left out. -/
def isOffset : List Char → Bool
  | [] | ['Z'] | ['z'] => true
  | [c, h1, h2, ':', m1, m2] =>
    (c == '+' || c == '-') && (twoDigits? 0 23 h1 h2).isSome && (twoDigits? 0 59 m1 m2).isSome
  | _ => false

def isTime (s : List Char) : Bool :=
  (time? s).any List.isEmpty

def isTimeWithOffset (s : List Char) : Bool :=
  (time? s).any isOffset

/-- A date and time is a record of its own. -/
def momentOf (s : List Char) : Draft :=
  .object [(some "$__toml_private_datetime", .string (String.ofList s))] true

/-! ## Scalars -/

def isScalarChar (c : Char) : Bool :=
  c.isAlphanum || c == '_' || c == '+' || c == '-' || c == '.' || c == ':'

/-- Whether a time follows a date and a space. -/
def startsTime : List Char → Bool
  | ' ' :: a :: b :: ':' :: _ => a.isDigit && b.isDigit
  | _ => false

def readDate (token afterDate rest : List Char) : Option (Draft × List Char) :=
  match afterDate with
  | [] =>
    if startsTime rest then
      let time := rest.tail.takeWhile isScalarChar
      if isTimeWithOffset time then
        some (momentOf (token ++ ' ' :: time), rest.tail.dropWhile isScalarChar)
      else none
    else some (momentOf token, rest)
  | c :: time =>
    if (c == 'T' || c == 't') && isTimeWithOffset time then some (momentOf token, rest) else none

def readScalar (s : List Char) : Option (Draft × List Char) :=
  let token := s.takeWhile isScalarChar
  let rest := s.dropWhile isScalarChar
  match token with
  | ['t', 'r', 'u', 'e'] => some (.bool true, rest)
  | ['f', 'a', 'l', 's', 'e'] => some (.bool false, rest)
  | token =>
    match date? token with
    | some afterDate => readDate token afterDate rest
    | none =>
      if isTime token then some (momentOf token, rest)
      else (number? token).map fun n => (.number n, rest)

end RouteAdapter.Toml
