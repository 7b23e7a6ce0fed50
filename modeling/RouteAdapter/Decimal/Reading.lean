import RouteAdapter.Decimal.Binary64

/-!
# Reading numbers

Integers are digits after an optional sign. Floating-point numbers may have a point with digits on
either side and an exponent, or be a word for infinity or for no number, in any case of letters.
-/

namespace RouteAdapter.Decimal

def digitValue (c : Char) : Nat :=
  c.toNat - '0'.toNat

def ofDigits (digits : List Char) : Nat :=
  digits.foldl (fun n c => 10 * n + digitValue c) 0

def nat? (s : List Char) : Option Nat :=
  if !s.isEmpty && s.all Char.isDigit then some (ofDigits s) else none

def sign : List Char → Bool × List Char
  | '-' :: rest => (true, rest)
  | '+' :: rest => (false, rest)
  | s => (false, s)

def int? (s : List Char) : Option Int :=
  let (negative, digits) := sign s
  (nat? digits).map fun n => if negative then -(n : Int) else n

/-- An exponent at the end of a number; none counts as zero. -/
def exponent? : List Char → Option Int
  | [] => some 0
  | c :: rest => if c = 'e' ∨ c = 'E' then int? rest else none

/-- Digits around an optional point, at least one in all, then an exponent. -/
def decimal? (negative : Bool) (s : List Char) : Option Binary64 :=
  let whole := s.takeWhile Char.isDigit
  let afterWhole := s.dropWhile Char.isDigit
  let (fraction, rest) :=
    match afterWhole with
    | '.' :: rest => (rest.takeWhile Char.isDigit, rest.dropWhile Char.isDigit)
    | rest => ([], rest)
  let digits := whole ++ fraction
  if digits.isEmpty then none
  else
    (exponent? rest).map fun e =>
      Binary64.ofDecimal negative (ofDigits digits) (e - fraction.length)

def float? (s : List Char) : Option Binary64 :=
  let (negative, rest) := sign s
  match String.ofList (rest.map Char.toLower) with
  | "inf" | "infinity" => some (Binary64.infinity negative)
  | "nan" => some (if negative then Binary64.nan.neg else Binary64.nan)
  | _ => decimal? negative rest

end RouteAdapter.Decimal
