import RouteAdapter.Json.Basic
import RouteAdapter.Decimal.Reading

/-!
# JSON numerals

A numeral is split into its digits first and valued then. The significand takes digits while it
fits 64 bits; digits of the whole part that are left over count as powers of ten, those of the
fraction not at all. The scaling by the power of ten is one or two floating-point operations.
-/

namespace RouteAdapter.Json
open Decimal

/-- The parts of a number as written; no exponent is not the same as an exponent of zero. -/
structure Numeral where
  negative : Bool
  whole : List Char
  fraction : Option (List Char)
  exponent : Option Int
  deriving DecidableEq

/-! ## Syntax -/

/-- A fraction has at least one digit. -/
def readFraction : List Char → Option (Option (List Char) × List Char)
  | '.' :: rest =>
    let digits := rest.takeWhile Char.isDigit
    if digits.isEmpty then none else some (some digits, rest.dropWhile Char.isDigit)
  | rest => some (none, rest)

def readExponent : List Char → Option (Option Int × List Char)
  | c :: rest =>
    if c = 'e' ∨ c = 'E' then
      let (negative, rest) := sign rest
      let digits := rest.takeWhile Char.isDigit
      if digits.isEmpty then none
      else
        let n : Int := ofDigits digits
        some (some (if negative then -n else n), rest.dropWhile Char.isDigit)
    else some (none, c :: rest)
  | [] => some (none, [])

/-- No leading zeros before another digit. -/
def readNumeral (s : List Char) : Option (Numeral × List Char) := do
  let (negative, s) :=
    match s with
    | '-' :: rest => (true, rest)
    | s => (false, s)
  let whole := s.takeWhile Char.isDigit
  if whole.isEmpty || (whole.head? == some '0' && whole.length ≠ 1) then none
  let (fraction, s) ← readFraction (s.dropWhile Char.isDigit)
  let (exponent, s) ← readExponent s
  pure (⟨negative, whole, fraction, exponent⟩, s)

/-! ## Value -/

/-- The significand after the digits that fit, how many they were, and the digits left over. -/
def accumulate (n taken : Nat) : List Char → Nat × Nat × List Char
  | [] => (n, taken, [])
  | c :: rest =>
    let next := 10 * n + digitValue c
    if next < UInt64.size then accumulate next (taken + 1) rest else (n, taken, c :: rest)

def powerOfTen (n : Nat) : Binary64 :=
  Binary64.ofNat (Nat.pow 10 n)

/-- A significand times a power of ten; there is none beyond the largest number. -/
def scaled? (significand : Nat) (e : Int) : Option Binary64 :=
  let f := Binary64.ofNat significand
  if significand = 0 then some f
  else if 308 < e then none
  else if 0 ≤ e then
    let x := f.mul (powerOfTen e.toNat)
    if x.isInfinite then none else some x
  else if -308 ≤ e then some (f.div (powerOfTen e.natAbs))
  else if -616 ≤ e then some ((f.div (powerOfTen 308)).div (powerOfTen (e.natAbs - 308)))
  else some (Binary64.zero false)

/-- Integers that do not fit, and minus zero, are floating-point. -/
def ofSignificand (negative : Bool) (n : Nat) : Number :=
  if !negative then .int n
  else if 0 < n ∧ n ≤ 0x8000000000000000 then .int (-n)
  else .float (Binary64.ofNat n).neg

def Numeral.value? (p : Numeral) : Option Number :=
  let (n, _, extra) := accumulate 0 0 p.whole
  if p.fraction.isNone && p.exponent.isNone && extra.isEmpty then
    some (ofSignificand p.negative n)
  else
    let (n, taken, _) := accumulate n 0 (p.fraction.getD [])
    let e : Int := extra.length - taken + p.exponent.getD 0
    (scaled? n e).map fun x => .float (if p.negative then x.neg else x)

end RouteAdapter.Json
