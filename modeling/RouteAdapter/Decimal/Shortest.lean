import RouteAdapter.Decimal.Binary64

/-!
# Shortest decimals

The fewest digits that read back to a binary number, and of those the nearest to it.
-/

namespace RouteAdapter.Decimal

/-- The number `digits · 10^exponent`. -/
structure Dec where
  digits : Nat
  exponent : Int
  deriving DecidableEq

/-- Which of two equally near candidates counts. -/
inductive Tie
  | toEven
  | up
  deriving DecidableEq

/-- A positive number and the ends of the interval of reals that round to it, as multiples of a
common unit `2^unit`; the ends belong to the interval if `closed`. -/
structure Span where
  low : Nat
  value : Nat
  high : Nat
  unit : Int
  closed : Bool

def Span.of (x : Binary64) : Span :=
  let m := x.significand
  let narrow := m = Binary64.hiddenBit ∧ -1074 < x.exponent
  { low := if narrow then 4 * m - 1 else 4 * m - 2
    value := 4 * m
    high := 4 * m + 2
    unit := x.exponent - 2
    closed := m % 2 = 0 }

/-- Two numbers of the forms `n · 2^unit` and `d · 10^e`, with a common denominator cleared. -/
def common (n : Nat) (unit : Int) (d : Nat) (e : Int) : Nat × Nat :=
  (n * Nat.pow 2 unit.toNat * Nat.pow 10 (-e).toNat,
    d * Nat.pow 10 e.toNat * Nat.pow 2 (-unit).toNat)

def Span.contains (s : Span) (c : Dec) : Bool :=
  let (low, c₁) := common s.low s.unit c.digits c.exponent
  let (high, c₂) := common s.high s.unit c.digits c.exponent
  if s.closed then low ≤ c₁ && c₂ ≤ high else low < c₁ && c₂ < high

/-- The largest multiple of `10^e` that is not above the value. -/
def Span.floor (s : Span) (e : Int) : Nat :=
  let (value, one) := common s.value s.unit 1 e
  value / one

/-- How many digits the value has before the point; zero or less for a fraction. -/
def Span.scale (s : Span) : Int :=
  (Nat.toDigits 10 (s.floor (-330))).length - 330

/-- Of the two neighbours of the value among the multiples of `10^e`, the nearest that is read back
as the value. -/
def Span.nearest? (tie : Tie) (s : Span) (e : Int) : Option Dec :=
  let below : Dec := ⟨s.floor e, e⟩
  let above : Dec := ⟨s.floor e + 1, e⟩
  match s.contains below, s.contains above with
  | false, false => none
  | true, false => some below
  | false, true => some above
  | true, true =>
    let (twice, middle) := common (2 * s.value) s.unit (2 * below.digits + 1) e
    if twice < middle then some below
    else if middle < twice then some above
    else
      match tie with
      | .up => some above
      | .toEven => some (if below.digits % 2 = 0 then below else above)

/-- The first grid that has a hit, from the coarsest on; the exact value has at most 1100 digits. -/
def Span.search (tie : Tie) (s : Span) (e : Int) : Nat → Dec
  | 0 => ⟨s.floor e, e⟩
  | finer + 1 =>
    match s.nearest? tie e with
    | some c => c
    | none => Span.search tie s (e - 1) finer

def strip (digits : Nat) (e : Int) : Nat → Dec
  | 0 => ⟨digits, e⟩
  | fuel + 1 =>
    if digits % 10 = 0 ∧ digits ≠ 0 then strip (digits / 10) (e + 1) fuel else ⟨digits, e⟩

/-- The shortest decimal of a finite number other than zero, without trailing zeros. -/
def shortest (tie : Tie) (x : Binary64) : Dec :=
  let s := Span.of x
  let c := s.search tie (s.scale - 1) 1100
  strip c.digits c.exponent (Nat.toDigits 10 c.digits).length

end RouteAdapter.Decimal
