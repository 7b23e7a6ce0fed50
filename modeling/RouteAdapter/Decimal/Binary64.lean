/-!
# Binary floating point of 64 bits

A number is its bits. Arithmetic is exact on ratios of natural numbers and rounds once, to the
nearest number and to the even one of two.
-/

namespace RouteAdapter

structure Binary64 where
  bits : UInt64
  deriving DecidableEq

namespace Binary64

def signBit : Nat := 0x8000000000000000

def infinityBits : Nat := 0x7FF0000000000000

def hiddenBit : Nat := 0x10000000000000

def ofMagnitude (negative : Bool) (magnitude : Nat) : Binary64 :=
  ⟨UInt64.ofNat (magnitude + if negative then signBit else 0)⟩

def infinity (negative : Bool) : Binary64 :=
  ofMagnitude negative infinityBits

def zero (negative : Bool) : Binary64 :=
  ofMagnitude negative 0

def nan : Binary64 :=
  ⟨0x7FF8000000000000⟩

/-- The eight bytes, the most significant first. -/
def bytes (x : Binary64) : List UInt8 :=
  (List.range 8).map fun i => UInt8.ofNat (x.bits.toNat >>> (8 * (7 - i)))

def ofBytes (bytes : List UInt8) : Binary64 :=
  ⟨UInt64.ofNat (bytes.foldl (fun n b => 256 * n + b.toNat) 0)⟩

def negative (x : Binary64) : Bool :=
  signBit ≤ x.bits.toNat

/-- The bits without the sign. -/
def magnitude (x : Binary64) : Nat :=
  x.bits.toNat % signBit

def isNaN (x : Binary64) : Bool :=
  infinityBits < x.magnitude

def isInfinite (x : Binary64) : Bool :=
  x.magnitude == infinityBits

def isZero (x : Binary64) : Bool :=
  x.magnitude == 0

def neg (x : Binary64) : Binary64 :=
  ofMagnitude (!x.negative) x.magnitude

/-! ## Finite numbers as ratios -/

/-- The significand of a finite number, `significand · 2^exponent`. -/
def significand (x : Binary64) : Nat :=
  let m := x.magnitude
  if m < hiddenBit then m else hiddenBit + m % hiddenBit

def exponent (x : Binary64) : Int :=
  max (x.magnitude / hiddenBit : Nat) 1 - 1075

def ratio (x : Binary64) : Nat × Nat :=
  (x.significand * Nat.pow 2 x.exponent.toNat, Nat.pow 2 (-x.exponent).toNat)

/-- The quotient rounded to the nearest natural number, a half to the even one. -/
def roundQuotient (num den : Nat) : Nat :=
  let q := num / den
  let r := num % den
  if 2 * r < den then q
  else if den < 2 * r then q + 1
  else q + q % 2

/-- The exponent of the significand of a positive ratio: at most 53 bits, and none below the
smallest number. -/
def exponentOf (num den : Nat) : Int :=
  let low : Int := (num.log2 : Int) - den.log2 - 53
  let whole := num * Nat.pow 2 (-low).toNat / (den * Nat.pow 2 low.toNat)
  max (if whole < 2 * hiddenBit then low else low + 1) (-1074)

def ofRatio (negative : Bool) (num den : Nat) : Binary64 :=
  if num = 0 then zero negative
  else
    let e := exponentOf num den
    let m := roundQuotient (num * Nat.pow 2 (-e).toNat) (den * Nat.pow 2 e.toNat)
    let bits := if m < hiddenBit then m else (e + 1074).toNat * hiddenBit + m
    ofMagnitude negative (min bits infinityBits)

def ofNat (n : Nat) : Binary64 :=
  ofRatio false n 1

def ofInt (n : Int) : Binary64 :=
  ofRatio (n < 0) n.natAbs 1

def mul (x y : Binary64) : Binary64 :=
  let (a, b) := x.ratio
  let (c, d) := y.ratio
  ofRatio (x.negative != y.negative) (a * c) (b * d)

/-- The quotient of a finite number and a finite number other than zero. -/
def div (x y : Binary64) : Binary64 :=
  let (a, b) := x.ratio
  let (c, d) := y.ratio
  ofRatio (x.negative != y.negative) (a * d) (b * c)

/-- Digits beyond the range are cut off: from 10^310 on numbers are infinite, below 10^-330 zero. -/
def ofDecimal (negative : Bool) (digits : Nat) (exponent : Int) : Binary64 :=
  if digits = 0 then zero negative
  else
    let scale : Int := (Nat.toDigits 10 digits).length + exponent
    if 310 < scale then infinity negative
    else if scale < -330 then zero negative
    else ofRatio negative (digits * Nat.pow 10 exponent.toNat) (Nat.pow 10 (-exponent).toNat)

end Binary64
end RouteAdapter
