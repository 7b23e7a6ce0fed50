import RouteAdapter.Decimal.Shortest

/-!
# Decimal notation

A layout says when a decimal is written positionally, what an integral one ends with, and how the
other numbers are spelled.
-/

namespace RouteAdapter.Decimal

structure Layout where
  tie : Tie
  /-- Digits before the point of the largest numbers written positionally. -/
  mostDigits : Option Int
  /-- Zeros after the point of the smallest numbers written positionally. -/
  mostZeros : Option Int
  /-- Written after an integral number. -/
  integral : String
  infinity : String
  nan : String

def digitText (n : Nat) : String :=
  String.ofList (Nat.toDigits 10 n)

def positional (integral : String) (d : Dec) : String :=
  let digits := Nat.toDigits 10 d.digits
  let point : Int := digits.length + d.exponent
  if 0 ≤ d.exponent then
    String.ofList (digits ++ List.replicate d.exponent.toNat '0') ++ integral
  else if 0 < point then
    String.ofList (digits.take point.toNat ++ '.' :: digits.drop point.toNat)
  else
    "0." ++ String.ofList (List.replicate (-point).toNat '0' ++ digits)

def scientific (d : Dec) : String :=
  let digits := Nat.toDigits 10 d.digits
  let e : Int := digits.length + d.exponent - 1
  let fraction := if digits.length ≤ 1 then [] else '.' :: digits.drop 1
  String.ofList (digits.take 1 ++ fraction) ++ (if e < 0 then "e-" else "e+")
    ++ digitText e.natAbs

def Layout.isPositional (l : Layout) (d : Dec) : Bool :=
  let point : Int := (Nat.toDigits 10 d.digits).length + d.exponent
  l.mostDigits.all (fun most => point ≤ most) && l.mostZeros.all (fun most => -point ≤ most)

def Layout.text (l : Layout) (x : Binary64) : String :=
  let sign := if x.negative then "-" else ""
  if x.isNaN then l.nan
  else if x.isInfinite then sign ++ l.infinity
  else if x.isZero then sign ++ "0" ++ l.integral
  else
    let d := shortest l.tie x
    sign ++ if l.isPositional d then positional l.integral d else scientific d

/-- Always positional, with no point in an integral number. -/
def plain : Layout where
  tie := .up
  mostDigits := none
  mostZeros := none
  integral := ""
  infinity := "inf"
  nan := "NaN"

end RouteAdapter.Decimal
