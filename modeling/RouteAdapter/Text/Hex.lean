/-!
# Hexadecimal text

Written digits are lower-case: two per byte for byte strings, no leading zeros for numbers. Digits
of either case are read.
-/

namespace RouteAdapter.Text

def hexDigit (n : Nat) : Char :=
  Char.ofNat (if n < 10 then 48 + n else 87 + n)

def hexValue? (c : Char) : Option Nat :=
  if c.isDigit then some (c.toNat - 48)
  else if 'a' ≤ c ∧ c ≤ 'f' then some (c.toNat - 87)
  else if 'A' ≤ c ∧ c ≤ 'F' then some (c.toNat - 55)
  else none

def hexOfBytes (bytes : List UInt8) : String :=
  String.ofList (bytes.flatMap fun b => [hexDigit (b.toNat / 16), hexDigit (b.toNat % 16)])

def bytesOfHex? : List Char → Option (List UInt8)
  | [] => some []
  | a :: b :: rest => do
    let high ← hexValue? a
    let low ← hexValue? b
    pure (UInt8.ofNat (16 * high + low) :: (← bytesOfHex? rest))
  | [_] => none

def hexOfNat (n : Nat) : String :=
  String.ofList (Nat.toDigits 16 n)

end RouteAdapter.Text
