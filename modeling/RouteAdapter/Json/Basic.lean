import RouteAdapter.Dict
import RouteAdapter.Decimal.Notation
import RouteAdapter.Document.Draft

/-!
# JSON values

Integers of 64 bits, signed or not, are kept exact; all other numbers are binary floating point.
Object members are in ascending order of their keys.
-/

namespace RouteAdapter

namespace Number

/-- The number as a signed integer of 64 bits. -/
def int64? : Number → Option Int
  | int n => if -0x8000000000000000 ≤ n ∧ n < 0x8000000000000000 then some n else none
  | float _ => none

def toFloat : Number → Binary64
  | int n => Binary64.ofInt n
  | float x => x

end Number

inductive Json
  | null
  | bool (b : Bool)
  | number (n : Number)
  | string (s : String)
  | array (items : List Json)
  | object (members : List (String × Json))

namespace Json

/-- Positional from 0.00001 up to below 10^16, with at least one digit after the point. -/
def floatLayout : Decimal.Layout where
  tie := .toEven
  mostDigits := some 16
  mostZeros := some 4
  integral := ".0"
  infinity := "null"
  nan := "null"

def numberText : Number → String
  | .int n => toString n
  | .float x => floatLayout.text x

/-- What a value is, in words. -/
def kind : Json → String
  | null => "null"
  | bool _ => "a boolean"
  | number _ => "a number"
  | string _ => "a string"
  | array _ => "an array"
  | object _ => "an object"

end Json
end RouteAdapter
