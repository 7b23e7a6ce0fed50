import RouteAdapter.Bytes.Basic

/-!
# Faults in UTF-8

Bytes that are not UTF-8 are described by their first fault: where the valid part ends, and how many
bytes start a sequence that cannot go on, or that the bytes end inside a sequence.
-/

namespace RouteAdapter.Text

inductive Utf8Fault
  | invalid (length index : Nat)
  | incomplete (index : Nat)
  deriving DecidableEq

def Utf8Fault.message : Utf8Fault → String
  | invalid length index =>
    "invalid utf-8 sequence of " ++ toString length ++ " bytes from index " ++ toString index
  | incomplete index => "incomplete utf-8 byte sequence from index " ++ toString index

def within (low high : UInt8) (b : UInt8) : Bool :=
  low ≤ b && b ≤ high

/-- The classes of the bytes that may follow a first byte; none if it starts no sequence. -/
def continuations? (b : UInt8) : Option (List (UInt8 → Bool)) :=
  let any := within 0x80 0xBF
  if b < 0x80 then some []
  else if within 0xC2 0xDF b then some [any]
  else if b = 0xE0 then some [within 0xA0 0xBF, any]
  else if b = 0xED then some [within 0x80 0x9F, any]
  else if within 0xE1 0xEF b then some [any, any]
  else if b = 0xF0 then some [within 0x90 0xBF, any, any]
  else if within 0xF1 0xF3 b then some [any, any, any]
  else if b = 0xF4 then some [within 0x80 0x8F, any, any]
  else none

/-- The first fault from a byte on. A sequence has begun at `start`, has `length` bytes so far and
waits for bytes of the given classes. -/
def faultWithin (start length : Nat) : List (UInt8 → Bool) → Bytes → Utf8Fault
  | _, [] => .incomplete start
  | [], b :: rest =>
    match continuations? b with
    | some classes => faultWithin (start + length) 1 classes rest
    | none => .invalid 1 (start + length)
  | p :: classes, b :: rest =>
    if p b then faultWithin start (length + 1) classes rest else .invalid length start

def decodeUtf8 (bytes : Bytes) : Except Utf8Fault String :=
  match Bytes.utf8? bytes with
  | some s => .ok s
  | none => .error (faultWithin 0 0 [] bytes)

end RouteAdapter.Text
