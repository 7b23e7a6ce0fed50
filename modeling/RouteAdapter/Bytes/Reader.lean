import RouteAdapter.Bytes.Basic
import RouteAdapter.Text.Hex

/-!
# Readers

A reader takes bytes from a cursor. It answers a value or an error, and the cursor where it stopped,
also when it failed.
-/

namespace RouteAdapter
open Text

structure Cursor where
  position : Nat
  rest : Bytes
  deriving DecidableEq

def Cursor.start (bytes : Bytes) : Cursor :=
  ⟨0, bytes⟩

inductive ReadError
  | unexpectedEnd (offset : Nat)
  | invalidUtf8 (offset : Nat)
  | invalidOpcode (byte : UInt8) (offset : Nat)
  deriving DecidableEq

def ReadError.message : ReadError → String
  | unexpectedEnd offset => "Unexpected end of bytecode at offset " ++ toString offset
  | invalidUtf8 offset => "Invalid UTF-8 string at offset " ++ toString offset
  | invalidOpcode byte offset =>
    "Invalid opcode 0x" ++ hexOfNat byte.toNat ++ " at offset " ++ toString offset

def Reader (ε α : Type) := Cursor → Except ε α × Cursor

namespace Reader

variable {ε δ α β : Type}

protected def pure (a : α) : Reader ε α :=
  fun c => (.ok a, c)

protected def bind (r : Reader ε α) (f : α → Reader ε β) : Reader ε β := fun c =>
  match r c with
  | (.ok a, c) => f a c
  | (.error e, c) => (.error e, c)

instance : Monad (Reader ε) where
  pure := Reader.pure
  bind := Reader.bind

def fail (e : ε) : Reader ε α :=
  fun c => (.error e, c)

def mapError (f : ε → δ) (r : Reader ε α) : Reader δ α := fun c =>
  match r c with
  | (.ok a, c) => (.ok a, c)
  | (.error e, c) => (.error (f e), c)

def position : Reader ε Nat :=
  fun c => (.ok c.position, c)

def byte : Reader ReadError UInt8
  | ⟨pos, b :: rest⟩ => (.ok b, ⟨pos + 1, rest⟩)
  | ⟨pos, []⟩ => (.error (.unexpectedEnd pos), ⟨pos, []⟩)

def four : Reader ReadError (Vector UInt8 4)
  | ⟨pos, a :: b :: c :: d :: rest⟩ => (.ok #v[a, b, c, d], ⟨pos + 4, rest⟩)
  | ⟨pos, rest⟩ => (.error (.unexpectedEnd pos), ⟨pos, rest⟩)

def word : Reader ReadError UInt32 := do
  let v ← four
  pure (Bytes.toWord v[0] v[1] v[2] v[3])

def count : Reader ReadError Nat := do
  let w ← word
  pure w.toNat

def take (n : Nat) : Reader ReadError Bytes
  | ⟨pos, bytes⟩ =>
    match Bytes.split? n bytes with
    | some (front, rest) => (.ok front, ⟨pos + n, rest⟩)
    | none => (.error (.unexpectedEnd pos), ⟨pos, bytes⟩)

/-- A fault in the text is reported where its bytes start. -/
def text : Reader ReadError String := do
  let n ← count
  let start ← position
  let bytes ← take n
  match Bytes.utf8? bytes with
  | some s => pure s
  | none => fail (.invalidUtf8 start)

def times (item : Reader ε α) : Nat → Reader ε (List α)
  | 0 => pure []
  | n + 1 => do
    let x ← item
    let xs ← times item n
    pure (x :: xs)

def tableWith (lift : ReadError → ε) (entry : Reader ε α) : Reader ε (List α) := do
  let n ← mapError lift count
  times entry n

def table (entry : Reader ReadError α) : Reader ReadError (List α) :=
  tableWith id entry

end Reader
end RouteAdapter
