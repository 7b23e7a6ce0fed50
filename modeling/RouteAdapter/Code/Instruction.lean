import RouteAdapter.Bytes.Reader
import RouteAdapter.Code.Opcode

/-!
# Instructions

An instruction is an opcode byte followed by its operands. A body is the concatenation of its
instructions; `Code.decode` reads it back, each instruction with the offset of its opcode.
-/

namespace RouteAdapter

inductive Instruction
  | constStr (index : UInt32)
  | loadCtx
  | convert (index : UInt32)
  | box (tag : UInt8)
  | noContent
  | ret
  | invokeAccessor (index : UInt32) (argc : UInt8)
  | invokeController (index : UInt32) (argc : UInt8)
  deriving DecidableEq

namespace Instruction

def opcode : Instruction → Opcode
  | constStr _ => .constStr
  | loadCtx => .loadCtx
  | convert _ => .convert
  | box _ => .box
  | noContent => .noContent
  | ret => .ret
  | invokeAccessor _ _ => .invokeAccessor
  | invokeController _ _ => .invokeController

def operands : Instruction → Bytes
  | loadCtx | noContent | ret => []
  | box tag => [tag]
  | constStr index | convert index => Bytes.ofWord index
  | invokeAccessor index argc | invokeController index argc => Bytes.ofWord index ++ [argc]

def bytes (i : Instruction) : Bytes :=
  i.opcode.byte :: i.operands

def size (i : Instruction) : Nat :=
  1 + i.opcode.operandSize

theorem length_bytes (i : Instruction) : i.bytes.length = i.size := by
  cases i <;> rfl

end Instruction

structure Located where
  offset : Nat
  instruction : Instruction
  deriving DecidableEq

namespace Code

def encode (body : List Instruction) : Bytes :=
  body.flatMap Instruction.bytes

def locate (offset : Nat) : List Instruction → List Located
  | [] => []
  | i :: body => ⟨offset, i⟩ :: locate (offset + i.size) body

/-- An operand that does not fit is reported where it starts. -/
def decodeFrom (offset : Nat) : Bytes → Except ReadError (List Located)
  | [] => .ok []
  | code :: rest =>
    match Opcode.ofByte? code, rest with
    | none, _ => .error (.invalidOpcode code offset)
    | some .loadCtx, rest => (⟨offset, .loadCtx⟩ :: ·) <$> decodeFrom (offset + 1) rest
    | some .noContent, rest => (⟨offset, .noContent⟩ :: ·) <$> decodeFrom (offset + 1) rest
    | some .ret, rest => (⟨offset, .ret⟩ :: ·) <$> decodeFrom (offset + 1) rest
    | some .box, tag :: rest => (⟨offset, .box tag⟩ :: ·) <$> decodeFrom (offset + 2) rest
    | some .constStr, a :: b :: c :: d :: rest =>
      (⟨offset, .constStr (Bytes.toWord a b c d)⟩ :: ·) <$> decodeFrom (offset + 5) rest
    | some .convert, a :: b :: c :: d :: rest =>
      (⟨offset, .convert (Bytes.toWord a b c d)⟩ :: ·) <$> decodeFrom (offset + 5) rest
    | some .invokeAccessor, a :: b :: c :: d :: argc :: rest =>
      (⟨offset, .invokeAccessor (Bytes.toWord a b c d) argc⟩ :: ·) <$>
        decodeFrom (offset + 6) rest
    | some .invokeController, a :: b :: c :: d :: argc :: rest =>
      (⟨offset, .invokeController (Bytes.toWord a b c d) argc⟩ :: ·) <$>
        decodeFrom (offset + 6) rest
    | some .invokeAccessor, [_, _, _, _] | some .invokeController, [_, _, _, _] =>
      .error (.unexpectedEnd (offset + 5))
    | some _, _ => .error (.unexpectedEnd (offset + 1))

def decode (code : Bytes) : Except ReadError (List Located) :=
  decodeFrom 0 code

end Code
end RouteAdapter
