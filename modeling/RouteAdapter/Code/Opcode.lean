/-!
# Opcodes

The eight opcodes of adapter bodies, their bytes and names, and the size of their operands.
-/

namespace RouteAdapter

inductive Opcode
  | constStr
  | loadCtx
  | convert
  | box
  | noContent
  | ret
  | invokeAccessor
  | invokeController
  deriving DecidableEq

namespace Opcode

def ofByte? : UInt8 → Option Opcode
  | 0x09 => some constStr
  | 0x12 => some loadCtx
  | 0x30 => some convert
  | 0x31 => some box
  | 0x32 => some noContent
  | 0x90 => some ret
  | 0xA0 => some invokeAccessor
  | 0xA1 => some invokeController
  | _ => none

def byte : Opcode → UInt8
  | constStr => 0x09
  | loadCtx => 0x12
  | convert => 0x30
  | box => 0x31
  | noContent => 0x32
  | ret => 0x90
  | invokeAccessor => 0xA0
  | invokeController => 0xA1

def name : Opcode → String
  | constStr => "CONST_STR"
  | loadCtx => "LOAD_CTX"
  | convert => "CONVERT"
  | box => "BOX"
  | noContent => "NO_CONTENT"
  | ret => "RETURN"
  | invokeAccessor => "INVOKE_ACCESSOR"
  | invokeController => "INVOKE_CONTROLLER"

/-- Bytes of the operands that follow the opcode byte. -/
def operandSize : Opcode → Nat
  | loadCtx | noContent | ret => 0
  | box => 1
  | constStr | convert => 4
  | invokeAccessor | invokeController => 5

def isCall : Opcode → Bool
  | invokeAccessor | invokeController => true
  | _ => false

def isTerminator : Opcode → Bool
  | ret => true
  | _ => false

@[simp] theorem ofByte?_byte (op : Opcode) : ofByte? op.byte = some op := by
  cases op <;> rfl

end Opcode
end RouteAdapter
