import RouteAdapter.Code.Instruction
import RouteAdapter.Module.Basic

/-!
# Verification

Bodies are straight-line, so one forward pass suffices: references and counts are checked against
the link tables, then the depth of the operand stack is tracked from zero, and last the single
return has to stand at the end.
-/

namespace RouteAdapter
open Text

inductive LinkTable
  | accessor
  | method
  | type
  deriving DecidableEq

def LinkTable.name : LinkTable → String
  | accessor => "accessor"
  | method => "method"
  | type => "type"

inductive VerifyError
  | invalidOpcode (code : UInt8) (offset : Nat)
  | stackUnderflow (offset : Nat)
  | stackOverflow (offset depth : Nat)
  | invalidConstantRef (index : UInt32) (offset : Nat)
  | invalidTableRef (table : LinkTable) (index : UInt32) (offset : Nat)
  | argCountMismatch (offset : Nat) (expected actual : UInt8)
  | invalidPrimitiveTag (tag : UInt8) (offset : Nat)
  | missingContext (offset : Nat)
  | unbalancedReturn (offset depth : Nat)
  | unreachableCode (offset : Nat)
  | fallOffEnd (offset : Nat)
  | malformed (e : Module.StructureError)
  | read (e : ReadError)
  deriving DecidableEq

def VerifyError.message : VerifyError → String
  | invalidOpcode code offset =>
    "Invalid opcode 0x" ++ hexOfNat code.toNat ++ " at offset " ++ toString offset
  | stackUnderflow offset => "Stack underflow at offset " ++ toString offset
  | stackOverflow offset depth =>
    "Stack overflow at offset " ++ toString offset ++ " (depth: " ++ toString depth ++ ")"
  | invalidConstantRef index offset =>
    "Invalid constant pool reference: index " ++ toString index.toNat ++ " at offset "
      ++ toString offset
  | invalidTableRef table index offset =>
    "Invalid " ++ table.name ++ " table reference: index " ++ toString index.toNat
      ++ " at offset " ++ toString offset
  | argCountMismatch offset expected actual =>
    "Argument count mismatch at offset " ++ toString offset ++ ": expected "
      ++ toString expected.toNat ++ ", got " ++ toString actual.toNat
  | invalidPrimitiveTag tag offset =>
    "Invalid primitive tag " ++ toString tag.toNat ++ " at offset " ++ toString offset
  | missingContext offset =>
    "LOAD_CTX at offset " ++ toString offset ++ " in a function without a context parameter"
  | unbalancedReturn offset depth =>
    "Unbalanced stack at return (offset " ++ toString offset ++ ", depth " ++ toString depth ++ ")"
  | unreachableCode offset => "Unreachable code at offset " ++ toString offset
  | fallOffEnd offset => "Execution falls off end of function at offset " ++ toString offset
  | malformed e => "Module validation error: " ++ e.message
  | read e => "Decode error: " ++ e.message

namespace Verify

def maxDepth : Nat := 256

/-! ## References -/

def checkCount (offset : Nat) (expected actual : UInt8) : Except VerifyError Unit :=
  if expected = actual then .ok () else .error (.argCountMismatch offset expected actual)

def checkRef (f : Function) (m : Module) (i : Located) : Except VerifyError Unit :=
  let offset := i.offset
  match i.instruction with
  | .loadCtx => if f.paramCount = 0 then .error (.missingContext offset) else .ok ()
  | .constStr index =>
    if index.toNat < m.constants.strings.length then .ok ()
    else .error (.invalidConstantRef index offset)
  | .convert index =>
    if index.toNat < m.types.length then .ok () else .error (.invalidTableRef .type index offset)
  | .box tag =>
    if (Ty.ofPrimitiveTag? tag).isSome then .ok () else .error (.invalidPrimitiveTag tag offset)
  | .invokeAccessor index argc =>
    match m.accessors[index.toNat]? with
    | some a => checkCount offset a.arity argc
    | none => .error (.invalidTableRef .accessor index offset)
  | .invokeController index argc =>
    match m.methods[index.toNat]? with
    | some r => checkCount offset r.argCount argc
    | none => .error (.invalidTableRef .method index offset)
  | .noContent | .ret => .ok ()

def checkRefs (f : Function) (m : Module) : List Located → Except VerifyError Unit
  | [] => .ok ()
  | i :: body => do
    checkRef f m i
    checkRefs f m body

/-! ## Stack depth -/

/-- How many values an instruction pops; an accessor also takes the context. -/
def pops (m : Module) : Instruction → Nat
  | .constStr _ | .loadCtx => 0
  | .convert _ | .box _ | .noContent | .ret => 1
  | .invokeAccessor index argc =>
    1 + ((m.accessors[index.toNat]?).elim argc AccessorRef.arity).toNat
  | .invokeController _ argc => argc.toNat

def pushes : Instruction → Nat
  | .ret => 0
  | _ => 1

/-- The depth after an instruction that finds `depth` values. -/
def stepDepth (m : Module) (depth : Nat) (i : Located) : Except VerifyError Nat :=
  let after := depth - pops m i.instruction + pushes i.instruction
  if depth < pops m i.instruction then .error (.stackUnderflow i.offset)
  else if i.instruction = .ret ∧ depth ≠ 1 then .error (.unbalancedReturn i.offset depth)
  else if maxDepth < after then .error (.stackOverflow i.offset after)
  else .ok after

def checkDepth (m : Module) (depth : Nat) : List Located → Except VerifyError Unit
  | [] => .ok ()
  | i :: body => do
    let depth ← stepDepth m depth i
    checkDepth m depth body

/-! ## Returns -/

/-- The first return has to be the last instruction. -/
def checkReturn : List Located → Except VerifyError Unit
  | [] => .error (.fallOffEnd 0)
  | [i] => if i.instruction = .ret then .ok () else .error (.fallOffEnd i.offset)
  | i :: next :: body =>
    if i.instruction = .ret then .error (.unreachableCode next.offset)
    else checkReturn (next :: body)

def body (code : Bytes) : Except VerifyError (List Located) :=
  match Code.decode code with
  | .ok body => .ok body
  | .error (.invalidOpcode code offset) => .error (.invalidOpcode code offset)
  | .error e => .error (.read e)

end Verify

open Verify

def Function.verify (f : Function) (m : Module) : Except VerifyError Unit := do
  let body ← Verify.body f.code
  checkRefs f m body
  checkDepth m 0 body
  checkReturn body

def Module.verifyFunctions (m : Module) : List Function → Except VerifyError Unit
  | [] => .ok ()
  | f :: rest => do
    f.verify m
    m.verifyFunctions rest

def Module.verify (m : Module) : Except VerifyError Unit := do
  m.validate.mapError .malformed
  m.verifyFunctions m.functions

end RouteAdapter
