import RouteAdapter.Machine.Handlers
import RouteAdapter.Module.Codec
import RouteAdapter.Verify

/-!
# Resolved bodies

A body is decoded once, and its references are replaced by what they refer to: literals, bound
accessors and types.
-/

namespace RouteAdapter
open Text

inductive Resolved
  | loadCtx
  | constStr (s : String)
  | invokeAccessor (a : Accessor)
  | convert (ty : Ty)
  | invokeController (method argc : Nat)
  | noContent
  | box (ty : Ty)
  | ret
  deriving DecidableEq

/-- Why a module cannot be loaded. -/
inductive LoadError
  | module (e : ModuleError)
  | verify (e : VerifyError)
  | decode (function : String) (e : ReadError)
  | link (e : LinkError)
  | noClass (moduleName : String)
  | wrongInterface (className interface : String)
  deriving DecidableEq

def LoadError.message : LoadError → String
  | module e => e.message
  | verify e => "Module failed verification: " ++ e.message
  | decode function e => "Malformed function `" ++ function ++ "`: " ++ e.message
  | link e => e.message
  | noClass moduleName => "Module `" ++ moduleName ++ "` defines no adapter class"
  | wrongInterface className interface =>
    "Class `" ++ className ++ "` implements `" ++ interface ++ "`, not a dispatch interface"

namespace Resolved

/-- The instruction spelled out, for diagnostics. -/
def form : Resolved → String
  | loadCtx => "LoadCtx"
  | constStr s => "ConstStr(" ++ quoted s ++ ")"
  | invokeAccessor a => "InvokeAccessor(" ++ a.form ++ ")"
  | convert ty => "Convert(" ++ ty.form ++ ")"
  | invokeController method argc =>
    "InvokeController \x7b method: " ++ toString method ++ ", argc: " ++ toString argc ++ " \x7d"
  | noContent => "NoContent"
  | box ty => "Box(" ++ ty.form ++ ")"
  | ret => "Return"

/-- What an entry is, or that there is none. -/
def entry {α β : Type} (found : Option α) (e : VerifyError) (f : α → β) : Except LoadError β :=
  match found with
  | some a => .ok (f a)
  | none => .error (.verify e)

def ofInstruction (m : Module) (accessors : List Accessor) (i : Located) :
    Except LoadError Resolved :=
  match i.instruction with
  | .loadCtx => .ok loadCtx
  | .noContent => .ok noContent
  | .ret => .ok ret
  | .constStr index =>
    entry (m.constants.get? index) (.invalidConstantRef index i.offset) constStr
  | .convert index =>
    entry m.types[index.toNat]? (.invalidTableRef .type index i.offset) convert
  | .box tag => entry (Ty.ofPrimitiveTag? tag) (.invalidPrimitiveTag tag i.offset) box
  | .invokeAccessor index _ =>
    entry accessors[index.toNat]? (.invalidTableRef .accessor index i.offset) invokeAccessor
  | .invokeController index argc =>
    if index.toNat < m.methods.length then .ok (invokeController index.toNat argc.toNat)
    else .error (.verify (.invalidTableRef .method index i.offset))

def ofBody (m : Module) (accessors : List Accessor) :
    List Located → Except LoadError (List Resolved)
  | [] => .ok []
  | i :: body => do
    let r ← ofInstruction m accessors i
    let rest ← ofBody m accessors body
    pure (r :: rest)

end Resolved

/-- A body ready to run. -/
structure LoadedFunction where
  name : String
  code : List Resolved
  deriving DecidableEq

/-- Decode a function and resolve it against the tables of its module, of which the accessors are
already bound. -/
def LoadedFunction.load (f : Function) (m : Module) (accessors : List Accessor) :
    Except LoadError LoadedFunction :=
  match Code.decode f.code with
  | .error e => .error (.decode f.name e)
  | .ok body => do
    let code ← Resolved.ofBody m accessors body
    pure ⟨f.name, code⟩

end RouteAdapter
