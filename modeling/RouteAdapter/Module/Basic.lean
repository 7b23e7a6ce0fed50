import RouteAdapter.Module.Pool
import RouteAdapter.Ty.Text

/-!
# Modules

A module is what is stored and loaded for one adapter class: a pool of literals, three link tables,
function bodies, classes, metadata and, when flagged, a description of the parameters.
-/

namespace RouteAdapter

/-- An accessor of the request context, by name and descriptor. -/
structure AccessorRef where
  name : String
  descriptor : String
  /-- Arguments besides the context. -/
  arity : UInt8
  deriving DecidableEq

/-- A controller method, by its symbol `Controller.method` and descriptor. -/
structure MethodRef where
  symbol : String
  descriptor : String
  argCount : UInt8
  deriving DecidableEq

structure Function where
  name : String
  paramCount : Nat
  localCount : Nat
  code : Bytes
  deriving DecidableEq

structure Route where
  name : String
  functionId : Nat
  deriving DecidableEq

structure ClassDef where
  name : String
  interface : String
  controller : String
  methods : List Route
  deriving DecidableEq

structure Metadata where
  name : String
  sourceFile : Option String
  deriving DecidableEq

structure ParamReflection where
  name : String
  httpName : String
  annotation : String
  typeName : String
  deriving DecidableEq

/-- The parameters of each function, by function id. -/
abbrev Reflection := List (List ParamReflection)

structure Module where
  magic : Vector UInt8 4
  version : UInt32
  flags : UInt32
  constants : Pool
  accessors : List AccessorRef
  methods : List MethodRef
  types : List Ty
  functions : List Function
  classes : List ClassDef
  metadata : Metadata
  reflection : Option Reflection
  deriving DecidableEq

namespace Module

/-- The letters RGEN. -/
def currentMagic : Vector UInt8 4 :=
  #v[0x52, 0x47, 0x45, 0x4E]

def currentVersion : UInt32 := 1

def reflectionFlag : UInt32 := 2

def headerSize : Nat := 16

def dispatchInterface : String := "routegen.Dispatch"

def named (name : String) : Module where
  magic := currentMagic
  version := currentVersion
  flags := 0
  constants := Pool.empty
  accessors := []
  methods := []
  types := []
  functions := []
  classes := []
  metadata := ⟨name, none⟩
  reflection := none

def flagsReflection (flags : UInt32) : Bool :=
  flags &&& reflectionFlag != 0

def class? (m : Module) (name : String) : Option ClassDef :=
  m.classes.find? fun c => c.name == name

/-! ## Structure -/

inductive StructureError
  | magic
  | version (found : UInt32)
  | missingFunction (className routeName : String) (functionId : Nat)
  | reflectionCount (covered functions : Nat)
  | danglingRoute (routeName : String) (functionId : Nat)
  deriving DecidableEq

def StructureError.message : StructureError → String
  | magic => "Invalid magic number"
  | version found => "Unsupported version: " ++ toString found.toNat
  | missingFunction className routeName functionId =>
    "Method " ++ className ++ "." ++ routeName ++ " references missing function "
      ++ toString functionId
  | reflectionCount covered functions =>
    "Reflection covers " ++ toString covered ++ " functions, module has " ++ toString functions
  | danglingRoute routeName functionId =>
    "route " ++ routeName ++ " refers to missing function " ++ toString functionId

def validateRoutes (functions : Nat) (className : String) :
    List Route → Except StructureError Unit
  | [] => .ok ()
  | r :: rest =>
    if r.functionId < functions then validateRoutes functions className rest
    else .error (.missingFunction className r.name r.functionId)

def validateClasses (functions : Nat) : List ClassDef → Except StructureError Unit
  | [] => .ok ()
  | c :: rest => do
    validateRoutes functions c.name c.methods
    validateClasses functions rest

def validate (m : Module) : Except StructureError Unit := do
  if m.magic ≠ currentMagic then throw .magic
  if m.version ≠ currentVersion then throw (.version m.version)
  validateClasses m.functions.length m.classes
  match m.reflection with
  | some reflection =>
    if reflection.length ≠ m.functions.length then
      throw (.reflectionCount reflection.length m.functions.length)
  | none => pure ()

end Module
end RouteAdapter
