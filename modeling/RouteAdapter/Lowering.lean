import RouteAdapter.Emission.Unit
import RouteAdapter.Verify

/-!
# Lowering

An emitted class becomes a module. What its operations refer to is interned in four tables, in the
order of first use, so that equal classes have equal modules.
-/

namespace RouteAdapter

inductive LowerError
  | notPrimitive (symbol : String) (ty : Ty)
  | verification (className : String) (e : VerifyError)
  deriving DecidableEq

def LowerError.message : LowerError → String
  | notPrimitive symbol ty => "Cannot box non-primitive type `" ++ ty.text ++ "` in " ++ symbol
  | verification className e =>
    "Bytecode verification failed for " ++ className ++ ": " ++ e.message

structure LowerOptions where
  verify : Bool
  emitReflection : Bool
  sourceFile : Option String
  deriving DecidableEq

structure Tables where
  constants : Pool
  accessors : List AccessorRef
  methods : List MethodRef
  types : List Ty
  deriving DecidableEq

namespace Tables

def empty : Tables :=
  ⟨Pool.empty, [], [], []⟩

/-- The position of an entry, appended if it is new. -/
def intern {α : Type} [DecidableEq α] (table : List α) (a : α) : List α × UInt32 :=
  match table.idxOf? a with
  | some i => (table, UInt32.ofNat i)
  | none => (table ++ [a], UInt32.ofNat table.length)

end Tables

def Op.lower (symbol : String) (t : Tables) : Op → Except LowerError (Tables × Instruction)
  | loadContext => .ok (t, .loadCtx)
  | literal s =>
    let (pool, i) := t.constants.intern s
    .ok ({ t with constants := pool }, .constStr i)
  | accessor a =>
    let (table, i) := Tables.intern t.accessors a
    .ok ({ t with accessors := table }, .invokeAccessor i a.arity)
  | convert _ target =>
    let (table, i) := Tables.intern t.types target
    .ok ({ t with types := table }, .convert i)
  | controller m =>
    let (table, i) := Tables.intern t.methods m
    .ok ({ t with methods := table }, .invokeController i m.argCount)
  | pushNoContent => .ok (t, .noContent)
  | box ty =>
    match ty.primitiveTag? with
    | some tag => .ok (t, .box tag)
    | none => .error (.notPrimitive symbol ty)
  | ret => .ok (t, .ret)

def Op.lowerAll (symbol : String) (t : Tables) :
    List Op → Except LowerError (Tables × List Instruction)
  | [] => .ok (t, [])
  | op :: rest => do
    let (t, i) ← op.lower symbol t
    let (t, body) ← Op.lowerAll symbol t rest
    pure (t, i :: body)

namespace AdapterUnit

/-- The context is the one parameter and the one local of every function. -/
def lower (u : AdapterUnit) (t : Tables) : Except LowerError (Tables × Function) := do
  let (t, body) ← Op.lowerAll u.target.symbol t u.ops
  pure (t, ⟨u.route, 1, 1, Code.encode body⟩)

def lowerAll (t : Tables) : List AdapterUnit → Except LowerError (Tables × List Function)
  | [] => .ok (t, [])
  | u :: rest => do
    let (t, f) ← u.lower t
    let (t, functions) ← lowerAll t rest
    pure (t, f :: functions)

def reflection (u : AdapterUnit) : List ParamReflection :=
  u.params.map fun p => ⟨p.name, p.httpName, p.source.tag, p.ty.text⟩

end AdapterUnit

namespace EmittedClass

def classDef (c : EmittedClass) : ClassDef :=
  ⟨c.name, c.interface, c.controller, c.units.mapIdx fun i u => ⟨u.route, i⟩⟩

/-- The module of a class, not verified. -/
def assemble (c : EmittedClass) (options : LowerOptions) (t : Tables) (functions : List Function) :
    Module :=
  { Module.named c.name with
    flags := if options.emitReflection then Module.reflectionFlag else 0
    constants := t.constants
    accessors := t.accessors
    methods := t.methods
    types := t.types
    functions := functions
    classes := [c.classDef]
    metadata := ⟨c.name, options.sourceFile⟩
    reflection :=
      if options.emitReflection then some (c.units.map AdapterUnit.reflection) else none }

def lower (c : EmittedClass) (options : LowerOptions) : Except LowerError Module := do
  let (t, functions) ← AdapterUnit.lowerAll Tables.empty c.units
  let m := c.assemble options t functions
  if options.verify then m.verify.mapError (.verification c.name)
  pure m

def lowerAll (options : LowerOptions) : List EmittedClass → Except LowerError (List Module)
  | [] => .ok []
  | c :: rest => do
    let m ← c.lower options
    let others ← lowerAll options rest
    pure (m :: others)

end EmittedClass
end RouteAdapter
