import RouteAdapter.Emission.Method
import RouteAdapter.Emission.Report

/-!
# Emission of classes

A controller with a valid name and distinct routes becomes one class, which has the units of the
methods that can be emitted. The classes of a build have distinct names.
-/

namespace RouteAdapter

structure ClassTable where
  classes : List EmittedClass
  deriving DecidableEq

namespace ClassTable

def empty : ClassTable :=
  ⟨[]⟩

def get? (t : ClassTable) (name : String) : Option EmittedClass :=
  t.classes.find? fun c => c.name == name

def contains (t : ClassTable) (name : String) : Bool :=
  t.classes.any fun c => c.name == name

def names (t : ClassTable) : List String :=
  t.classes.map EmittedClass.name

def register (t : ClassTable) (c : EmittedClass) : Except ClassError ClassTable :=
  if t.contains c.name then .error (.duplicateClass c.name) else .ok ⟨t.classes ++ [c]⟩

end ClassTable

namespace Controller

def isValidName (name : List Char) : Bool :=
  name.all Ty.isNameChar && !(name.head?.any Char.isDigit) && name.getLast? != some '.'

def validateRoutes (controller : String) (seen : List String) :
    List DeclaredMethod → Except ClassError Unit
  | [] => .ok ()
  | m :: rest =>
    if m.name.isEmpty then .error (.invalidController controller .emptyRoute)
    else if m.name ∈ seen then .error (.duplicateRoute controller m.name)
    else validateRoutes controller (m.name :: seen) rest

def validate (c : Controller) : Except ClassError Unit :=
  if c.name.isEmpty then .error (.invalidController c.name .emptyName)
  else if !isValidName c.name.toList then .error (.invalidController c.name .badName)
  else validateRoutes c.name [] c.methods

def emitMethods (s : Schema) (controller : String) :
    List DeclaredMethod → List AdapterUnit × List MethodFailure
  | [] => ([], [])
  | m :: rest =>
    let (units, failures) := emitMethods s controller rest
    match Emitter.emit s controller m with
    | .ok unit => (unit :: units, failures)
    | .error errors => (units, ⟨controller, m.name, errors⟩ :: failures)

def className (suffix : String) (c : Controller) : String :=
  c.name ++ suffix

def emit (s : Schema) (suffix : String) (c : Controller) :
    Except ClassError (EmittedClass × List MethodFailure) := do
  c.validate
  let (units, failures) := emitMethods s c.name c.methods
  pure (⟨c.className suffix, c.name, Module.dispatchInterface, units⟩, failures)

def emitAndRegister (s : Schema) (suffix : String) (t : ClassTable) (c : Controller) :
    Except ClassError (ClassTable × EmittedClass × List MethodFailure) := do
  let (emitted, failures) ← c.emit s suffix
  let t ← t.register emitted
  pure (t, emitted, failures)

/-- Emit a controller into a table; a controller that fails leaves the table as it was. -/
def emitInto (s : Schema) (suffix : String) (t : ClassTable) (c : Controller) :
    Report × ClassTable :=
  match emitAndRegister s suffix t c with
  | .ok (t, emitted, failures) => (⟨[emitted.name], [], failures⟩, t)
  | .error e => (⟨[], [⟨c.name, e⟩], []⟩, t)

def emitAll (s : Schema) (suffix : String) (t : ClassTable) : List Controller → Report × ClassTable
  | [] => (Report.empty, t)
  | c :: rest =>
    let (first, t) := emitInto s suffix t c
    let (others, t) := emitAll s suffix t rest
    (first.merge others, t)

end Controller
end RouteAdapter
