import RouteAdapter.Emission.Error

/-!
# Build reports

A build goes on after failures; its report lists the classes that were registered and every failure
of a controller or of a method.
-/

namespace RouteAdapter

inductive InvalidController
  | emptyName
  | badName
  | emptyRoute
  deriving DecidableEq

def InvalidController.message : InvalidController → String
  | emptyName => "empty controller name"
  | badName => "not a valid class name"
  | emptyRoute => "route with an empty name"

/-- A failure of a whole controller. -/
inductive ClassError
  | duplicateClass (name : String)
  | duplicateRoute (controller route : String)
  | invalidController (name : String) (reason : InvalidController)
  deriving DecidableEq

def ClassError.message : ClassError → String
  | duplicateClass name => "Duplicate class `" ++ name ++ "` in this build"
  | duplicateRoute controller route =>
    "Duplicate route `" ++ route ++ "` in controller `" ++ controller ++ "`"
  | invalidController name reason => "Invalid controller `" ++ name ++ "`: " ++ reason.message

structure ClassFailure where
  controller : String
  error : ClassError
  deriving DecidableEq

structure MethodFailure where
  controller : String
  method : String
  errors : List CompileError
  deriving DecidableEq

structure Report where
  emitted : List String
  classFailures : List ClassFailure
  methodFailures : List MethodFailure
  deriving DecidableEq

namespace Report

def empty : Report :=
  ⟨[], [], []⟩

def isOk (r : Report) : Bool :=
  r.classFailures.isEmpty && r.methodFailures.isEmpty

def errorCount (r : Report) : Nat :=
  r.classFailures.length + (r.methodFailures.flatMap MethodFailure.errors).length

def merge (r s : Report) : Report :=
  ⟨r.emitted ++ s.emitted, r.classFailures ++ s.classFailures,
    r.methodFailures ++ s.methodFailures⟩

/-- The names of the classes, if nothing failed. -/
def toResult (r : Report) : Except Report (List String) :=
  if r.isOk then .ok r.emitted else .error r

def failureLines (r : Report) : List String :=
  (r.classFailures.map fun f => "  " ++ f.controller ++ ": " ++ f.error.message)
    ++ r.methodFailures.flatMap fun f =>
      f.errors.map fun e => "  " ++ f.controller ++ "." ++ f.method ++ ": " ++ e.message

def text (r : Report) : String :=
  if r.isOk then toString r.emitted.length ++ " class(es) compiled"
  else
    String.join (((toString r.errorCount ++ " error(s):") :: r.failureLines).map (· ++ "\n"))

end Report
end RouteAdapter
