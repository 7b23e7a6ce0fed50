import RouteAdapter.Ty.Text

/-!
# Emission errors

The sources a parameter can be annotated with, the two ways of binding it, the states of a method
under emission, and why one of its parameters or the method itself cannot be emitted.
-/

namespace RouteAdapter

inductive Source
  | path
  | query
  | header
  | form
  | body
  | session
  | flash
  | named
  | context
  deriving DecidableEq

namespace Source

def all : List Source :=
  [path, query, header, form, body, session, flash, named, context]

/-- The annotation that names the source. -/
def tag : Source → String
  | path => "path"
  | query => "query"
  | header => "header"
  | form => "form"
  | body => "body"
  | session => "session"
  | flash => "flash"
  | named => "named"
  | context => "context"

/-- Annotations of other kinds name no source. -/
def ofTag? (tag : String) : Option Source :=
  all.find? fun s => s.tag == tag

end Source

/-- One value looked up by its name, or all of a facet. -/
inductive SourceKind
  | named
  | object
  deriving DecidableEq

def SourceKind.text : SourceKind → String
  | named => "named"
  | object => "object"

inductive EmitState
  | start
  | parametersEmitted
  | invocationEmitted
  | returnHandled
  deriving DecidableEq

def EmitState.name : EmitState → String
  | start => "Start"
  | parametersEmitted => "ParametersEmitted"
  | invocationEmitted => "InvocationEmitted"
  | returnHandled => "ReturnHandled"

inductive EmitStep
  | parameters
  | invocation
  | returnHandling
  | finish
  deriving DecidableEq

def EmitStep.name : EmitStep → String
  | parameters => "parameter emission"
  | invocation => "invocation"
  | returnHandling => "return handling"
  | finish => "finish"

inductive Unsupported
  | void
  | conflicting (sources : List Source)
  | noSource (ty : Ty)
  | contextMismatch (source : Source) (ty : Ty)
  | unbindable (ty : Ty) (source : Source)
  deriving DecidableEq

def Unsupported.message : Unsupported → String
  | void => "parameters cannot be `void`"
  | conflicting sources =>
    "conflicting source annotations: " ++ String.intercalate ", " (sources.map Source.tag)
  | noSource ty => "no source annotation on `" ++ ty.text ++ "` parameter"
  | contextMismatch source ty =>
    "`" ++ source.tag ++ "` annotation cannot bind a `" ++ ty.text ++ "` parameter"
  | unbindable ty source =>
    "`" ++ ty.text ++ "` cannot be bound from `" ++ source.tag ++ "`"

inductive EmissionFault
  | nothingToConvert (param : String)
  | cannotConvert (source target : Ty) (param : String)
  | tooManyArguments (accessor : String)
  | wrongState (step : EmitStep) (controller method : String) (state expected : EmitState)
  | tooManyParameters (controller method : String) (count : Nat)
  | incomplete
  deriving DecidableEq

def EmissionFault.message : EmissionFault → String
  | nothingToConvert param => "nothing to convert for parameter `" ++ param ++ "`"
  | cannotConvert source target param =>
    "cannot convert `" ++ source.text ++ "` to `" ++ target.text ++ "` for parameter `" ++ param
      ++ "`"
  | tooManyArguments accessor => "accessor `" ++ accessor ++ "` takes too many arguments"
  | wrongState step controller method state expected =>
    step.name ++ " for `" ++ controller ++ "." ++ method ++ "` requested in state " ++ state.name
      ++ ", expected " ++ expected.name
  | tooManyParameters controller method count =>
    "`" ++ controller ++ "." ++ method ++ "` has too many parameters (" ++ toString count ++ ")"
  | incomplete => "incomplete adapter state"

inductive CompileError
  | unsupportedParameter (param : String) (reason : Unsupported)
  | noAccessor (param : String) (source : Source) (kind : SourceKind)
  | emission (fault : EmissionFault)
  deriving DecidableEq

def CompileError.message : CompileError → String
  | unsupportedParameter param reason =>
    "Unsupported parameter `" ++ param ++ "`: " ++ reason.message
  | noAccessor param source kind =>
    "No " ++ kind.text ++ " accessor for `" ++ source.tag ++ "` (parameter `" ++ param ++ "`)"
  | emission fault => "Emission error: " ++ fault.message

end RouteAdapter
