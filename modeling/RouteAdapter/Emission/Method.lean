import RouteAdapter.Emission.Chain

/-!
# Emission of a method

A method is emitted in steps: parameters, invocation, return handling, finish. A step in the wrong
state is an error and changes nothing. `Emitter.emit` takes all steps.
-/

namespace RouteAdapter

structure Emitter where
  schema : Schema
  controller : String
  method : DeclaredMethod
  params : List Parameter
  ops : List Op
  argSpans : List OpSpan
  target : Option MethodRef
  policy : Option ReturnPolicy
  state : EmitState

namespace Emitter

def start (schema : Schema) (controller : String) (method : DeclaredMethod) : Emitter where
  schema := schema
  controller := controller
  method := method
  params := []
  ops := []
  argSpans := []
  target := none
  policy := none
  state := .start

def expect (e : Emitter) (expected : EmitState) (step : EmitStep) : Except CompileError Unit :=
  if e.state = expected then .ok ()
  else .error (.emission (.wrongState step e.controller e.method.name e.state expected))

structure Progress where
  params : List Parameter
  ops : List Op
  argSpans : List OpSpan
  errors : List CompileError

/-- A parameter that resolves is kept even if its chain fails, and so is what the chain wrote. -/
def addParameter (s : Schema) (p : Progress) (index : Nat) (d : DeclaredParam) : Progress :=
  match Parameter.resolve index d with
  | .error e => { p with errors := p.errors ++ [e] }
  | .ok param =>
    let (ops, result) := Chain.emit s param (Chain.ofParameter param)
    let written := { p with params := p.params ++ [param], ops := p.ops ++ ops }
    match result with
    | .ok () =>
      let span := ⟨p.ops.length, p.ops.length + ops.length⟩
      { written with argSpans := p.argSpans ++ [span] }
    | .error e => { written with errors := p.errors ++ [e] }

def addParameters (s : Schema) (p : Progress) (index : Nat) : List DeclaredParam → Progress
  | [] => p
  | d :: rest => addParameters s (addParameter s p index d) (index + 1) rest

/-- All parameters are tried and the errors of all collected. -/
def emitParameters (e : Emitter) : Except (List CompileError) Unit × Emitter :=
  match e.expect .start .parameters with
  | .error fault => (.error [fault], e)
  | .ok () =>
    let p := addParameters e.schema ⟨[], e.ops, e.argSpans, []⟩ 0 e.method.params
    let e := { e with ops := p.ops, argSpans := p.argSpans }
    if p.errors.isEmpty then (.ok (), { e with params := p.params, state := .parametersEmitted })
    else (.error p.errors, e)

def emitInvocation (e : Emitter) : Except CompileError Unit × Emitter :=
  match e.expect .parametersEmitted .invocation with
  | .error fault => (.error fault, e)
  | .ok () =>
    if e.params.length < 256 then
      let target : MethodRef :=
        ⟨e.controller ++ "." ++ e.method.name, e.method.descriptor, UInt8.ofNat e.params.length⟩
      (.ok (), { e with
        ops := e.ops ++ [.controller target]
        target := some target
        state := .invocationEmitted })
    else
      let fault := .tooManyParameters e.controller e.method.name e.params.length
      (.error (.emission fault), e)

def returnOps : ReturnPolicy → List Op
  | .noContent => [.pushNoContent]
  | .boxed ty => [.box ty]
  | .direct => []

def emitReturn (e : Emitter) : Except CompileError Unit × Emitter :=
  match e.expect .invocationEmitted .returnHandling with
  | .error fault => (.error fault, e)
  | .ok () =>
    let policy := ReturnPolicy.ofTy e.method.returns
    (.ok (), { e with
      ops := e.ops ++ returnOps policy
      policy := some policy
      state := .returnHandled })

def finish (e : Emitter) : Except CompileError AdapterUnit := do
  e.expect .returnHandled .finish
  match e.target, e.policy with
  | some target, some policy =>
    pure ⟨e.method.name, target, e.params, e.ops ++ [.ret], e.argSpans, policy⟩
  | _, _ => throw (.emission .incomplete)

/-- The result of a step as a list of errors, and the emitter after it. -/
def andThen {α : Type} (step : Except CompileError Unit × Emitter)
    (next : Emitter → Except (List CompileError) α) : Except (List CompileError) α :=
  match step with
  | (.ok (), e) => next e
  | (.error fault, _) => .error [fault]

def emit (schema : Schema) (controller : String) (method : DeclaredMethod) :
    Except (List CompileError) AdapterUnit :=
  match (start schema controller method).emitParameters with
  | (.error errors, _) => .error errors
  | (.ok (), e) =>
    andThen e.emitInvocation fun e =>
      andThen e.emitReturn fun e => e.finish.mapError fun fault => [fault]

end Emitter
end RouteAdapter
