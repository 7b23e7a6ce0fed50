import RouteAdapter.Machine.Resolved
import RouteAdapter.Value.Convert

/-!
# Running a body

A body runs from an empty operand stack, one instruction after the other, up to the first return or
the first fault. A run records the calls of controller methods that it made, in order.
-/

namespace RouteAdapter

inductive TypeFault
  | accessorName (found : String)
  | accessorReceiver (found : String)
  | result (found : String) (declared : Ty)

def TypeFault.message : TypeFault → String
  | accessorName found => "accessor name must be str, found " ++ found
  | accessorReceiver found => "accessor receiver must be ctx, found " ++ found
  | result found declared =>
    "controller returned " ++ found ++ " where " ++ declared.text ++ " was declared"

inductive VmError
  | stackUnderflow
  | type (fault : TypeFault)
  | convert (e : ConvertError)
  | handler (symbol message : String)
  | invalidMethod (index : Nat)
  | missingReturn

def VmError.message : VmError → String
  | stackUnderflow => "Stack underflow"
  | type fault => "Type error: " ++ fault.message
  | convert e => e.message
  | handler symbol message => "Controller method `" ++ symbol ++ "` failed: " ++ message
  | invalidMethod index => "No controller method at index " ++ toString index
  | missingReturn => "Function ended without returning"

/-- One call of a controller method. -/
structure Call where
  symbol : String
  args : List Value

namespace Machine

/-- Operands, the top first. -/
abbrev Stack := List Value

/-- What an instruction does to a run. -/
inductive Outcome
  | next (stack : Stack)
  | returned (v : Value)
  | failed (e : VmError)

/-- A single accessor takes its name first, then every accessor the context. -/
def accessorArgs (a : Accessor) (stack : Stack) : Except VmError (String × Stack) := do
  let (name, stack) ←
    if a.arity = 1 then
      match stack with
      | .str s :: rest => pure (s, rest)
      | v :: _ => throw (.type (.accessorName v.kind))
      | [] => throw .stackUnderflow
    else pure ("", stack)
  match stack with
  | .context :: rest => pure (name, rest)
  | v :: _ => throw (.type (.accessorReceiver v.kind))
  | [] => throw .stackUnderflow

/-- The last `argc` operands are the arguments, the deepest first. -/
def callController (ctx : Context) (methods : List Linked) (method argc : Nat) (stack : Stack) :
    List Call × Outcome :=
  if stack.length < argc then ([], .failed .stackUnderflow)
  else
    let args := (stack.take argc).reverse
    match methods[method]? with
    | none => ([], .failed (.invalidMethod method))
    | some linked =>
      ([⟨linked.symbol, args⟩],
        match linked.handler ctx args with
        | .ok v => .next (v :: stack.drop argc)
        | .error message => .failed (.handler linked.symbol message))

def step (ctx : Context) (methods : List Linked) (stack : Stack) : Resolved → List Call × Outcome
  | .loadCtx => ([], .next (.context :: stack))
  | .constStr s => ([], .next (.str s :: stack))
  | .invokeAccessor a =>
    match accessorArgs a stack with
    | .ok (name, rest) => ([], .next (a.invoke ctx name :: rest))
    | .error e => ([], .failed e)
  | .invokeController method argc => callController ctx methods method argc stack
  | .convert ty =>
    match stack with
    | v :: rest =>
      match v.convert ty with
      | .ok w => ([], .next (w :: rest))
      | .error e => ([], .failed (.convert e))
    | [] => ([], .failed .stackUnderflow)
  | .noContent =>
    match stack with
    | _ :: rest => ([], .next (.noContent :: rest))
    | [] => ([], .failed .stackUnderflow)
  | .box ty =>
    match stack with
    | v :: rest =>
      if v.conforms ty then ([], .next (v :: rest))
      else ([], .failed (.type (.result v.kind ty)))
    | [] => ([], .failed .stackUnderflow)
  | .ret =>
    match stack with
    | v :: _ => ([], .returned v)
    | [] => ([], .failed .stackUnderflow)

/-- The calls made and the result, from a given stack on. -/
def runFrom (ctx : Context) (methods : List Linked) (stack : Stack) :
    List Resolved → List Call × Except VmError Value
  | [] => ([], .error .missingReturn)
  | i :: code =>
    match step ctx methods stack i with
    | (calls, .next stack) =>
      let (later, result) := runFrom ctx methods stack code
      (calls ++ later, result)
    | (calls, .returned v) => (calls, .ok v)
    | (calls, .failed e) => (calls, .error e)

end Machine

def LoadedFunction.execute (f : LoadedFunction) (ctx : Context) (methods : List Linked) :
    List Call × Except VmError Value :=
  Machine.runFrom ctx methods [] f.code

end RouteAdapter
