import RouteAdapter.Context.Basic
import RouteAdapter.Ty.Text

/-!
# Context accessors

Modules name accessors by name and descriptor; `Accessor.resolve` binds them. A single accessor
takes a name and answers a raw value, the others take nothing and answer a map or the body.
-/

namespace RouteAdapter

inductive SingleSource
  | path
  | query
  | header
  | form
  | session
  | flash
  | param
  deriving DecidableEq

inductive Accessor
  | single (source : SingleSource)
  | object (facet : Facet)
  | body
  deriving DecidableEq

inductive LinkError
  | unknownAccessor (name : String)
  | accessorMismatch (name expected actual : String)
  | missingHandler (symbol : String)
  | descriptorMismatch (symbol expected actual : String)
  deriving DecidableEq

def LinkError.message : LinkError → String
  | unknownAccessor name => "Unknown context accessor `" ++ name ++ "`"
  | accessorMismatch name expected actual =>
    "Context accessor `" ++ name ++ "` has descriptor " ++ actual ++ ", module expects "
      ++ expected
  | missingHandler symbol =>
    "No handler registered for controller method `" ++ symbol ++ "`"
  | descriptorMismatch symbol expected actual =>
    "Handler `" ++ symbol ++ "` has descriptor " ++ actual ++ ", module expects " ++ expected

namespace Accessor

def byName? : String → Option Accessor
  | "path" => some (single .path)
  | "query" => some (single .query)
  | "header" => some (single .header)
  | "form" => some (single .form)
  | "session" => some (single .session)
  | "flash" => some (single .flash)
  | "param" => some (single .param)
  | "path_map" => some (object .path)
  | "query_map" => some (object .query)
  | "header_map" => some (object .header)
  | "form_map" => some (object .form)
  | "session_map" => some (object .session)
  | "flash_map" => some (object .flash)
  | "body" => some body
  | _ => none

def params : Accessor → List Ty
  | single _ => [.str]
  | object _ | body => []

def returns : Accessor → Ty
  | single _ => .value
  | object _ => .map
  | body => .body

def descriptor (a : Accessor) : String :=
  methodDescriptor a.params a.returns

/-- Arguments besides the context. -/
def arity (a : Accessor) : Nat :=
  a.params.length

def resolve (name descriptor : String) : Except LinkError Accessor :=
  match byName? name with
  | none => .error (.unknownAccessor name)
  | some a =>
    if a.descriptor = descriptor then .ok a
    else .error (.accessorMismatch name descriptor a.descriptor)

/-- The answer of a context; accessors without a parameter ignore the name. -/
def invoke (a : Accessor) (ctx : Context) (name : String) : Value :=
  match a with
  | single .path => .raw (ctx.path name)
  | single .query => .raw (ctx.query name)
  | single .header => .raw (ctx.header name)
  | single .form => .raw (ctx.form name)
  | single .session => .raw (ctx.session name)
  | single .flash => .raw (ctx.flash name)
  | single .param => .raw (ctx.param name)
  | object .path => .map ctx.pathMap
  | object .query => .map ctx.queryMap
  | object .header => .map ctx.headerMap
  | object .form => .map ctx.formMap
  | object .session => .map ctx.sessionMap
  | object .flash => .map ctx.flashMap
  | body => .body ctx.body

def sourceForm : SingleSource → String
  | .path => "Path"
  | .query => "Query"
  | .header => "Header"
  | .form => "Form"
  | .session => "Session"
  | .flash => "Flash"
  | .param => "Param"

def facetForm : Facet → String
  | .path => "Path"
  | .query => "Query"
  | .header => "Header"
  | .form => "Form"
  | .session => "Session"
  | .flash => "Flash"

/-- The accessor spelled out, for diagnostics. -/
def form : Accessor → String
  | single source => "Single(" ++ sourceForm source ++ ")"
  | object facet => "Object(" ++ facetForm facet ++ ")"
  | body => "Body"

end Accessor
end RouteAdapter
