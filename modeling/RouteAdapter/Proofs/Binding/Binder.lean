import RouteAdapter.Emission.Parameter
import RouteAdapter.Machine.Run

/-!
# The reference binder

What an adapter has to do, said without modules and machines. The arguments are bound in the order
of the parameters, the first conversion that fails is the result, and otherwise the handler is
called once with all of them.
-/

namespace RouteAdapter

/-- What a request has for a parameter. Bodies are taken as a whole, and the generic parameter is
looked up by name. -/
def Parameter.fetch (ctx : Context) (p : Parameter) : Value :=
  match p.source, p.kind with
  | .path, .named => .raw (ctx.path p.httpName)
  | .query, .named => .raw (ctx.query p.httpName)
  | .header, .named => .raw (ctx.header p.httpName)
  | .form, .named => .raw (ctx.form p.httpName)
  | .session, .named => .raw (ctx.session p.httpName)
  | .flash, .named => .raw (ctx.flash p.httpName)
  | .named, _ => .raw (ctx.param p.httpName)
  | .path, .object => .map ctx.pathMap
  | .query, .object => .map ctx.queryMap
  | .header, .object => .map ctx.headerMap
  | .form, .object => .map ctx.formMap
  | .session, .object => .map ctx.sessionMap
  | .flash, .object => .map ctx.flashMap
  | .body, _ => .body ctx.body
  | .context, _ => .context

namespace Binder

def argument (ctx : Context) (p : Parameter) : Except ConvertError Value :=
  if p.source = .context then .ok .context else (p.fetch ctx).convert p.ty

def arguments (ctx : Context) (params : List Parameter) : Except ConvertError (List Value) :=
  params.mapM (argument ctx)

/-- Nothing is answered for `void`, and a primitive result has to be what was declared. -/
def result (returns : Ty) (v : Value) : Except VmError Value :=
  if returns.isVoid then .ok .noContent
  else if returns.isPrimitive ∧ ¬v.conforms returns then .error (.type (.result v.kind returns))
  else .ok v

def answer (ctx : Context) (symbol : String) (handler : Handler) (returns : Ty)
    (args : List Value) : List Call × Except VmError Value :=
  ([⟨symbol, args⟩],
    match handler ctx args with
    | .ok v => result returns v
    | .error message => .error (.handler symbol message))

def run (ctx : Context) (symbol : String) (handler : Handler) (params : List Parameter)
    (returns : Ty) : List Call × Except VmError Value :=
  match arguments ctx params with
  | .ok args => answer ctx symbol handler returns args
  | .error e => ([], .error (.convert e))

end Binder
end RouteAdapter
