import RouteAdapter.Emission.Schema
import RouteAdapter.Emission.Unit

/-!
# Writer chains

The operations that produce one argument are written by a chain: fetch the value, or load the
context, then convert what was fetched to the declared type. The type on top of the stack travels
down the chain.
-/

namespace RouteAdapter

/-- Conversions that exist: raw values to scalars, maps to composite types, bodies to scalars and
composite types, and to their options and lists. -/
def Ty.convertsTo (source target : Ty) : Bool :=
  let decodable (ty : Ty) : Bool := (ty.isScalar && ty != .value) || ty.isComposite
  source == target ||
    match source with
    | .value => target.isScalarLike
    | .map => target.isComposite
    | .body =>
      match target with
      | .option inner | .list inner => decodable inner
      | ty => decodable ty
    | _ => false

inductive Writer
  | context
  | named
  | object
  | convert
  deriving DecidableEq

abbrev Chain := List Writer

namespace Chain

def writerName : Writer → String
  | .context => "context"
  | .named => "named"
  | .object => "object"
  | .convert => "convert"

/-- The writers by name; every chain ends with the terminal one. -/
def names (chain : List Writer) : List String :=
  chain.map writerName ++ ["terminal"]

def ofParameter (p : Parameter) : Chain :=
  if p.source = .context then [.context]
  else if p.isNamed then [.named, .convert]
  else [.object, .convert]

def lookup (s : Schema) (p : Parameter) (kind : SourceKind) : Except CompileError AccessorSpec :=
  match s.lookup (p.source, kind) with
  | some a => .ok a
  | none => .error (.noAccessor p.name p.source kind)

def accessorRef (a : AccessorSpec) : Except CompileError AccessorRef :=
  if a.params.length < 256 then .ok ⟨a.name, a.descriptor, UInt8.ofNat a.params.length⟩
  else .error (.emission (.tooManyArguments a.name))

/-- The operations of a fetch, and the type it leaves; what comes before a fault stays written. -/
def fetch (s : Schema) (p : Parameter) (kind : SourceKind) (before : List Op) :
    List Op × Except CompileError Ty :=
  match lookup s p kind with
  | .error e => ([], .error e)
  | .ok a =>
    match accessorRef a with
    | .error e => (before, .error e)
    | .ok ref => (before ++ [.accessor ref], .ok a.returns)

def convertTop (p : Parameter) (top : Option Ty) : List Op × Except CompileError Ty :=
  match top with
  | none => ([], .error (.emission (.nothingToConvert p.name)))
  | some source =>
    if source = p.ty then ([], .ok p.ty)
    else if source.convertsTo p.ty then ([.convert source p.ty], .ok p.ty)
    else ([], .error (.emission (.cannotConvert source p.ty p.name)))

def write (s : Schema) (p : Parameter) (top : Option Ty) : Writer → List Op × Except CompileError Ty
  | .context => ([.loadContext], .ok .context)
  | .named => fetch s p .named [.loadContext, .literal p.httpName]
  | .object => fetch s p .object [.loadContext]
  | .convert => convertTop p top

/-- All operations written up to the end of the chain or to the first fault. -/
def emitFrom (s : Schema) (p : Parameter) (top : Option Ty) :
    List Writer → List Op × Except CompileError Unit
  | [] => ([], .ok ())
  | w :: chain =>
    match write s p top w with
    | (ops, .error e) => (ops, .error e)
    | (ops, .ok ty) =>
      let (more, result) := emitFrom s p (some ty) chain
      (ops ++ more, result)

def emit (s : Schema) (p : Parameter) (chain : List Writer) : List Op × Except CompileError Unit :=
  emitFrom s p none chain

end Chain
end RouteAdapter
