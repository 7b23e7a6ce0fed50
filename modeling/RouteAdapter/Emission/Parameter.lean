import RouteAdapter.Descriptor.Basic
import RouteAdapter.Emission.Error

/-!
# Parameters

A declared parameter is resolved to its source, the way it is bound and its name on the wire.
-/

namespace RouteAdapter

structure Parameter where
  index : Nat
  name : String
  httpName : String
  kind : SourceKind
  ty : Ty
  source : Source
  deriving DecidableEq

namespace Parameter

def isNamed (p : Parameter) : Bool :=
  p.kind = .named

/-- How a type is bound from a source, if it can be. -/
def kindFor (source : Source) (ty : Ty) : Option SourceKind :=
  match source with
  | .body | .context => some .object
  | .named => some .named
  | _ =>
    if ty.isScalarLike then some .named
    else if ty = .map ∨ ty.isComposite then some .object
    else none

def sources (annotations : List Annotation) : List (Source × Option String) :=
  annotations.filterMap fun a => (Source.ofTag? a.kind).map fun s => (s, a.name)

/-- The one source and its explicit name; the context type needs no annotation. -/
def sourceOf (ty : Ty) : List (Source × Option String) → Except Unsupported (Source × Option String)
  | [] => if ty = .context then .ok (.context, none) else .error (.noSource ty)
  | [s] => .ok s
  | conflicting => .error (.conflicting (conflicting.map Prod.fst))

/-- An empty explicit name counts as none. -/
def wireName (declared : String) : Option String → String
  | some name => if name.isEmpty then declared else name
  | none => declared

def resolve (index : Nat) (d : DeclaredParam) : Except CompileError Parameter :=
  Except.mapError (.unsupportedParameter d.name) do
    if d.ty.isVoid then throw .void
    let (source, explicit) ← sourceOf d.ty (sources d.annotations)
    if ¬(d.ty = .context ↔ source = .context) then throw (.contextMismatch source d.ty)
    match kindFor source d.ty with
    | some kind => pure ⟨index, d.name, wireName d.name explicit, kind, d.ty, source⟩
    | none => throw (.unbindable d.ty source)

/-- Errors and values of a list of results, each in order. -/
def partition {ε α : Type} : List (Except ε α) → List ε × List α
  | [] => ([], [])
  | .error e :: rest => (e :: (partition rest).1, (partition rest).2)
  | .ok a :: rest => ((partition rest).1, a :: (partition rest).2)

/-- All parameters of a method, or the errors of all that cannot be resolved. -/
def resolveAll (m : DeclaredMethod) : Except (List CompileError) (List Parameter) :=
  match partition (m.params.mapIdx resolve) with
  | ([], params) => .ok params
  | (errors, _) => .error errors

end Parameter
end RouteAdapter
