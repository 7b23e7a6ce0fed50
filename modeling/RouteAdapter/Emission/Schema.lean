import RouteAdapter.Dict
import RouteAdapter.Emission.Error

/-!
# Accessor schemas

Which accessor of the context serves a source when it is bound by name or as a whole. A binding
without an accessor cannot be compiled.
-/

namespace RouteAdapter

structure AccessorSpec where
  name : String
  /-- Argument types besides the context. -/
  params : List Ty
  returns : Ty
  deriving DecidableEq

def AccessorSpec.descriptor (a : AccessorSpec) : String :=
  methodDescriptor a.params a.returns

abbrev Binding := Source × SourceKind

structure Schema where
  bindings : List (Binding × AccessorSpec)
  deriving DecidableEq

namespace Schema

def empty : Schema :=
  ⟨[]⟩

def lookup (s : Schema) (b : Binding) : Option AccessorSpec :=
  (s.bindings.find? fun entry => entry.1 == b).map Prod.snd

/-- Replaces the accessor bound before. -/
def insert (s : Schema) (b : Binding) (a : AccessorSpec) : Schema :=
  ⟨s.bindings.filter (fun entry => entry.1 != b) ++ [(b, a)]⟩

/-- Remove every binding served by the accessor of a name. -/
def disable (s : Schema) (name : String) : Schema :=
  ⟨s.bindings.filter fun entry => entry.2.name != name⟩

def provides (s : Schema) (name : String) : Bool :=
  s.bindings.any fun entry => entry.2.name == name

def size (s : Schema) : Nat :=
  s.bindings.length

/-- The names of the accessors, each once, in ascending order. -/
def names (s : Schema) : List String :=
  Dict.keys (Dict.ofList (s.bindings.map fun entry => (entry.2.name, ())))

def single (source : Source) (name : String) : Binding × AccessorSpec :=
  ((source, .named), ⟨name, [.str], .value⟩)

def whole (source : Source) (name : String) (returns : Ty) : Binding × AccessorSpec :=
  ((source, .object), ⟨name, [], returns⟩)

/-- What every request context has. -/
def standard : Schema :=
  ⟨[single .path "path", whole .path "path_map" .map,
    single .query "query", whole .query "query_map" .map,
    single .header "header", whole .header "header_map" .map,
    single .form "form", whole .form "form_map" .map,
    single .session "session", whole .session "session_map" .map,
    single .flash "flash", whole .flash "flash_map" .map,
    single .named "param",
    whole .body "body" .body]⟩

end Schema
end RouteAdapter
