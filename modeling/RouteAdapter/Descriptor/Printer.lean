import RouteAdapter.Descriptor.Basic
import RouteAdapter.Json.Printer

/-!
# Descriptors as JSON

Every field is written, except the name of an annotation that has none. Members are in ascending
order of their keys.
-/

namespace RouteAdapter

def Annotation.toJson (a : Annotation) : Json :=
  .object (("kind", .string a.kind) :: (a.name.map fun name => ("name", Json.string name)).toList)

def DeclaredParam.toJson (p : DeclaredParam) : Json :=
  .object [("annotations", .array (p.annotations.map Annotation.toJson)), ("name", .string p.name),
    ("type", .string p.ty.text)]

def DeclaredMethod.toJson (m : DeclaredMethod) : Json :=
  .object [("name", .string m.name), ("param", .array (m.params.map DeclaredParam.toJson)),
    ("returns", .string m.returns.text)]

def Controller.toJson (c : Controller) : Json :=
  .object [("method", .array (c.methods.map DeclaredMethod.toJson)), ("name", .string c.name)]

def ControllerSet.toJson (s : ControllerSet) : Json :=
  .object [("controller", .array (s.controllers.map Controller.toJson))]

end RouteAdapter
