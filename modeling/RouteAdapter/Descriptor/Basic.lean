import RouteAdapter.Ty.Text

/-!
# Controller descriptors

What is compiled: controllers with their methods, and for every method its annotated parameters and
its result type.
-/

namespace RouteAdapter

structure Annotation where
  kind : String
  name : Option String
  deriving DecidableEq

structure DeclaredParam where
  name : String
  ty : Ty
  annotations : List Annotation
  deriving DecidableEq

structure DeclaredMethod where
  name : String
  params : List DeclaredParam
  returns : Ty
  deriving DecidableEq

structure Controller where
  name : String
  methods : List DeclaredMethod
  deriving DecidableEq

structure ControllerSet where
  controllers : List Controller
  deriving DecidableEq

namespace DeclaredParam

def new (name : String) (ty : Ty) : DeclaredParam :=
  ⟨name, ty, []⟩

def annotate (p : DeclaredParam) (kind : String) (name : Option String) : DeclaredParam :=
  { p with annotations := p.annotations ++ [⟨kind, name⟩] }

end DeclaredParam

namespace DeclaredMethod

def new (name : String) (returns : Ty) : DeclaredMethod :=
  ⟨name, [], returns⟩

def addParam (m : DeclaredMethod) (p : DeclaredParam) : DeclaredMethod :=
  { m with params := m.params ++ [p] }

def descriptor (m : DeclaredMethod) : String :=
  methodDescriptor (m.params.map DeclaredParam.ty) m.returns

end DeclaredMethod

namespace Controller

def new (name : String) : Controller :=
  ⟨name, []⟩

def addMethod (c : Controller) (m : DeclaredMethod) : Controller :=
  { c with methods := c.methods ++ [m] }

end Controller
end RouteAdapter
