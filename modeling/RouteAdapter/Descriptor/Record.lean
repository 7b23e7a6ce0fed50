import RouteAdapter.Descriptor.Basic
import RouteAdapter.Document.Record

/-!
# Records of descriptors

How controllers, methods, parameters and annotations are written in a document. Fields that are not
listed here are ignored.
-/

namespace RouteAdapter

structure AnnotationFields where
  kind : Option String
  name : Option (Option String)

def Annotation.record : Record AnnotationFields Annotation where
  name := "Annotation"
  strict := false
  fields := [
    .at true "kind" .text (·.kind) fun s a => { s with kind := some a },
    .at false "name" (.optional .text) (·.name) fun s a => { s with name := some a }]
  blank := ⟨none, none⟩
  value? s := do pure ⟨← s.kind, s.name.join⟩

structure ParamFields where
  name : Option String
  ty : Option Ty
  annotations : Option (List Annotation)

def DeclaredParam.record : Record ParamFields DeclaredParam where
  name := "ParamDescriptor"
  strict := false
  fields := [
    .at true "name" .text (·.name) fun s a => { s with name := some a },
    .at true "type" .ty (·.ty) fun s a => { s with ty := some a },
    .at false "annotations" (.list Annotation.record.decode) (·.annotations) fun s a =>
      { s with annotations := some a }]
  blank := ⟨none, none, none⟩
  value? s := do pure ⟨← s.name, ← s.ty, s.annotations.getD []⟩

structure MethodFields where
  name : Option String
  params : Option (List DeclaredParam)
  returns : Option Ty

/-- A method without a result type returns nothing. -/
def DeclaredMethod.record : Record MethodFields DeclaredMethod where
  name := "MethodDescriptor"
  strict := false
  fields := [
    .at true "name" .text (·.name) fun s a => { s with name := some a },
    .at false "param" (.list DeclaredParam.record.decode) (·.params) fun s a =>
      { s with params := some a },
    .at false "returns" .ty (·.returns) fun s a => { s with returns := some a }]
  blank := ⟨none, none, none⟩
  value? s := do pure ⟨← s.name, s.params.getD [], s.returns.getD .void⟩

structure ControllerFields where
  name : Option String
  methods : Option (List DeclaredMethod)

def Controller.record : Record ControllerFields Controller where
  name := "ControllerDescriptor"
  strict := false
  fields := [
    .at true "name" .text (·.name) fun s a => { s with name := some a },
    .at false "method" (.list DeclaredMethod.record.decode) (·.methods) fun s a =>
      { s with methods := some a }]
  blank := ⟨none, none⟩
  value? s := do pure ⟨← s.name, s.methods.getD []⟩

def ControllerSet.record : Record (Option (List Controller)) ControllerSet where
  name := "ControllerSet"
  strict := false
  fields := [.at false "controller" (.list Controller.record.decode) id fun _ a => some a]
  blank := none
  value? s := some ⟨s.getD []⟩

end RouteAdapter
