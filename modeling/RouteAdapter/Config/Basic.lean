import RouteAdapter.Emission.Schema
import RouteAdapter.Lowering

/-!
# Configuration

A configuration names the suffix of the classes, what is recorded in the modules and which
accessors are not available.
-/

namespace RouteAdapter

structure Config where
  classSuffix : String
  verify : Bool
  emitReflection : Bool
  sourceFile : Option String
  /-- Names of accessors that the context does not have. -/
  disabled : List String
  deriving DecidableEq

inductive ConfigFault
  | emptySuffix
  | badSuffix (suffix : String)
  | unknownAccessor (name : String)
  deriving DecidableEq

def ConfigFault.message : ConfigFault → String
  | emptySuffix => "class_suffix cannot be empty"
  | badSuffix suffix =>
    "Invalid class_suffix: " ++ suffix
      ++ ". Must contain only alphanumeric characters, `_` and `$`"
  | unknownAccessor name => "Unknown context accessor in [context] disabled: " ++ name

namespace Config

def standard : Config :=
  ⟨"$Adapter", true, false, none, []⟩

def isSuffixChar (c : Char) : Bool :=
  c.isAlphanum || c == '_' || c == '$'

def validate (c : Config) : Except ConfigFault Unit :=
  if c.classSuffix.isEmpty then .error .emptySuffix
  else if !c.classSuffix.toList.all isSuffixChar then .error (.badSuffix c.classSuffix)
  else
    match c.disabled.find? fun name => !(Schema.standard.provides name) with
    | some name => .error (.unknownAccessor name)
    | none => .ok ()

/-- The standard accessors without the disabled ones. -/
def schema (c : Config) : Schema :=
  c.disabled.foldl Schema.disable Schema.standard

def lowerOptions (c : Config) : LowerOptions :=
  ⟨c.verify, c.emitReflection, c.sourceFile⟩

end Config

end RouteAdapter
