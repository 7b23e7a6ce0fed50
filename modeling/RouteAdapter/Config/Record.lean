import RouteAdapter.Config.Basic
import RouteAdapter.Files.Tree
import RouteAdapter.Toml.Reader

/-!
# Configuration files

A configuration is a TOML document without unknown fields. What it leaves out is as in the standard
configuration.
-/

namespace RouteAdapter

/-- Only the names of disabled accessors are gathered. -/
def Config.contextRecord : Record (Option (List String)) (List String) where
  name := "ContextConfig"
  strict := true
  fields := [.at false "disabled" (.list .text) id fun _ a => some a]
  blank := none
  value? s := some (s.getD [])

structure ConfigFields where
  classSuffix : Option String
  verify : Option Bool
  emitReflection : Option Bool
  sourceFile : Option (Option String)
  disabled : Option (List String)

def Config.record : Record ConfigFields Config where
  name := "CompilerConfig"
  strict := true
  fields := [
    .at false "class_suffix" .text (·.classSuffix) fun s a => { s with classSuffix := some a },
    .at false "verify" .flag (·.verify) fun s a => { s with verify := some a },
    .at false "emit_reflection" .flag (·.emitReflection) fun s a =>
      { s with emitReflection := some a },
    .at false "source_file" (.optional .text) (·.sourceFile) fun s a =>
      { s with sourceFile := some a },
    .at false "context" Config.contextRecord.decode (·.disabled) fun s a =>
      { s with disabled := some a }]
  blank := ⟨none, none, none, none, none⟩
  value? s := some {
    classSuffix := s.classSuffix.getD Config.standard.classSuffix
    verify := s.verify.getD Config.standard.verify
    emitReflection := s.emitReflection.getD Config.standard.emitReflection
    sourceFile := s.sourceFile.join
    disabled := s.disabled.getD [] }

inductive ConfigError
  | unreadable (e : FileError)
  | parse (fault : DecodeFault)
  | invalid (fault : ConfigFault)

def ConfigError.message : ConfigError → String
  | unreadable e => "Failed to read config file: " ++ e.message
  | parse fault => "Failed to parse config: " ++ fault.message
  | invalid fault => "Invalid config: " ++ fault.message

def Config.ofToml (s : String) : Except ConfigError Config := do
  let c ← (Toml.decode Config.record.decode s).mapError .parse
  c.validate.mapError .invalid
  pure c

def Config.ofFile (files : Files) (path : String) : Except ConfigError Config := do
  Config.ofToml (← (files.readText path).mapError .unreadable)

end RouteAdapter
