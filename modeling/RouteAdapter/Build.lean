import RouteAdapter.Config.Basic
import RouteAdapter.Emission.Class

/-!
# Builds

A compiler is a configuration with an accessor schema. It emits all controllers and lowers what was
emitted.
-/

namespace RouteAdapter

structure Compiler where
  config : Config
  schema : Schema

inductive BuildError
  | aggregate (report : Report)
  | lower (e : LowerError)

def BuildError.message : BuildError → String
  | aggregate report => "Build failed with " ++ toString report.errorCount ++ " error(s)"
  | lower e => e.message

namespace Compiler

def ofConfig (config : Config) : Except ConfigFault Compiler := do
  config.validate
  pure ⟨config, config.schema⟩

def compile (c : Compiler) (t : ClassTable) (controllers : List Controller) : Report × ClassTable :=
  Controller.emitAll c.schema c.config.classSuffix t controllers

def lower (c : Compiler) (t : ClassTable) : Except LowerError (List Module) :=
  EmittedClass.lowerAll c.config.lowerOptions t.classes

def build (c : Compiler) (controllers : List Controller) : Except BuildError (List Module) := do
  let (report, t) := c.compile ClassTable.empty controllers
  let _ ← report.toResult.mapError .aggregate
  (c.lower t).mapError .lower

end Compiler
end RouteAdapter
