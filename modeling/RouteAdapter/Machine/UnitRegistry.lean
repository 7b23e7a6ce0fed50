import RouteAdapter.Machine.LoadedClass

/-!
# Unit registries

Loaded classes by name. A module with the fingerprint of the class already loaded under its name
changes nothing and is not loaded again.
-/

namespace RouteAdapter

inductive LoadOutcome
  | loaded
  | replaced
  | unchanged
  deriving DecidableEq

def LoadOutcome.name : LoadOutcome → String
  | loaded => "Loaded"
  | replaced => "Replaced"
  | unchanged => "Unchanged"

structure UnitRegistry where
  handlers : HandlerRegistry
  units : Dict LoadedClass

namespace UnitRegistry

def empty (handlers : HandlerRegistry) : UnitRegistry :=
  ⟨handlers, []⟩

def get? (r : UnitRegistry) (name : String) : Option LoadedClass :=
  Dict.get? r.units name

/-- Whether a class with this fingerprint is loaded under the name of the module's first class. -/
def isCurrent (r : UnitRegistry) (m : Module) (fingerprint : Bytes) : Bool :=
  match m.classes with
  | [] => false
  | c :: _ => (r.get? c.name).any fun loaded => loaded.fingerprint == fingerprint

def load (r : UnitRegistry) (m : Module) : Except LoadError (LoadOutcome × UnitRegistry) := do
  let fingerprint := m.fingerprint
  if r.isCurrent m fingerprint then pure (.unchanged, r)
  else
    let c ← LoadedClass.loadWith m r.handlers fingerprint
    let outcome := if Dict.contains r.units c.name then .replaced else .loaded
    pure (outcome, { r with units := Dict.insert c.name c r.units })

def loadBytes (r : UnitRegistry) (bytes : Bytes) :
    Except LoadError (LoadOutcome × UnitRegistry) := do
  let m ← (Module.decode bytes).mapError .module
  r.load m

def unload (r : UnitRegistry) (name : String) : Bool × UnitRegistry :=
  (Dict.contains r.units name, { r with units := Dict.erase name r.units })

def names (r : UnitRegistry) : List String :=
  Dict.keys r.units

def dispatch (r : UnitRegistry) (className route : String) (ctx : Context) :
    List Call × Except DispatchError Value :=
  match r.get? className with
  | none => ([], .error (.unknownClass className))
  | some c => c.dispatch route ctx

end UnitRegistry
end RouteAdapter
