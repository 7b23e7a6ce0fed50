import RouteAdapter.Machine.Run

/-!
# Loaded classes

The first class of a module is loaded: the module is verified, its accessors and methods are bound,
and the body behind every route is resolved. Dispatching a route runs its body.
-/

namespace RouteAdapter

structure LoadedClass where
  name : String
  controller : String
  /-- From route names to positions among the functions. -/
  routes : Dict Nat
  functions : List LoadedFunction
  methods : List Linked
  fingerprint : Bytes

inductive DispatchError
  | unknownClass (name : String)
  | unknownRoute (className route : String)
  | vm (className route : String) (e : VmError)

def DispatchError.message : DispatchError → String
  | unknownClass name => "No adapter class named `" ++ name ++ "`"
  | unknownRoute className route => "Class `" ++ className ++ "` has no route `" ++ route ++ "`"
  | vm className route e => className ++ "." ++ route ++ ": " ++ e.message

namespace LoadedClass

def liftLink {α : Type} (r : Except LinkError α) : Except LoadError α :=
  r.mapError .link

/-- The bodies behind the routes, in the order of the routes. -/
def loadRoutes (m : Module) (accessors : List Accessor) :
    List Route → Except LoadError (List LoadedFunction)
  | [] => .ok []
  | r :: rest =>
    match m.functions[r.functionId]? with
    | none => .error (.verify (.malformed (.danglingRoute r.name r.functionId)))
    | some f => do
      let loaded ← LoadedFunction.load f m accessors
      let others ← loadRoutes m accessors rest
      pure (loaded :: others)

/-- The last of two routes with one name counts. -/
def routeIndex (routes : List Route) : Dict Nat :=
  Dict.ofList (routes.mapIdx fun i r => (r.name, i))

/-- Load a module whose fingerprint is known. -/
def loadWith (m : Module) (h : HandlerRegistry) (fingerprint : Bytes) :
    Except LoadError LoadedClass := do
  m.verify.mapError .verify
  match m.classes with
  | [] => throw (.noClass m.metadata.name)
  | c :: _ =>
    if c.interface ≠ Module.dispatchInterface then throw (.wrongInterface c.name c.interface)
    let accessors ← liftLink (Accessor.ofTable m.accessors)
    let methods ← liftLink (Linked.ofTable h m.methods)
    let functions ← loadRoutes m accessors c.methods
    pure ⟨c.name, c.controller, routeIndex c.methods, functions, methods, fingerprint⟩

def load (m : Module) (h : HandlerRegistry) : Except LoadError LoadedClass :=
  loadWith m h m.fingerprint

def ofBytes (bytes : Bytes) (h : HandlerRegistry) : Except LoadError LoadedClass := do
  let m ← (Module.decode bytes).mapError .module
  load m h

/-- The names of the functions behind the routes, in the order of the routes. -/
def routeNames (c : LoadedClass) : List String :=
  c.functions.map LoadedFunction.name

def hasRoute (c : LoadedClass) (route : String) : Bool :=
  Dict.contains c.routes route

def dispatch (c : LoadedClass) (route : String) (ctx : Context) :
    List Call × Except DispatchError Value :=
  match (Dict.get? c.routes route).bind fun i => c.functions[i]? with
  | none => ([], .error (.unknownRoute c.name route))
  | some f =>
    let (calls, result) := f.execute ctx c.methods
    (calls, result.mapError (.vm c.name route))

end LoadedClass
end RouteAdapter
