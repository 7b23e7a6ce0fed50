import RouteAdapter.Proofs.Dict
import RouteAdapter.Proofs.Lowering.Loading
import RouteAdapter.Proofs.Machine.Registry

/-!
# Listed routes

A loaded class has the names of its routes in two places: in its index, which dispatching looks up,
and at the functions behind them, which it lists. A module may name a function unlike the route that
refers to it, and loading does not compare the two.

* `LoadedClass.hasRoute_iff`, `LoadedClass.hasRoute_iff_dispatch`: the routes that are dispatched;
* `LoadedClass.lists_iff`: when these are the routes that are listed;
* `EmittedClass.lists_lowered`: emitted classes list them.
-/

namespace RouteAdapter

namespace LoadedClass

variable {m : Module} {h : HandlerRegistry} {c : LoadedClass} {routes : List Route}

/-! ## Dispatched routes -/

theorem hasRoute_iff (index : c.routes = routeIndex routes) (route : String) :
    c.hasRoute route = true ↔ route ∈ routes.map Route.name := by
  rw [hasRoute, index, routeIndex, Dict.contains_ofList, keys_routes]

theorem hasRoute_iff_dispatch (index : c.routes = routeIndex routes)
    (bodies : c.functions.length = routes.length) (route : String) (ctx : Context) :
    c.hasRoute route = true ↔
      ∀ className name, (c.dispatch route ctx).2 ≠ .error (.unknownRoute className name) := by
  rw [hasRoute, Dict.contains, dispatch]
  cases found : Dict.get? c.routes route with
  | none => simp
  | some i =>
      have position : i < c.functions.length := by
        rw [index] at found
        obtain ⟨j, bound, same⟩ := List.mem_mapIdx.mp (Dict.mem_of_get?_ofList found)
        cases same
        exact bodies ▸ bound
      rw [Option.bind_some, List.getElem?_eq_getElem position]
      refine ⟨fun _ className name unknown => ?_, fun _ => rfl⟩
      cases run : (c.functions[i].execute ctx c.methods).2 with
      | ok v => simp [run, Except.mapError] at unknown
      | error e => simp [run, Except.mapError] at unknown

/-! ## Listed routes -/

/-- The class lists these names, and they are what it has and dispatches. -/
structure Lists (c : LoadedClass) (names : List String) : Prop where
  listed : c.routeNames = names
  has : ∀ route, route ∈ c.routeNames ↔ c.hasRoute route = true
  dispatched : ∀ route ctx, c.hasRoute route = true ↔
    ∀ className name, (c.dispatch route ctx).2 ≠ .error (.unknownRoute className name)

theorem names_eq_iff {accessors : List Accessor} {functions : List LoadedFunction}
    (loaded : loadRoutes m accessors routes = .ok functions) :
    functions.map LoadedFunction.name = routes.map Route.name ↔
      ∀ r ∈ routes, ∀ f, m.functions[r.functionId]? = some f → f.name = r.name := by
  replace loaded := loadRoutes_ok.mp loaded
  induction loaded with
  | nil => simp
  | @cons r _ routes functions first _ ih =>
      obtain ⟨f, found, load⟩ := first
      obtain ⟨-, -, name, -⟩ := LoadedFunction.load_ok.mp load
      simp only [List.map_cons, List.cons.injEq, List.forall_mem_cons, name, found,
        Option.some.injEq, forall_eq']
      exact and_congr_right' ih

theorem lists_iff_named {accessors : List Accessor} (index : c.routes = routeIndex routes)
    (loaded : loadRoutes m accessors routes = .ok c.functions) :
    c.Lists (routes.map Route.name) ↔
      ∀ r ∈ routes, ∀ f, m.functions[r.functionId]? = some f → f.name = r.name := by
  rw [← names_eq_iff loaded]
  refine ⟨Lists.listed, fun listed => ⟨listed, fun route => ?_, fun route ctx => ?_⟩⟩
  · rw [hasRoute_iff index, ← listed, routeNames]
  · exact hasRoute_iff_dispatch index (loadRoutes_ok.mp loaded).length_eq.symm route ctx

/-- The routes of the first class are what a loaded class has and dispatches. It lists the functions
behind them, which are the routes exactly if each is named like its route. -/
theorem lists_iff (loaded : load m h = .ok c) :
    ∃ cls rest, m.classes = cls :: rest ∧
      (∀ route ctx, (c.hasRoute route = true ↔ route ∈ cls.methods.map Route.name) ∧
        (c.hasRoute route = true ↔
          ∀ className name, (c.dispatch route ctx).2 ≠ .error (.unknownRoute className name))) ∧
      (c.Lists (cls.methods.map Route.name) ↔
        ∀ r ∈ cls.methods, ∀ f, m.functions[r.functionId]? = some f → f.name = r.name) := by
  obtain ⟨-, cls, rest, accessors, classes, -, -, -, routes, whole⟩ := loadWith_ok.mp loaded
  have index : c.routes = routeIndex cls.methods := congrArg LoadedClass.routes whole
  have bodies := (loadRoutes_ok.mp routes).length_eq.symm
  refine ⟨cls, rest, classes, fun route ctx => ⟨?_, ?_⟩, lists_iff_named index routes⟩
  · exact hasRoute_iff index route
  · exact hasRoute_iff_dispatch index bodies route ctx

/-- A module with one route and one function, which have these names. -/
def answering (route function : String) : Module :=
  { Module.named "C" with
    functions := [⟨function, 1, 1, Code.encode [.loadCtx, .noContent, .ret]⟩]
    classes := [⟨"C", Module.dispatchInterface, "", [⟨route, 0⟩]⟩] }

theorem lists_iff_alike :
    ∃ c, load (answering "list" "list") .empty = .ok c ∧ c.Lists ["list"] := by
  obtain ⟨c, loaded, -⟩ : ∃ c, load (answering "list" "list") .empty = .ok c ∧ True :=
    exists_ok_of_toOption (by decide +kernel) fun _ _ => trivial
  obtain ⟨cls, rest, classes, -, listed⟩ := lists_iff loaded
  cases classes
  refine ⟨c, loaded, listed.mpr fun r member f found => ?_⟩
  cases List.mem_singleton.mp member
  cases found
  rfl

theorem load_answering_unlisted :
    ∃ c, load (answering "list" "r") .empty = .ok c ∧ c.routeNames = ["r"] ∧
      c.hasRoute "list" = true ∧ ¬ c.Lists ["list"] := by
  obtain ⟨c, loaded, names, has⟩ : ∃ c, load (answering "list" "r") .empty = .ok c ∧
      c.routeNames = ["r"] ∧ c.hasRoute "list" = true :=
    exists_ok_of_toOption (by decide +kernel) (by decide +kernel)
  refine ⟨c, loaded, names, has, fun lists => ?_⟩
  have other := lists.listed
  rw [names] at other
  exact absurd other (by decide)

end LoadedClass

/-! ## Emitted classes -/

theorem EmittedClass.lists_lowered {c : EmittedClass} {options : LowerOptions} {m : Module}
    {h : HandlerRegistry} {loaded : LoadedClass} (lowered : c.lower options = .ok m)
    (addressable : m.tables.Addressable) (load : LoadedClass.load m h = .ok loaded) :
    loaded.Lists (c.units.map AdapterUnit.route) := by
  obtain ⟨t, functions, rfl, -, stand, -⟩ := lower_ok lowered
  obtain ⟨-, cls, rest, accessors, classes, -, -, -, bodies, whole⟩ :=
    LoadedClass.loadWith_ok.mp load
  cases classes
  have index : loaded.routes = LoadedClass.routeIndex c.classDef.methods :=
    congrArg LoadedClass.routes whole
  have routes : c.classDef.methods.map Route.name = c.units.map AdapterUnit.route := by
    apply List.ext_getElem?
    intro i
    simp [classDef, Function.comp_def]
  rw [← routes, LoadedClass.lists_iff_named index bodies]
  intro r member f found
  obtain ⟨i, unit⟩ := List.mem_iff_getElem?.mp member
  simp only [classDef, List.getElem?_mapIdx, Option.map_eq_some_iff] at unit
  obtain ⟨u, entry, rfl⟩ := unit
  obtain ⟨f', found', body, rfl, -⟩ := getElem?_of_forall₂ (stand addressable) entry
  cases found.symm.trans found'
  rfl

end RouteAdapter
