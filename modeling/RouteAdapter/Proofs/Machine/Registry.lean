import RouteAdapter.Machine.UnitRegistry
import RouteAdapter.Proofs.Machine.Linking

/-!
# Routes and registries

A class with distinct routes dispatches each of them to its own body. A registry that is filled with
modules of distinct classes, in any order and with any repetition, holds the class of each module
under its name; that modules with equal fingerprints are not loaded again makes no difference,
because the class under a name can only come from the one module.

* `Dict.get?_ofList`: look-ups in a dictionary of distinct keys;
* `LoadedClass.dispatch_route`, `LoadedClass.dispatch_unknown`: dispatching over distinct routes;
* `UnitRegistry.loadAll_ok`: the classes that a filled registry holds.
-/

namespace RouteAdapter

namespace Dict

variable {α : Type}

theorem get?_foldl_insert {entries : List (String × α)}
    (distinct : (entries.map Prod.fst).Nodup) (d : List (String × α)) (key : String) (a : α) :
    get? (entries.foldl (fun d entry => insert entry.1 entry.2 d) d) key = some a ↔
      (key, a) ∈ entries ∨ key ∉ entries.map Prod.fst ∧ get? d key = some a := by
  induction entries generalizing d with
  | nil => simp
  | cons entry entries ih =>
      obtain ⟨first, b⟩ := entry
      rw [List.map_cons, List.nodup_cons] at distinct
      obtain ⟨fresh, others⟩ := distinct
      rw [List.foldl_cons, ih others, List.map_cons, List.mem_cons, List.mem_cons, Prod.mk.injEq]
      by_cases same : key = first
      · -- No later entry has the key again.
        subst same
        have later : (key, a) ∉ entries := fun member => fresh (List.mem_map.mpr ⟨_, member, rfl⟩)
        simp [fresh, later, eq_comm]
      · simp [same, get?_insert_of_ne d b same]

theorem get?_ofList {entries : List (String × α)} (distinct : (entries.map Prod.fst).Nodup)
    (key : String) (a : α) : get? (ofList entries) key = some a ↔ (key, a) ∈ entries := by
  rw [ofList, get?_foldl_insert distinct]
  simp [get?]

end Dict

namespace LoadedClass

variable {c : LoadedClass} {routes : List Route} {ctx : Context}

theorem keys_routes (routes : List Route) :
    (routes.mapIdx fun i r => (r.name, i)).map Prod.fst = routes.map Route.name := by
  apply List.ext_getElem?
  intro i
  simp [Function.comp_def]

theorem get?_routeIndex (distinct : (routes.map Route.name).Nodup) (route : String) (i : Nat) :
    Dict.get? (routeIndex routes) route = some i ↔ ∃ r, routes[i]? = some r ∧ r.name = route := by
  rw [routeIndex, Dict.get?_ofList (keys_routes routes ▸ distinct), List.mem_mapIdx]
  constructor
  · rintro ⟨j, bound, same⟩
    rw [Prod.mk.injEq] at same
    obtain ⟨same, rfl⟩ := same
    exact ⟨routes[j], List.getElem?_eq_getElem bound, same⟩
  · rintro ⟨r, entry, rfl⟩
    obtain ⟨bound, rfl⟩ := List.getElem?_eq_some_iff.mp entry
    exact ⟨i, bound, rfl⟩

theorem dispatch_route (index : c.routes = routeIndex routes)
    (distinct : (routes.map Route.name).Nodup) {i : Nat} {r : Route} {f : LoadedFunction}
    (entry : routes[i]? = some r) (body : c.functions[i]? = some f) :
    c.dispatch r.name ctx =
      ((f.execute ctx c.methods).1, (f.execute ctx c.methods).2.mapError (.vm c.name r.name)) := by
  have found : Dict.get? c.routes r.name = some i := by
    rw [index]
    exact (get?_routeIndex distinct r.name i).mpr ⟨r, entry, rfl⟩
  simp only [dispatch, found, Option.bind_some, body]

theorem dispatch_unknown (index : c.routes = routeIndex routes)
    (distinct : (routes.map Route.name).Nodup) {route : String}
    (unknown : ∀ r ∈ routes, r.name ≠ route) :
    c.dispatch route ctx = ([], .error (.unknownRoute c.name route)) := by
  have absent : Dict.get? c.routes route = none := by
    rw [index]
    cases found : Dict.get? (routeIndex routes) route with
    | none => rfl
    | some i =>
        obtain ⟨r, entry, same⟩ := (get?_routeIndex distinct route i).mp found
        exact absurd same (unknown r (List.mem_of_getElem? entry))
  simp only [dispatch, absent, Option.bind_none]

end LoadedClass

namespace UnitRegistry

def loadAll (r : UnitRegistry) : List Bytes → Except LoadError UnitRegistry
  | [] => .ok r
  | bytes :: rest => do
    let (_, r) ← r.loadBytes bytes
    r.loadAll rest

/-- Every class of the registry is loaded from one of the modules. -/
structure From (h : HandlerRegistry) (modules : List Module) (r : UnitRegistry) : Prop where
  handlers : r.handlers = h
  origin : ∀ name c, r.get? name = some c →
    ∃ m ∈ modules, LoadedClass.load m h = .ok c ∧ c.name = name

/-- The classes of different modules have different names. -/
def Apart (h : HandlerRegistry) (modules : List Module) : Prop :=
  ∀ m ∈ modules, ∀ m' ∈ modules, ∀ c c', LoadedClass.load m h = .ok c →
    LoadedClass.load m' h = .ok c' → c.name = c'.name → m = m'

variable {h : HandlerRegistry} {modules : List Module} {r : UnitRegistry}

theorem From.eq_of_load (of : r.From h modules) (apart : Apart h modules) {m : Module}
    {c c' : LoadedClass} (member : m ∈ modules) (loaded : LoadedClass.load m h = .ok c)
    (held : r.get? c.name = some c') : c' = c := by
  obtain ⟨m', member', loaded', same⟩ := of.origin _ _ held
  obtain rfl := apart m' member' m member c' c loaded' loaded same
  exact Except.ok.inj (loaded'.symm.trans loaded)

theorem load_ok (of : r.From h modules) (apart : Apart h modules) {m : Module} {c : LoadedClass}
    (member : m ∈ modules) (loaded : LoadedClass.load m h = .ok c) :
    ∃ outcome r', r.load m = .ok (outcome, r') ∧ r'.From h modules ∧ r'.get? c.name = some c ∧
      ∀ name held, r.get? name = some held → r'.get? name = some held := by
  obtain ⟨-, cls, rest, accessors, classes, -, -, -, -, whole⟩ := LoadedClass.loadWith_ok.mp loaded
  have name : c.name = cls.name := congrArg LoadedClass.name whole
  unfold load
  by_cases current : r.isCurrent m m.fingerprint
  · -- What is held under the name came from the same module.
    refine ⟨.unchanged, r, by rw [if_pos current]; rfl, of, ?_, fun _ _ held => held⟩
    simp only [isCurrent, classes] at current
    obtain ⟨c', held, -⟩ := (Option.any_eq_true _ _).mp current
    rw [← name] at held
    rw [held, of.eq_of_load apart member loaded held]
  · let r' : UnitRegistry := { r with units := Dict.insert c.name c r.units }
    have here : r'.get? c.name = some c := Dict.get?_insert_self r.units c.name c
    have elsewhere : ∀ name, name ≠ c.name → r'.get? name = r.get? name :=
      fun name other => Dict.get?_insert_of_ne r.units c other
    have loads : LoadedClass.loadWith m r.handlers m.fingerprint = .ok c := of.handlers ▸ loaded
    refine ⟨_, r', by rw [if_neg current, loads]; rfl, ⟨of.handlers, ?_⟩, here, ?_⟩
    · intro name' held found
      by_cases same : name' = c.name
      · rw [same, here, Option.some.injEq] at found
        subst found
        exact ⟨m, member, loaded, same.symm⟩
      · rw [elsewhere name' same] at found
        exact of.origin name' held found
    · intro name' held found
      by_cases same : name' = c.name
      · subst same
        rw [here, of.eq_of_load apart member loaded found]
      · rw [elsewhere name' same, found]

theorem loadAll_from (apart : Apart h modules) {loads : List Module}
    (members : ∀ m ∈ loads, m ∈ modules)
    (each : ∀ m ∈ loads, Module.decode m.encode = .ok m ∧ ∃ c, LoadedClass.load m h = .ok c)
    (of : r.From h modules) :
    ∃ r', r.loadAll (loads.map Module.encode) = .ok r' ∧
      (∀ name held, r.get? name = some held → r'.get? name = some held) ∧
        ∀ m ∈ loads, ∀ c, LoadedClass.load m h = .ok c → r'.get? c.name = some c := by
  induction loads generalizing r with
  | nil => exact ⟨r, rfl, fun _ _ held => held, by simp⟩
  | cons m loads ih =>
      obtain ⟨member, others⟩ := List.forall_mem_cons.mp members
      obtain ⟨⟨decoded, c, loaded⟩, rest⟩ := List.forall_mem_cons.mp each
      obtain ⟨outcome, r', ran, of', here, kept⟩ := load_ok of apart member loaded
      obtain ⟨last, all, keeps, later⟩ := ih others rest of'
      refine ⟨last, ?_, fun name held found => keeps name held (kept name held found), ?_⟩
      · have first : r.loadBytes m.encode = .ok (outcome, r') := by
          simp only [loadBytes, decoded, Except.mapError, bind, Except.bind, ran]
        simp only [List.map_cons, loadAll, first, bind, Except.bind, all]
      · refine List.forall_mem_cons.mpr ⟨fun c' loaded' => ?_, later⟩
        cases loaded.symm.trans loaded'
        exact keeps c.name c here

theorem loadAll_ok (apart : Apart h modules) {loads : List Module}
    (members : ∀ m ∈ loads, m ∈ modules)
    (each : ∀ m ∈ loads, Module.decode m.encode = .ok m ∧ ∃ c, LoadedClass.load m h = .ok c) :
    ∃ r, (empty h).loadAll (loads.map Module.encode) = .ok r ∧
      ∀ m ∈ loads, ∀ c, LoadedClass.load m h = .ok c → r.get? c.name = some c := by
  have start : (empty h).From h modules := ⟨rfl, fun name c held => by cases held⟩
  obtain ⟨r, all, -, held⟩ := loadAll_from apart members each start
  exact ⟨r, all, held⟩

end UnitRegistry

end RouteAdapter
