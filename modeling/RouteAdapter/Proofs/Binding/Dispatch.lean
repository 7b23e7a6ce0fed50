import Mathlib.Data.List.Nodup
import RouteAdapter.Proofs.Binding.Arguments
import RouteAdapter.Proofs.Descriptor.Types
import RouteAdapter.Proofs.Emission.Verification
import RouteAdapter.Proofs.Machine.Registry

/-!
# Built classes dispatch like the binder

The modules of a build are encoded, loaded into a registry and dispatched. What a route does is then
what the reference binder does for its method.

* `Controller.ServedBy`: what dispatching a controller has to do;
* `Controller.Compiled.load_ok`: the module of a compiled controller is loaded as such a class;
* `Compiler.dispatch_built`: all modules of a build in one registry;
* `Compiler.dispatch_misnamed`: a type that is not read back as it was written.
-/

namespace RouteAdapter

def Controller.symbol (c : Controller) (m : DeclaredMethod) : String :=
  c.name ++ "." ++ m.name

/-- Every method has its handler, under its symbol and with its descriptor. -/
def Controller.Handled (c : Controller) (h : HandlerRegistry) (handler : DeclaredMethod → Handler) :
    Prop :=
  ∀ m ∈ c.methods, h.get? (c.symbol m) = some ⟨m.descriptor, handler m⟩

/-- Routes are dispatched as the binder says for the methods of the controller, with the parameters
that they are declared with. -/
structure Controller.ServedBy (c : Controller) (handler : DeclaredMethod → Handler)
    (className : String)
    (dispatch : String → Context → List Call × Except DispatchError Value) : Prop where
  route : ∀ m ∈ c.methods, ∃ params, m.Binds params ∧
    ∀ ctx, dispatch m.name ctx =
      Prod.map id (Except.mapError (.vm className m.name))
        (Binder.run ctx (c.symbol m) (handler m) params m.returns)
  unknown : ∀ route, (∀ m ∈ c.methods, m.name ≠ route) →
    ∀ ctx, dispatch route ctx = ([], .error (.unknownRoute className route))

/-! ## Loaded classes -/

namespace EmittedClass

variable {e : EmittedClass} {options : LowerOptions} {t : Tables} {functions : List Function}
  {m : Module} {h : HandlerRegistry} {loaded : LoadedClass}

theorem load_assemble (load : LoadedClass.load (e.assemble options t functions) h = .ok loaded) :
    loaded.name = e.name ∧ loaded.routes = LoadedClass.routeIndex e.classDef.methods ∧
      Linked.ofTable h t.methods = .ok loaded.methods ∧
      ∃ accessors, Accessor.ofTable t.accessors = .ok accessors ∧
        List.Forall₂ (fun r body => ∃ f, functions[r.functionId]? = some f ∧
          LoadedFunction.load f (e.assemble options t functions) accessors = .ok body)
          e.classDef.methods loaded.functions := by
  obtain ⟨-, cls, rest, accessors, classes, -, bound, linked, bodies, whole⟩ :=
    LoadedClass.loadWith_ok.mp load
  cases classes
  refine ⟨congrArg LoadedClass.name whole, congrArg LoadedClass.routes whole, linked, accessors,
    bound, ?_⟩
  exact LoadedClass.loadRoutes_ok.mp bodies

theorem load_name (lowered : e.lower options = .ok m) (load : LoadedClass.load m h = .ok loaded) :
    loaded.name = e.name := by
  obtain ⟨t, functions, rfl, -⟩ := lower_ok lowered
  exact (load_assemble load).1

theorem body_of_load (units : List.Forall₂ (AdapterUnit.Lowered t) e.units functions)
    (load : LoadedClass.load (e.assemble options t functions) h = .ok loaded) {i : Nat}
    {u : AdapterUnit} (unit : e.units[i]? = some u) :
    ∃ body, loaded.functions[i]? = some body ∧
      List.Forall₂ (Op.LoadsAs t.methods) u.ops body.code := by
  obtain ⟨-, -, -, accessors, bound, bodies⟩ := load_assemble load
  obtain ⟨body, found, f, entry, read⟩ := getElem?_of_forall₂ bodies (getElem?_routes unit)
  -- The route leads to the function at the position of its unit.
  obtain ⟨f', entry', lowered⟩ := getElem?_of_forall₂ units unit
  cases entry.symm.trans entry'
  obtain ⟨body', read', -, code⟩ :=
    AdapterUnit.Lowered.load (m := e.assemble options t functions) lowered bound
  cases read.symm.trans read'
  exact ⟨body, found, code⟩

theorem apart {classes : List EmittedClass} {modules : List Module}
    (distinct : (classes.map EmittedClass.name).Nodup)
    (lowered : List.Forall₂ (fun e m => e.lower options = .ok m) classes modules)
    (h : HandlerRegistry) : UnitRegistry.Apart h modules := by
  intro m member m' member' loaded loaded' load load' same
  obtain ⟨e, known, lower⟩ := exists_of_mem_forall₂_right lowered member
  obtain ⟨e', known', lower'⟩ := exists_of_mem_forall₂_right lowered member'
  rw [load_name lower load, load_name lower' load'] at same
  -- Lowering is a function, so classes of one name have one module.
  obtain rfl := List.inj_on_of_nodup_map distinct known known' same
  exact Except.ok.inj (lower.symm.trans lower')

end EmittedClass

/-! ## Controllers -/

namespace Controller.Compiled

variable {s : Schema} {suffix : String} {c : Controller} {e : EmittedClass} {h : HandlerRegistry}
  {handler : DeclaredMethod → Handler}

theorem adapts_op (compiled : c.Compiled s suffix e) {op : Op} (member : op ∈ e.ops) :
    ∃ m ∈ c.methods, ∃ u : AdapterUnit, op ∈ u.ops ∧
      ∃ arguments, u.Adapts s c.name m arguments := by
  obtain ⟨u, unit, inside⟩ := List.mem_flatMap.mp member
  obtain ⟨m, known, adapts⟩ := compiled.adapts unit
  exact ⟨m, known, u, inside, adapts⟩

theorem types (compiled : c.Compiled s suffix e) (described : c.Described) {source target : Ty}
    (member : .convert source target ∈ e.ops) : target.WellFormed := by
  obtain ⟨m, known, u, inside, arguments, adapts⟩ := compiled.adapts_op member
  obtain ⟨d, declared, rfl⟩ := adapts.convert_to_declared inside
  obtain ⟨text, read⟩ := described m known d declared
  exact Ty.ofText_text read

theorem accessors (compiled : c.Compiled s suffix e) (of : s.Standard) {a : AccessorRef}
    (member : .accessor a ∈ e.ops) :
    ∃ accessor, Accessor.resolve a.name a.descriptor = .ok accessor := by
  obtain ⟨m, known, u, inside, arguments, adapts⟩ := compiled.adapts_op member
  obtain ⟨source, kind, spec, found, rfl⟩ := adapts.accessor_of_schema inside
  obtain ⟨accessor, serves⟩ := of.serves found
  exact ⟨accessor, serves.resolved⟩

theorem handled (compiled : c.Compiled s suffix e) (handled : c.Handled h handler) {r : MethodRef}
    (member : .controller r ∈ e.ops) : ∃ linked, Linked.ofRef h r = .ok linked := by
  obtain ⟨m, known, u, inside, arguments, adapts⟩ := compiled.adapts_op member
  obtain rfl := adapts.eq_target inside
  have registered : h.get? u.target.symbol = some ⟨u.target.descriptor, handler m⟩ := by
    rw [adapts.target]
    exact handled m known
  exact ⟨⟨u.target.symbol, handler m⟩, Linked.ofRef_ok.mpr ⟨registered, rfl⟩⟩

theorem exists_link (compiled : c.Compiled s suffix e) {t : Tables}
    (records : Tables.empty.Records e.ops t) (registered : c.Handled h handler) :
    ∃ methods, Linked.ofTable h t.methods = .ok methods := by
  have each : ∀ r ∈ t.methods, ∃ linked, Linked.ofRef h r = .ok linked := fun r member =>
    compiled.handled registered ((EmittedClass.mem_methods_records records).mp member)
  obtain ⟨methods, linked⟩ := exists_forall₂ each
  exact ⟨methods, Linked.ofTable_ok.mpr linked⟩

theorem routeNames (compiled : c.Compiled s suffix e) :
    e.classDef.methods.map Route.name = c.methods.map DeclaredMethod.name := by
  have units : e.classDef.methods.map Route.name = e.units.map AdapterUnit.route := by
    apply List.ext_getElem?
    intro i
    simp [EmittedClass.classDef, Function.comp_def]
  have same : List.Forall₂ (fun m u => m.name = u.route) c.methods e.units := by
    refine compiled.units.imp fun m u emitted => ?_
    obtain ⟨arguments, adapts⟩ := Emitter.emit_ok emitted
    exact adapts.route.symm
  have names : c.methods.map DeclaredMethod.name = e.units.map AdapterUnit.route := by
    rw [← List.forall₂_eq_eq_eq, List.forall₂_map_left_iff, List.forall₂_map_right_iff]
    exact same
  rw [units, names]

section

variable {options : LowerOptions} {t : Tables} {functions : List Function}

theorem loads (compiled : c.Compiled s suffix e) (of : s.Standard)
    (registered : c.Handled h handler) (records : Tables.empty.Records e.ops t)
    (units : List.Forall₂ (AdapterUnit.Lowered t) e.units functions) :
    ∃ loaded, LoadedClass.load (e.assemble options t functions) h = .ok loaded := by
  obtain ⟨accessors, bound⟩ := EmittedClass.bind_accessors records fun _ => compiled.accessors of
  obtain ⟨methods, linked⟩ := compiled.exists_link records registered
  have routes : ∀ r ∈ e.classDef.methods, ∃ loaded f, functions[r.functionId]? = some f ∧
      LoadedFunction.load f (e.assemble options t functions) accessors = .ok loaded := by
    intro r member
    obtain ⟨i, inside, rfl⟩ := List.mem_mapIdx.mp member
    obtain ⟨f, entry, unit⟩ := getElem?_of_forall₂ units (List.getElem?_eq_getElem inside)
    obtain ⟨loaded, load, -⟩ :=
      AdapterUnit.Lowered.load (m := e.assemble options t functions) unit bound
    exact ⟨loaded, f, entry, load⟩
  obtain ⟨bodies, loads⟩ := exists_forall₂ routes
  refine ⟨⟨e.name, e.controller, LoadedClass.routeIndex e.classDef.methods, bodies, methods, _⟩,
    LoadedClass.loadWith_ok.mpr ⟨compiled.verify of.regular units, e.classDef, [], accessors, rfl,
      compiled.interface, bound, linked, ?_, rfl⟩⟩
  exact LoadedClass.loadRoutes_ok.mpr loads

theorem served (compiled : c.Compiled s suffix e) (of : s.Standard)
    (registered : c.Handled h handler)
    (units : List.Forall₂ (AdapterUnit.Lowered t) e.units functions) {loaded : LoadedClass}
    (load : LoadedClass.load (e.assemble options t functions) h = .ok loaded) :
    c.ServedBy handler e.name loaded.dispatch := by
  obtain ⟨name, index, linked, -⟩ := EmittedClass.load_assemble load
  have distinct : (e.classDef.methods.map Route.name).Nodup := by
    rw [compiled.routeNames]
    exact compiled.routes
  refine ⟨fun m member => ?_, fun route unknown ctx => ?_⟩
  · obtain ⟨i, position⟩ := List.mem_iff_getElem?.mp member
    obtain ⟨u, unit, emitted⟩ := getElem?_of_forall₂ compiled.units position
    obtain ⟨arguments, adapts⟩ := Emitter.emit_ok emitted
    obtain ⟨body, found, code⟩ := EmittedClass.body_of_load units load unit
    have route : e.classDef.methods[i]? = some ⟨m.name, i⟩ := by
      rw [EmittedClass.getElem?_routes unit, adapts.route]
    have symbol : u.target.symbol = c.symbol m := by rw [adapts.target]; rfl
    have handled : h.get? u.target.symbol = some ⟨u.target.descriptor, handler m⟩ := by
      rw [adapts.target]
      exact registered m member
    refine ⟨u.params, Parameter.resolveAll_iff_binds.mp adapts.params, fun ctx => ?_⟩
    rw [LoadedClass.dispatch_route index distinct route found, LoadedFunction.execute,
      Machine.runFrom_unit of adapts code linked handled, symbol, name]
    rfl
  · rw [← name]
    refine LoadedClass.dispatch_unknown index distinct fun r member => ?_
    have known := List.mem_map_of_mem (f := Route.name) member
    rw [compiled.routeNames] at known
    obtain ⟨m, method, same⟩ := List.mem_map.mp known
    exact same ▸ unknown m method

end

theorem load_ok (compiled : c.Compiled s suffix e) (of : s.Standard) {options : LowerOptions}
    {m : Module} (lowered : e.lower options = .ok m) (sized : m.Sized) (described : c.Described)
    (registered : c.Handled h handler) :
    Module.decode m.encode = .ok m ∧
      ∃ loaded, LoadedClass.load m h = .ok loaded ∧ c.ServedBy handler e.name loaded.dispatch := by
  have decoded := EmittedClass.decode_encode_lower lowered sized fun _ _ => compiled.types described
  obtain ⟨t, functions, rfl, records, stand, -⟩ := EmittedClass.lower_ok lowered
  have units := stand sized.addressable
  obtain ⟨loaded, load⟩ := compiled.loads of registered records units
  exact ⟨decoded, loaded, load, compiled.served of registered units load⟩

end Controller.Compiled

/-- The modules of a build, encoded and loaded in any order and any number of times, dispatch every
route of every controller like the binder. The names of types are not checked by a build, so it is
asked for that their text is read back as the type, as it is wherever the types were read. -/
theorem Compiler.dispatch_built {config : Config} {compiler : Compiler}
    {controllers : List Controller} {modules loads : List Module} {h : HandlerRegistry}
    {handler : Controller → DeclaredMethod → Handler}
    (configured : Compiler.ofConfig config = .ok compiler)
    (built : compiler.build controllers = .ok modules) (sized : ∀ m ∈ modules, m.Sized)
    (described : ∀ c ∈ controllers, c.Described)
    (handled : ∀ c ∈ controllers, c.Handled h (handler c)) (all : ∀ m, m ∈ loads ↔ m ∈ modules) :
    ∃ registry, (UnitRegistry.empty h).loadAll (loads.map Module.encode) = .ok registry ∧
      ∀ c ∈ controllers, c.ServedBy (handler c) (c.className config.classSuffix)
        (registry.dispatch (c.className config.classSuffix)) := by
  obtain ⟨⟨⟩, -, whole⟩ := bind_eq_ok.mp configured
  cases whole
  obtain ⟨classes, compiled, distinct, lowered⟩ := build_ok built
  have standard : config.schema.Standard := config.standard_schema
  have load : ∀ {c e m}, c ∈ controllers → c.Compiled config.schema config.classSuffix e →
      m ∈ modules → e.lower config.lowerOptions = .ok m → Module.decode m.encode = .ok m ∧
        ∃ loaded, LoadedClass.load m h = .ok loaded ∧
          c.ServedBy (handler c) e.name loaded.dispatch :=
    fun known of member lower => of.load_ok standard lower (sized _ member) (described _ known)
      (handled _ known)
  have each : ∀ m ∈ loads, Module.decode m.encode = .ok m ∧
      ∃ loaded, LoadedClass.load m h = .ok loaded := by
    intro m member
    have known := (all m).mp member
    obtain ⟨e, emitted, lower⟩ := exists_of_mem_forall₂_right lowered known
    obtain ⟨c, declared, of⟩ := exists_of_mem_forall₂_right compiled emitted
    obtain ⟨decoded, loaded, loads, -⟩ := load declared of known lower
    exact ⟨decoded, loaded, loads⟩
  obtain ⟨registry, filled, held⟩ :=
    UnitRegistry.loadAll_ok (EmittedClass.apart distinct lowered h) (fun m => (all m).mp) each
  refine ⟨registry, filled, fun c declared => ?_⟩
  obtain ⟨e, emitted, of⟩ := exists_of_mem_forall₂ compiled declared
  obtain ⟨m, known, lower⟩ := exists_of_mem_forall₂ lowered emitted
  obtain ⟨-, loaded, loads, served⟩ := load declared of known lower
  have found : registry.get? (c.className config.classSuffix) = some loaded := by
    rw [← of.name, ← EmittedClass.load_name lower loads]
    exact held m ((all m).mpr known) loaded loads
  have dispatch : registry.dispatch (c.className config.classSuffix) = loaded.dispatch := by
    funext route ctx
    rw [UnitRegistry.dispatch, found]
  rw [dispatch, ← of.name]
  exact served

def Controller.greeter : Controller :=
  let name : DeclaredParam := ⟨"name", .str, [⟨"path", none⟩]⟩
  let times : DeclaredParam := ⟨"times", .option .i32, [⟨"query", some "n"⟩]⟩
  ⟨"Greeter", [⟨"greet", [name, times], .str⟩, ⟨"ping", [], .void⟩]⟩

theorem Controller.greeter_handled (echo : Handler) :
    greeter.Handled
      ⟨[("Greeter.greet", ⟨"(str,Option<i32>)->str", echo⟩), ("Greeter.ping", ⟨"()->void", echo⟩)]⟩
      fun _ => echo := by
  have names : ∀ m ∈ greeter.methods, (greeter.symbol m, m.descriptor) ∈
      [("Greeter.greet", "(str,Option<i32>)->str"), ("Greeter.ping", "()->void")] := by
    decide +kernel
  intro m member
  have known := names m member
  simp only [List.mem_cons, Prod.mk.injEq, List.not_mem_nil, or_false] at known
  rcases known with ⟨symbol, descriptor⟩ | ⟨symbol, descriptor⟩
  · rw [symbol, descriptor]
    rfl
  · rw [symbol, descriptor]
    rfl

theorem Controller.greeter_described : greeter.Described := by
  have wellFormed : ∀ m ∈ greeter.methods, ∀ d ∈ m.params, d.ty.WellFormed := by decide +kernel
  exact fun m known d param => ⟨_, wellFormed m known d param⟩

theorem Compiler.dispatch_built_greeter :
    let echo : Handler := fun _ args => .ok (args.headD .null)
    let h : HandlerRegistry :=
      ⟨[("Greeter.greet", ⟨"(str,Option<i32>)->str", echo⟩), ("Greeter.ping", ⟨"()->void", echo⟩)]⟩
    ∃ compiler modules registry, Compiler.ofConfig .standard = .ok compiler ∧
      compiler.build [.greeter] = .ok modules ∧
      (UnitRegistry.empty h).loadAll (modules.map Module.encode) = .ok registry ∧
      Controller.greeter.ServedBy (fun _ => echo) "Greeter$Adapter"
        (registry.dispatch "Greeter$Adapter") := by
  intro echo h
  obtain ⟨modules, built, sized⟩ : ∃ modules,
      (Compiler.mk .standard Config.standard.schema).build [.greeter] = .ok modules ∧
        ∀ m ∈ modules, m.Sized :=
    exists_ok_of_toOption (by decide +kernel) (by decide +kernel)
  have described : ∀ c ∈ [Controller.greeter], c.Described :=
    List.forall_mem_singleton.mpr Controller.greeter_described
  have handled : ∀ c ∈ [Controller.greeter], c.Handled h fun _ => echo := by
    intro c member
    obtain rfl := List.mem_singleton.mp member
    exact Controller.greeter_handled echo
  obtain ⟨registry, filled, served⟩ :=
    dispatch_built ofConfig_standard built sized described handled fun _ => Iff.rfl
  have name : Controller.greeter.className Config.standard.classSuffix = "Greeter$Adapter" := by
    decide +kernel
  refine ⟨_, modules, registry, ofConfig_standard, built, filled, ?_⟩
  rw [← name]
  exact served .greeter List.mem_cons_self

/-- The method takes its body as the named type. -/
def Controller.storing (typeName : String) : Controller :=
  ⟨"Store", [⟨"put", [⟨"item", .named typeName, [⟨"body", none⟩]⟩], .str⟩]⟩

theorem Controller.storing_handled (echo : Handler) :
    (storing "body").Handled ⟨[("Store.put", ⟨"(body)->str", echo⟩)]⟩ fun _ => echo := by
  intro m member
  obtain rfl := List.mem_singleton.mp member
  rfl

theorem Controller.storing_binds {typeName : String} {m : DeclaredMethod} {params : List Parameter}
    (member : m ∈ (storing typeName).methods) (binds : m.Binds params) :
    params = [⟨0, "item", "item", .object, .named typeName, .body⟩] := by
  obtain rfl := List.mem_singleton.mp member
  have resolved := Parameter.resolveAll_iff_binds.mpr binds
  cases resolved
  rfl

set_option maxRecDepth 4000 in
/-- A type that is named like a keyword is read back as the keyword: the handler is called with the
body itself, where the binder reports that it is malformed. -/
theorem Compiler.dispatch_misnamed :
    let echo : Handler := fun _ args => .ok (args.headD .null)
    let h : HandlerRegistry := ⟨[("Store.put", ⟨"(body)->str", echo⟩)]⟩
    ∃ compiler modules registry, ofConfig .standard = .ok compiler ∧
      compiler.build [.storing "body"] = .ok modules ∧ (∀ m ∈ modules, m.Sized) ∧
      (Controller.storing "body").Handled h (fun _ => echo) ∧
      (UnitRegistry.empty h).loadAll (modules.map Module.encode) = .ok registry ∧
      ¬(Controller.storing "body").ServedBy (fun _ => echo) "Store$Adapter"
        (registry.dispatch "Store$Adapter") := by
  intro echo h
  let ctx := { Request.empty with body := ⟨none, "?".toUTF8.toList⟩ }.toContext
  let filled (modules : List Module) : Except LoadError UnitRegistry :=
    (UnitRegistry.empty h).loadAll (modules.map Module.encode)
  obtain ⟨modules, built, sized, answered, called⟩ : ∃ modules,
      (Compiler.mk .standard Config.standard.schema).build [.storing "body"] = .ok modules ∧
        (∀ m ∈ modules, m.Sized) ∧ (filled modules).toOption.isSome ∧
          ∀ registry ∈ (filled modules).toOption,
            (registry.dispatch "Store$Adapter" "put" ctx).1.length = 1 :=
    exists_ok_of_toOption (by decide +kernel) (by decide +kernel)
  obtain ⟨registry, loaded, called⟩ := exists_ok_of_toOption answered called
  refine ⟨_, modules, registry, ofConfig_standard, built, sized,
    Controller.storing_handled echo, loaded, fun served => ?_⟩
  obtain ⟨params, binds, runs⟩ := served.route _ List.mem_cons_self
  obtain rfl := Controller.storing_binds List.mem_cons_self binds
  have refused : (Binder.run ctx "Store.put" echo
      [⟨0, "item", "item", .object, .named "body", .body⟩] .str).1.length = 0 := by
    decide +kernel
  have same := congrArg (fun answer => answer.1.length) (runs ctx)
  exact absurd (called.symm.trans (same.trans refused)) (by decide)

end RouteAdapter
