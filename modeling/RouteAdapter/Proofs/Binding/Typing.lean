import RouteAdapter.Proofs.Binding.Dispatch
import RouteAdapter.Proofs.Machine.Interchange
import RouteAdapter.Proofs.Value.Conversion

/-!
# Handlers are called with what they declare

A class of a build loads only if every method has its handler, so what is loaded dispatches like the
binder; and what the binder passes belongs to the declared types.

* `Binder.run_calls`: the calls of the binder;
* `Controller.Compiled.handled_of_load`: the handlers that loading a compiled class relies on;
* `UnitRegistry.From.serve`: registries that only load the modules of a build;
* `Compiler.calls_typed`: every call that such a registry ever makes;
* `Compiler.calls_misnamed`: a call with a value of another type.
-/

namespace RouteAdapter

/-- The handler registered for the method is called, with one value of the declared type for each
parameter. -/
structure Call.Typed (h : HandlerRegistry) (c : Controller) (m : DeclaredMethod) (call : Call) :
    Prop where
  symbol : call.symbol = c.symbol m
  registered : (h.get? call.symbol).map Registered.descriptor = some m.descriptor
  args : List.Forall₂ (fun d v => v.conforms d.ty = true ∧ (d.ty = .context → v = .context))
    m.params call.args

/-! ## The binder -/

namespace Binder

variable {ctx : Context}

theorem conforms_of_argument {index : Nat} {d : DeclaredParam} {source : Source}
    {explicit : Option String} {v : Value} (binds : d.Binds source explicit)
    (bound : argument ctx (d.bound index source explicit) = .ok v) : v.conforms d.ty = true := by
  unfold argument at bound
  split at bound
  · rename_i context
    cases bound
    exact (binds.context.mpr context) ▸ rfl
  · exact Value.conforms_of_convert bound

theorem conforms_of_arguments {m : DeclaredMethod} {params : List Parameter} {args : List Value}
    (binds : m.Binds params) (bound : arguments ctx params = .ok args) :
    List.Forall₂ (fun d v => v.conforms d.ty = true ∧ (d.ty = .context → v = .context))
      m.params args := by
  refine (forall₂_trans binds.each (mapM_eq_ok.mp bound)).imp ?_
  rintro d v ⟨p, ⟨index, source, explicit, declared, rfl⟩, value⟩
  have conforms := conforms_of_argument declared value
  exact ⟨conforms, fun context => Value.conforms_context.mp (context ▸ conforms)⟩

theorem run_calls {symbol : String} {handler : Handler} {params : List Parameter} {returns : Ty}
    {call : Call} (called : call ∈ (run ctx symbol handler params returns).1) :
    ∃ args, arguments ctx params = .ok args ∧ call = ⟨symbol, args⟩ := by
  unfold run at called
  split at called
  · rename_i args bound
    exact ⟨args, bound, List.mem_singleton.mp called⟩
  · cases called

end Binder

/-! ## One class -/

namespace Controller

variable {s : Schema} {suffix : String} {c : Controller} {e : EmittedClass} {h : HandlerRegistry}
  {options : LowerOptions}

theorem ServedBy.calls {handler : DeclaredMethod → Handler} {className : String}
    {dispatch : String → Context → List Call × Except DispatchError Value}
    (served : c.ServedBy handler className dispatch) (handled : c.Handled h handler)
    {route : String} {ctx : Context} {call : Call} (called : call ∈ (dispatch route ctx).1) :
    ∃ m ∈ c.methods, route = m.name ∧ call.Typed h c m := by
  by_cases known : ∃ m ∈ c.methods, m.name = route
  · obtain ⟨m, member, rfl⟩ := known
    obtain ⟨params, binds, runs⟩ := served.route m member
    rw [runs] at called
    obtain ⟨args, bound, rfl⟩ := Binder.run_calls called
    refine ⟨m, member, rfl, rfl, ?_, Binder.conforms_of_arguments binds bound⟩
    exact congrArg (Option.map Registered.descriptor) (handled m member)
  · rw [served.unknown route fun m member same => known ⟨m, member, same⟩] at called
    cases called

namespace Compiled

theorem mem_ops (compiled : c.Compiled s suffix e) {m : DeclaredMethod} (member : m ∈ c.methods) :
    ∃ r : MethodRef, .controller r ∈ e.ops ∧ r.symbol = c.symbol m ∧
      r.descriptor = m.descriptor := by
  obtain ⟨u, unit, emitted⟩ := exists_of_mem_forall₂ compiled.units member
  obtain ⟨arguments, adapts⟩ := Emitter.emit_ok emitted
  have inside : .controller u.target ∈ u.ops := by
    rw [adapts.ops]
    exact List.mem_append_right _ List.mem_cons_self
  exact ⟨u.target, List.mem_flatMap.mpr ⟨u, unit, inside⟩, by rw [adapts.target]; rfl,
    by rw [adapts.target]⟩

theorem registered_of_link {t : Tables} {methods : List Linked} (compiled : c.Compiled s suffix e)
    (records : Tables.empty.Records e.ops t) (linked : Linked.ofTable h t.methods = .ok methods)
    {m : DeclaredMethod} (member : m ∈ c.methods) :
    ∃ handler, h.get? (c.symbol m) = some ⟨m.descriptor, handler⟩ := by
  obtain ⟨r, used, symbol, descriptor⟩ := compiled.mem_ops member
  have entry : r ∈ t.methods := (EmittedClass.mem_methods_records records).mpr used
  obtain ⟨l, -, bound⟩ := exists_of_mem_forall₂ (Linked.ofTable_ok.mp linked) entry
  obtain ⟨registered, -⟩ := Linked.ofRef_ok.mp bound
  exact ⟨l.handler, by rw [← symbol, ← descriptor, registered]⟩

theorem handled_of_load {t : Tables} {functions : List Function} {loaded : LoadedClass}
    (compiled : c.Compiled s suffix e) (records : Tables.empty.Records e.ops t)
    (load : LoadedClass.load (e.assemble options t functions) h = .ok loaded) :
    ∃ handler, c.Handled h handler := by
  obtain ⟨-, -, linked, -⟩ := EmittedClass.load_assemble load
  have each (m : DeclaredMethod) : ∃ handler,
      m ∈ c.methods → h.get? (c.symbol m) = some ⟨m.descriptor, handler⟩ := by
    by_cases member : m ∈ c.methods
    · obtain ⟨handler, registered⟩ := compiled.registered_of_link records linked member
      exact ⟨handler, fun _ => registered⟩
    · exact ⟨fun _ _ => .ok .null, fun other => absurd other member⟩
  choose handler registered using each
  exact ⟨handler, registered⟩

theorem calls {m : Module} {loaded : LoadedClass} (compiled : c.Compiled s suffix e)
    (of : s.Standard) (lowered : e.lower options = .ok m) (sized : m.Sized)
    (load : LoadedClass.load m h = .ok loaded) {route : String} {ctx : Context} {call : Call}
    (called : call ∈ (loaded.dispatch route ctx).1) :
    ∃ m ∈ c.methods, route = m.name ∧ call.Typed h c m := by
  obtain ⟨t, functions, rfl, records, stand, -⟩ := EmittedClass.lower_ok lowered
  obtain ⟨handler, handled⟩ := compiled.handled_of_load records load
  exact (compiled.served of handled (stand sized.addressable) load).calls handled called

end Compiled
end Controller

/-! ## A registry -/

namespace UnitRegistry

variable {h : HandlerRegistry} {modules : List Module} {r r' : UnitRegistry}

theorem exists_of_mem_dispatch {className route : String} {ctx : Context} {call : Call}
    (called : call ∈ (r.dispatch className route ctx).1) :
    ∃ c, r.get? className = some c ∧ call ∈ (c.dispatch route ctx).1 := by
  unfold dispatch at called
  split at called
  · cases called
  · rename_i c found
    exact ⟨c, found, called⟩

theorem From.serve (of : r.From h modules)
    (decoded : ∀ m ∈ modules, Module.decode m.encode = .ok m) {request : Request}
    (written : ∀ bytes, request = .load bytes → ∃ m ∈ modules, bytes = m.encode) {answer : Answer}
    (served : r.serve install request = (answer, r')) : r'.From h modules := by
  cases request with
  | load bytes =>
      obtain ⟨m, involved, rfl⟩ := written bytes rfl
      simp only [UnitRegistry.serve, install, loadBytes_of_decode (decoded m involved)] at served
      cases ran : r.load m with
      | error e =>
          rw [ran] at served
          cases served
          exact of
      | ok result =>
          obtain ⟨outcome, r''⟩ := result
          rw [ran] at served
          cases served
          exact of.load involved ran
  | unload name =>
      cases served
      exact of.unload name
  | dispatch className route ctx =>
      cases served
      exact of

/-- The calls of a dispatch in a run are made by a registry that holds only these modules. -/
theorem From.calls_of_serveAll (of : r.From h modules)
    (decoded : ∀ m ∈ modules, Module.decode m.encode = .ok m) {requests : List Request}
    (written : ∀ bytes, .load bytes ∈ requests → ∃ m ∈ modules, bytes = m.encode)
    {answers : List Answer} {last : UnitRegistry}
    (served : r.serveAll install requests = (answers, last)) {className route : String}
    {ctx : Context} {calls : List Call} {result : Except DispatchError Value}
    (answered : (.dispatch className route ctx, .dispatch calls result) ∈ requests.zip answers) :
    ∃ r' : UnitRegistry, r'.From h modules ∧ calls = (r'.dispatch className route ctx).1 := by
  induction requests generalizing r answers with
  | nil => cases answered
  | cons request rest ih =>
      have here (bytes : Bytes) (same : request = .load bytes) : ∃ m ∈ modules, bytes = m.encode :=
        written bytes (same ▸ List.mem_cons_self)
      have later (bytes : Bytes) (member : .load bytes ∈ rest) : ∃ m ∈ modules, bytes = m.encode :=
        written bytes (List.mem_cons_of_mem _ member)
      cases first : r.serve install request with
      | mk answer r' =>
          cases others : r'.serveAll install rest with
          | mk answers' last' =>
              simp only [UnitRegistry.serveAll, first, others] at served
              cases served
              rw [List.zip_cons_cons, List.mem_cons] at answered
              rcases answered with now | soon
              · cases now
                cases first
                exact ⟨r, of, rfl⟩
              · exact ih (of.serve decoded here first) later others soon

end UnitRegistry

/-- Whatever files of a build a registry loads, in any order, with any classes unloaded in between
and against any handlers, a handler is only ever called for the method of the route that is
dispatched, as it declares, if the declared types are read back from their text. -/
theorem Compiler.calls_typed {config : Config} {compiler : Compiler}
    {controllers : List Controller} {modules : List Module}
    (configured : Compiler.ofConfig config = .ok compiler)
    (built : compiler.build controllers = .ok modules) (sized : ∀ m ∈ modules, m.Sized)
    (described : ∀ c ∈ controllers, c.Described) (h : HandlerRegistry)
    (requests : List UnitRegistry.Request)
    (written : ∀ bytes, .load bytes ∈ requests → ∃ m ∈ modules, bytes = m.encode)
    (className route : String) (ctx : Context) (calls : List Call)
    (result : Except DispatchError Value)
    (answered : (.dispatch className route ctx, .dispatch calls result) ∈
      requests.zip ((UnitRegistry.empty h).serveAll UnitRegistry.install requests).1) :
    ∀ call ∈ calls, ∃ c ∈ controllers, ∃ m ∈ c.methods,
      className = c.className config.classSuffix ∧ route = m.name ∧ call.Typed h c m := by
  obtain ⟨⟨⟩, -, whole⟩ := bind_eq_ok.mp configured
  cases whole
  obtain ⟨classes, compiled, -, lowered⟩ := build_ok built
  have standard : config.schema.Standard := config.standard_schema
  have source : ∀ m ∈ modules, ∃ e, e.lower config.lowerOptions = .ok m ∧
      ∃ c ∈ controllers, c.Compiled config.schema config.classSuffix e := by
    intro m member
    obtain ⟨e, emitted, lower⟩ := exists_of_mem_forall₂_right lowered member
    obtain ⟨c, declared, of⟩ := exists_of_mem_forall₂_right compiled emitted
    exact ⟨e, lower, c, declared, of⟩
  have decoded : ∀ m ∈ modules, Module.decode m.encode = .ok m := by
    intro m member
    obtain ⟨e, lower, c, declared, of⟩ := source m member
    exact EmittedClass.decode_encode_lower lower (sized m member) fun _ _ =>
      of.types (described c declared)
  have start : (UnitRegistry.empty h).From h modules := ⟨rfl, fun name c held => by cases held⟩
  obtain ⟨r, of_modules, rfl⟩ := start.calls_of_serveAll decoded written rfl answered
  intro call called
  obtain ⟨loaded, found, made⟩ := UnitRegistry.exists_of_mem_dispatch called
  obtain ⟨m, involved, load, rfl⟩ := of_modules.origin className loaded found
  obtain ⟨e, lower, c, declared, of⟩ := source m involved
  obtain ⟨d, method, same, typed⟩ := of.calls standard lower (sized m involved) load made
  refine ⟨c, declared, d, method, ?_, same, typed⟩
  rw [EmittedClass.load_name lower load, of.name]

set_option maxRecDepth 4000 in
theorem Compiler.calls_typed_greeter :
    let echo : Handler := fun _ args => .ok (args.headD .null)
    let h : HandlerRegistry :=
      ⟨[("Greeter.greet", ⟨"(str,Option<i32>)->str", echo⟩), ("Greeter.ping", ⟨"()->void", echo⟩)]⟩
    let ctx := (Request.empty.insertAll [(.path, "name", "Ada"), (.query, "n", " 3 ")]).toContext
    ∃ compiler m calls, ofConfig .standard = .ok compiler ∧
      compiler.build [.greeter] = .ok [m] ∧
      (let requests := [.load m.encode, .dispatch "Greeter$Adapter" "greet" ctx]
      ∃ result, (.dispatch "Greeter$Adapter" "greet" ctx, .dispatch calls result) ∈
        requests.zip ((UnitRegistry.empty h).serveAll UnitRegistry.install requests).1) ∧
      calls.map (fun call => call.args.map Value.kind) = [["str", "i32"]] ∧
      ∀ call ∈ calls, ∃ c ∈ [Controller.greeter], ∃ d ∈ c.methods, "greet" = d.name ∧
        call.Typed h c d := by
  intro echo h ctx
  let filled (modules : List Module) : UnitRegistry :=
    ((UnitRegistry.empty h).serveAll UnitRegistry.install
      (modules.map fun m => .load m.encode)).2
  obtain ⟨modules, built, one, sized, made⟩ : ∃ modules,
      (Compiler.mk .standard Config.standard.schema).build [.greeter] = .ok modules ∧
        modules.length = 1 ∧ (∀ m ∈ modules, m.Sized) ∧
          ((filled modules).dispatch "Greeter$Adapter" "greet" ctx).1.map
            (fun call => call.args.map Value.kind) = [["str", "i32"]] :=
    exists_ok_of_toOption (by decide +kernel) (by decide +kernel)
  obtain ⟨m, rfl⟩ := List.length_eq_one_iff.mp one
  let requests : List UnitRegistry.Request :=
    [.load m.encode, .dispatch "Greeter$Adapter" "greet" ctx]
  have written : ∀ bytes, .load bytes ∈ requests → ∃ m' ∈ [m], bytes = m'.encode := by
    intro bytes member
    rcases List.mem_cons.mp member with same | other
    · cases same
      exact ⟨m, List.mem_cons_self, rfl⟩
    · cases List.mem_singleton.mp other
  have answered : (.dispatch "Greeter$Adapter" "greet" ctx,
      .dispatch ((filled [m]).dispatch "Greeter$Adapter" "greet" ctx).1
        ((filled [m]).dispatch "Greeter$Adapter" "greet" ctx).2) ∈
      requests.zip ((UnitRegistry.empty h).serveAll UnitRegistry.install requests).1 :=
    List.mem_cons_of_mem _ List.mem_cons_self
  refine ⟨_, m, _, ofConfig_standard, built, ⟨_, answered⟩, made, fun call called => ?_⟩
  obtain ⟨c, declared, d, method, -, route, typed⟩ := calls_typed ofConfig_standard built sized
    (List.forall_mem_singleton.mpr Controller.greeter_described) h requests written _ _ _ _ _
    answered call called
  exact ⟨c, declared, d, method, route, typed⟩

set_option maxRecDepth 4000 in
/-- A handler that asks for a type named like a keyword is called with a value of the keyword. -/
theorem Compiler.calls_misnamed :
    let echo : Handler := fun _ args => .ok (args.headD .null)
    let h : HandlerRegistry := ⟨[("Store.put", ⟨"(body)->str", echo⟩)]⟩
    let ctx := { Request.empty with body := ⟨none, "[]".toUTF8.toList⟩ }.toContext
    ∃ compiler m calls result, ofConfig .standard = .ok compiler ∧
      compiler.build [.storing "body"] = .ok [m] ∧ m.Sized ∧
      (Controller.storing "body").Handled h (fun _ => echo) ∧
      (let requests := [.load m.encode, .dispatch "Store$Adapter" "put" ctx]
      (.dispatch "Store$Adapter" "put" ctx, .dispatch calls result) ∈
        requests.zip ((UnitRegistry.empty h).serveAll UnitRegistry.install requests).1) ∧
      ∃ call ∈ calls, ∀ c ∈ [Controller.storing "body"], ∀ d ∈ c.methods, ¬call.Typed h c d := by
  intro echo h ctx
  let filled (modules : List Module) : UnitRegistry :=
    ((UnitRegistry.empty h).serveAll UnitRegistry.install
      (modules.map fun m => .load m.encode)).2
  obtain ⟨modules, built, one, sized, made⟩ : ∃ modules,
      (Compiler.mk .standard Config.standard.schema).build [.storing "body"] = .ok modules ∧
        modules.length = 1 ∧ (∀ m ∈ modules, m.Sized) ∧
          ∃ call ∈ ((filled modules).dispatch "Store$Adapter" "put" ctx).1,
            call.args.map (fun v => v.conforms (.named "body")) = [false] :=
    exists_ok_of_toOption (by decide +kernel) (by decide +kernel)
  obtain ⟨m, rfl⟩ := List.length_eq_one_iff.mp one
  obtain ⟨call, member, args⟩ := made
  refine ⟨_, m, _, ((filled [m]).dispatch "Store$Adapter" "put" ctx).2, ofConfig_standard, built,
    sized m List.mem_cons_self, Controller.storing_handled echo,
    List.mem_cons_of_mem _ List.mem_cons_self, call, member, ?_⟩
  intro c declared d method typed
  obtain rfl := List.mem_singleton.mp declared
  obtain rfl := List.mem_singleton.mp method
  obtain ⟨v, rest, ⟨conforms, -⟩, -, whole⟩ := List.forall₂_cons_left_iff.mp typed.args
  rw [whole, List.map_cons, conforms] at args
  cases args

end RouteAdapter
