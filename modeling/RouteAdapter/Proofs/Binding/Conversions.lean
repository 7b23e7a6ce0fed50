import RouteAdapter.Proofs.Binding.Dispatch
import RouteAdapter.Proofs.Machine.Safety
import RouteAdapter.Proofs.Value.Supported

/-!
# Emitted conversions are carried out

The compiler writes a conversion only behind the accessor that it converts from, and only if its
table has it. What the accessor is bound to answers a value of that type, so the conversion is
never refused when the body runs, whatever the request holds.

* `Op.Fed`: bodies in which every conversion stands behind its accessor;
* `AdapterUnit.Adapts.fed`: emitted bodies are such;
* `Machine.runFrom_fed`: runs of such bodies;
* `EmittedClass.conversions_honoured`: the table, and all that dispatches rely on it;
* `EmittedClass.conversions_misnamed`: a conversion that changes on the way through a file.
-/

namespace RouteAdapter

/-! ## Answers of bound accessors -/

theorem getLast?_methodDescriptor (params : List Ty) {returns : Ty} (some_ : returns.chars ≠ []) :
    (methodDescriptor params returns).toList.getLast? = returns.chars.getLast? := by
  simp only [methodDescriptor, Ty.text, String.toList_append, String.toList_ofList]
  rw [List.getLast?_append, List.getLast?_eq_getLast_of_ne_nil some_]
  rfl

namespace Accessor

theorem returns_fetched (a : Accessor) :
    a.returns = .value ∨ a.returns = .map ∨ a.returns = .body := by
  cases a <;> simp [returns]

theorem conforms_invoke (a : Accessor) (ctx : Context) (name : String) :
    (a.invoke ctx name).conforms a.returns = true := by
  cases a with
  | single source => cases source <;> rfl
  | object facet => cases facet <;> rfl
  | body => rfl

/-- Descriptors of accessors differ in their last letters. -/
theorem returns_eq_of_resolve {a : AccessorSpec} {accessor : Accessor}
    (resolved : resolve a.name a.descriptor = .ok accessor)
    (fetched : a.returns = .value ∨ a.returns = .map ∨ a.returns = .body) :
    accessor.returns = a.returns := by
  have same : accessor.descriptor = a.descriptor := by
    unfold resolve at resolved
    split at resolved
    · cases resolved
    · split at resolved
      · rename_i descriptor
        cases resolved
        exact descriptor
      · cases resolved
  have some_ (ty : Ty) (fetched : ty = .value ∨ ty = .map ∨ ty = .body) : ty.chars ≠ [] := by
    rcases fetched with rfl | rfl | rfl <;> decide +kernel
  have last := congrArg (fun s => s.toList.getLast?) same
  simp only [descriptor, AccessorSpec.descriptor,
    getLast?_methodDescriptor _ (some_ _ fetched),
    getLast?_methodDescriptor _ (some_ _ accessor.returns_fetched)] at last
  rcases fetched with known | known | known <;>
    rcases accessor.returns_fetched with own | own | own <;>
    rw [known, own] at last ⊢ <;> revert last <;> decide +kernel

end Accessor

theorem Ty.fetched_of_convertsTo {source target : Ty} (supported : source.convertsTo target = true)
    (differs : source ≠ target) : source = .value ∨ source = .map ∨ source = .body := by
  rcases convertsTo_cases supported with same | ⟨known, -⟩ | ⟨known, -⟩ | ⟨known, -⟩
  · exact absurd same differs
  · exact .inl known
  · exact .inr (.inl known)
  · exact .inr (.inr known)

/-! ## Emitted bodies -/

/-- Every conversion is supported and stands right behind the accessor it converts from. -/
inductive Op.Fed : List Op → Prop
  | nil : Fed []
  | converted {a : AccessorSpec} {target : Ty} {ops : List Op} (differs : a.returns ≠ target)
      (supported : a.returns.convertsTo target = true) (rest : Fed ops) :
      Fed (.accessor a.ref :: .convert a.returns target :: ops)
  | other {op : Op} {ops : List Op} (plain : ∀ source target, op ≠ .convert source target)
      (rest : Fed ops) : Fed (op :: ops)

namespace Op.Fed

theorem append {front back : List Op} (first : Fed front) (second : Fed back) :
    Fed (front ++ back) := by
  induction first with
  | nil => exact second
  | converted differs supported _ ih => exact .converted differs supported ih
  | other plain _ ih => exact .other plain ih

theorem fetched {a : AccessorSpec} {target : Ty} (supported : a.returns.convertsTo target = true) :
    Fed (.accessor a.ref :: Chain.conversion a.returns target) := by
  unfold Chain.conversion
  split
  · exact .other (by simp) .nil
  · rename_i differs
    exact .converted differs supported .nil

end Op.Fed

theorem Parameter.Emits.fed {s : Schema} {p : Parameter} {ops : List Op} (emits : p.Emits s ops) :
    Op.Fed ops := by
  cases emits with
  | context => exact .other (by simp) .nil
  | named _ _ _ _ supported => exact .other (by simp) (.other (by simp) (.fetched supported))
  | object _ _ _ _ supported => exact .other (by simp) (.fetched supported)

theorem Parameter.Emits.fed_all {s : Schema} {params : List Parameter} {arguments : List (List Op)}
    (emits : List.Forall₂ (Parameter.Emits s) params arguments) : Op.Fed arguments.flatten := by
  induction emits with
  | nil => exact .nil
  | cons first _ ih => exact first.fed.append ih

theorem AdapterUnit.Adapts.fed {s : Schema} {controller : String} {m : DeclaredMethod}
    {u : AdapterUnit} {arguments : List (List Op)} (adapts : u.Adapts s controller m arguments) :
    Op.Fed u.ops := by
  rw [adapts.ops]
  refine (Parameter.Emits.fed_all adapts.emits).append (.other (by simp) ?_)
  have last : Op.Fed [.ret] := .other (by simp) .nil
  cases ReturnPolicy.ofTy m.returns with
  | noContent => exact .other (by simp) last
  | boxed ty => exact .other (by simp) last
  | direct => exact last

/-! ## Runs -/

namespace Machine

variable {ctx : Context} {methods : List Linked} {refs : List MethodRef} {code : List Resolved}
  {ops : List Op}

theorem accessorArgs_ne_convert {a : Accessor} {stack : Stack} (fault : ConvertError) :
    accessorArgs a stack ≠ .error (.convert fault) := by
  intro failed
  unfold accessorArgs at failed
  split at failed
  · split at failed
    · simp only [pure_bind] at failed
      split at failed <;> cases failed
    · cases failed
    · cases failed
  · simp only [pure_bind] at failed
    split at failed <;> cases failed

theorem step_error {r : Resolved} {stack : Stack} {e : VmError}
    (plain : ∀ ty, r ≠ .convert ty) (failed : (step ctx methods stack r).2 = .failed e)
    (fault : ConvertError) : e ≠ .convert fault := by
  rintro rfl
  cases r with
  | loadCtx | constStr => cases failed
  | invokeAccessor a =>
      rw [step] at failed
      cases args : accessorArgs a stack with
      | ok found =>
          rw [args] at failed
          cases failed
      | error e =>
          rw [args] at failed
          cases failed
          exact accessorArgs_ne_convert fault args
  | convert ty => exact plain ty rfl
  | invokeController method argc =>
      rw [step, callController] at failed
      split at failed
      · cases failed
      · dsimp only at failed
        split at failed
        · cases failed
        · dsimp only at failed
          split at failed <;> cases failed
  | noContent | ret =>
      cases stack <;> cases failed
  | box ty =>
      cases stack with
      | nil => cases failed
      | cons v rest =>
          simp only [step] at failed
          split at failed <;> cases failed

theorem next_of_accessor {a : Accessor} {stack after : Stack}
    (next : (step ctx methods stack (.invokeAccessor a)).2 = .next after) :
    ∃ name rest, after = a.invoke ctx name :: rest := by
  rw [step] at next
  cases args : accessorArgs a stack with
  | ok found =>
      rw [args] at next
      cases next
      exact ⟨found.1, found.2, rfl⟩
  | error e =>
      rw [args] at next
      cases next

theorem runFrom_fed (fed : Op.Fed ops) (loads : List.Forall₂ (Op.LoadsAs refs) ops code)
    (stack : Stack) (kind : String) (ty : Ty) :
    (runFrom ctx methods stack code).2 ≠ .error (.convert (.unsupported kind ty)) := by
  induction fed generalizing code stack with
  | nil =>
      cases loads
      nofun
  | other plain _ ih =>
      cases loads with
      | @cons _ r _ code first others =>
          rw [runFrom_cons]
          cases did : (step ctx methods stack r).2 with
          | next after => exact ih others after
          | returned v => nofun
          | failed e =>
              have alone (ty : Ty) : r ≠ .convert ty := by
                rintro rfl
                cases first
                exact plain _ _ rfl
              exact fun same => step_error alone did _ (Except.error.inj same)
  | @converted a target ops differs supported _ ih =>
      cases loads with
      | cons first more =>
      cases more with
      | cons second others =>
          cases first with
          | @accessor _ accessor resolved =>
              cases second
              rw [runFrom_cons]
              cases did : (step ctx methods stack (.invokeAccessor accessor)).2 with
              | returned v => nofun
              | failed e => exact fun same => step_error (by simp) did _ (Except.error.inj same)
              | next after =>
                  obtain ⟨name, rest, rfl⟩ := next_of_accessor did
                  have answers := accessor.conforms_invoke ctx name
                  have fetched := Ty.fetched_of_convertsTo supported differs
                  rw [Accessor.returns_eq_of_resolve resolved fetched] at answers
                  dsimp only
                  rw [runFrom_cons, step]
                  cases converted : (accessor.invoke ctx name).convert target with
                  | ok w => exact ih others (w :: rest)
                  | error e =>
                      have blames := Value.blames_of_convertWith supported answers converted
                      intro refused
                      cases refused
                      exact blames

end Machine

/-! ## Classes -/

namespace EmittedClass

variable {c : EmittedClass} {options : LowerOptions} {t : Tables} {functions : List Function}
  {m : Module} {h : HandlerRegistry} {loaded : LoadedClass}

/-- Every unit was emitted for some method. -/
def Emitted (c : EmittedClass) : Prop :=
  ∀ u ∈ c.units, ∃ s controller m, Emitter.emit s controller m = .ok u

theorem emitted_adapter (s : Schema) (suffix : String) (controller : Controller) :
    (controller.adapter s suffix).Emitted := by
  intro u unit
  obtain ⟨m, -, accepted⟩ := List.mem_filterMap.mp unit
  exact ⟨s, controller.name, m, toOption_eq_some.mp accepted⟩

theorem unit_of_body (units : List.Forall₂ (AdapterUnit.Lowered t) c.units functions)
    (load : LoadedClass.load (c.assemble options t functions) h = .ok loaded) {f : LoadedFunction}
    (member : f ∈ loaded.functions) :
    ∃ u ∈ c.units, List.Forall₂ (Op.LoadsAs t.methods) u.ops f.code := by
  obtain ⟨-, -, -, accessors, -, bodies⟩ := load_assemble load
  obtain ⟨i, entry⟩ := List.mem_iff_getElem?.mp member
  obtain ⟨r, route, -⟩ := getElem?_of_forall₂ bodies.flip entry
  have methods : c.classDef.methods[i]? = some r := route
  simp only [classDef, List.getElem?_mapIdx, Option.map_eq_some_iff] at methods
  obtain ⟨u, unit, -⟩ := methods
  obtain ⟨body, same, code⟩ := body_of_load units load unit
  cases entry.symm.trans same
  exact ⟨u, List.mem_of_getElem? unit, code⟩

theorem dispatch_supported (emitted : c.Emitted) (lowered : c.lower options = .ok m)
    (addressable : m.tables.Addressable) (load : LoadedClass.load m h = .ok loaded)
    {route className name kind : String} {ctx : Context} {ty : Ty} :
    (loaded.dispatch route ctx).2 ≠
      .error (.vm className name (.convert (.unsupported kind ty))) := by
  intro failed
  obtain ⟨t, functions, rfl, -, stand, -⟩ := lower_ok lowered
  rcases LoadedClass.dispatch_error failed with other | ⟨f, member, fault, run, same⟩
  · cases other
  · cases same
    obtain ⟨u, unit, code⟩ := unit_of_body (stand addressable) load member
    obtain ⟨s, controller, method, accepted⟩ := emitted u unit
    obtain ⟨arguments, adapts⟩ := Emitter.emit_ok accepted
    exact Machine.runFrom_fed adapts.fed code [] kind ty run

/-- What the table of conversions has is only refused for faults of the request, and what was
emitted is never refused for an unsupported conversion, loaded as it is or from its file. The file
has to keep the types: a name that is written like a keyword comes back as the keyword. -/
theorem conversions_honoured (h : HandlerRegistry) :
    (∀ (source target : Ty) (v : Value) (e : ConvertError), source.convertsTo target = true →
      v.conforms source = true → v.convert target = .error e → e.Blames v) ∧
    ∀ (c : EmittedClass) (options : LowerOptions) (m : Module), c.Emitted →
      c.lower options = .ok m → m.tables.Addressable →
      (∀ loaded, LoadedClass.load m h = .ok loaded → ∀ route ctx className name kind ty,
        (loaded.dispatch route ctx).2 ≠
          .error (.vm className name (.convert (.unsupported kind ty)))) ∧
      (m.Sized → (∀ source target, .convert source target ∈ c.ops → target.WellFormed) →
        LoadedClass.ofBytes m.encode h = LoadedClass.load m h) := by
  refine ⟨fun source target v e => Value.blames_of_convertWith, ?_⟩
  intro c options m emitted lowered addressable
  refine ⟨fun loaded load route ctx className name kind ty => ?_, fun sized types => ?_⟩
  · exact dispatch_supported emitted lowered addressable load
  · rw [LoadedClass.ofBytes, decode_encode_lower lowered sized types]
    rfl

set_option maxRecDepth 4000 in
theorem conversions_honoured_greeter :
    let echo : Handler := fun _ args => .ok (args.headD .null)
    let h : HandlerRegistry :=
      ⟨[("Greeter.greet", ⟨"(str,Option<i32>)->str", echo⟩), ("Greeter.ping", ⟨"()->void", echo⟩)]⟩
    let ctx := (Request.empty.insertAll [(.path, "name", "Ada"), (.query, "n", "three")]).toContext
    let body : Value := .body ⟨none, "[1]".toUTF8.toList⟩
    (∃ e, body.convert (.option (.named "app.User")) = .error e ∧ e.Blames body) ∧
    ∃ m loaded, (Controller.greeter.adapter Config.standard.schema "$Adapter").lower
        Config.standard.lowerOptions = .ok m ∧
      LoadedClass.ofBytes m.encode h = .ok loaded ∧
      (loaded.dispatch "greet" ctx).2.toOption.isNone ∧
      ∀ className name kind ty, (loaded.dispatch "greet" ctx).2 ≠
        .error (.vm className name (.convert (.unsupported kind ty))) := by
  intro echo h ctx body
  have compiled : Controller.greeter.Compiled Config.standard.schema "$Adapter"
      (Controller.greeter.adapter Config.standard.schema "$Adapter") :=
    Controller.compiled_adapter (by decide +kernel) (by decide +kernel)
  have types (source target : Ty) (member : .convert source target ∈
      (Controller.greeter.adapter Config.standard.schema "$Adapter").ops) : target.WellFormed :=
    compiled.types Controller.greeter_described member
  obtain ⟨m, lowered, sized, loads⟩ : ∃ m,
      (Controller.greeter.adapter Config.standard.schema "$Adapter").lower
        Config.standard.lowerOptions = .ok m ∧ m.Sized ∧
        (LoadedClass.load m h).toOption.any fun loaded =>
          (loaded.dispatch "greet" ctx).2.toOption.isNone :=
    exists_ok_of_toOption (by decide +kernel) (by decide +kernel)
  obtain ⟨loaded, load, failed⟩ := (Option.any_eq_true _ _).mp loads
  obtain ⟨direct, file⟩ := (conversions_honoured h).2 _ _ m (emitted_adapter _ _ _) lowered
    sized.addressable
  refine ⟨?_, m, loaded, lowered, ?_, failed, ?_⟩
  · cases refused : body.convert (.option (.named "app.User")) with
    | ok w =>
        have fails : (body.convert (.option (.named "app.User"))).toOption.isNone := by
          decide +kernel
        rw [refused] at fails
        cases fails
    | error e =>
        exact ⟨e, rfl, (conversions_honoured h).1 .body _ body e (by decide) rfl refused⟩
  · rw [file sized types]
    exact toOption_eq_some.mp load
  · exact direct loaded (toOption_eq_some.mp load) "greet" ctx

set_option maxRecDepth 4000 in
/-- A type that is named like a keyword is read back as the keyword, and no body is a map. -/
theorem conversions_misnamed :
    let echo : Handler := fun _ args => .ok (args.headD .null)
    let h : HandlerRegistry := ⟨[("Store.put", ⟨"(map)->str", echo⟩)]⟩
    let c := (Controller.storing "map").adapter Config.standard.schema "$Adapter"
    ∃ m loaded, c.Emitted ∧ c.lower Config.standard.lowerOptions = .ok m ∧ m.Sized ∧
      LoadedClass.ofBytes m.encode h = .ok loaded ∧
      (loaded.dispatch "put" Request.empty.toContext).2.mapError DispatchError.message =
        .error "Store$Adapter.put: Cannot convert body to map" := by
  intro echo h c
  let outcome (loaded : LoadedClass) : Except DispatchError Value :=
    (loaded.dispatch "put" Request.empty.toContext).2
  obtain ⟨m, lowered, sized, loads⟩ : ∃ m, c.lower Config.standard.lowerOptions = .ok m ∧
      m.Sized ∧ (LoadedClass.ofBytes m.encode h).toOption.any fun loaded =>
        ((outcome loaded).map fun _ => ()).mapError DispatchError.message =
          .error "Store$Adapter.put: Cannot convert body to map" :=
    exists_ok_of_toOption (by decide +kernel) (by decide +kernel)
  obtain ⟨loaded, load, refused⟩ := (Option.any_eq_true _ _).mp loads
  refine ⟨m, loaded, emitted_adapter _ _ _, lowered, sized, toOption_eq_some.mp load, ?_⟩
  show (outcome loaded).mapError _ = _
  have message := of_decide_eq_true refused
  cases answered : outcome loaded with
  | ok v =>
      rw [answered] at message
      cases message
  | error e =>
      rw [answered] at message
      exact congrArg Except.error (Except.error.inj message)

end EmittedClass
end RouteAdapter
