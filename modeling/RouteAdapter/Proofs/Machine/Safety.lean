import RouteAdapter.Proofs.Format.Code
import RouteAdapter.Proofs.Machine.Depth

/-!
# Structural safety

What the machine itself can do wrong in a class that was loaded. Calls are bound and bodies return,
whatever the module says. Operands may be missing, exactly if an entry of the accessor table
declares fewer arguments than the accessor bound to it takes: binding compares names and
descriptors, and the verifier counts with the declared arity.

* `LoadedClass.fault_of_load`: the only structural fault of a loaded class;
* `LoadedClass.safe_of_declare`: no fault, if arities are declared;
* `LoadedClass.load_underflowing`: a fault, if one is not;
* `LoadedClass.safe_iff`: the three together.
-/

namespace RouteAdapter
open Verify

namespace LoadedClass

variable {m : Module} {h : HandlerRegistry} {c : LoadedClass}

/-- Every failure is an unknown route or not one of the machine itself. -/
def Safe (c : LoadedClass) : Prop :=
  ∀ route ctx e, (c.dispatch route ctx).2 = .error e →
    e = .unknownRoute c.name route ∨
      ∃ fault, e = .vm c.name route fault ∧ fault.isStructural = false

theorem Safe.vm (safe : c.Safe) {route name r : String} {ctx : Context} {fault : VmError}
    (failed : (c.dispatch route ctx).2 = .error (.vm name r fault)) :
    fault.isStructural = false := by
  rcases safe route ctx _ failed with unknown | ⟨same, whole, sound⟩
  · cases unknown
  · rw [DispatchError.vm.injEq] at whole
    exact whole.2.2 ▸ sound

theorem dispatch_error {route : String} {ctx : Context} {e : DispatchError}
    (failed : (c.dispatch route ctx).2 = .error e) :
    e = .unknownRoute c.name route ∨
      ∃ f ∈ c.functions, ∃ fault, (f.execute ctx c.methods).2 = .error fault ∧
        e = .vm c.name route fault := by
  unfold dispatch at failed
  split at failed
  · cases failed
    exact .inl rfl
  · rename_i f found
    obtain ⟨index, -, entry⟩ := Option.bind_eq_some_iff.mp found
    cases run : (f.execute ctx c.methods).2 with
    | ok v => simp [run, Except.mapError] at failed
    | error fault =>
        simp only [run, Except.mapError, Except.error.injEq] at failed
        exact .inr ⟨f, List.mem_of_getElem? entry, fault, run, failed.symm⟩

theorem functions_of_load (loaded : load m h = .ok c) {f : LoadedFunction}
    (member : f ∈ c.functions) :
    ∃ accessors g, Accessor.ofTable m.accessors = .ok accessors ∧
      Linked.ofTable h m.methods = .ok c.methods ∧ g.verify m = .ok () ∧
        LoadedFunction.load g m accessors = .ok f := by
  obtain ⟨verified, cls, rest, accessors, -, -, bound, linked, routes, -⟩ := loadWith_ok.mp loaded
  obtain ⟨r, -, g, found, load⟩ := exists_of_mem_forall₂_right (loadRoutes_ok.mp routes) member
  exact ⟨accessors, g, bound, linked,
    (Module.verify_ok.mp verified).2 g (List.mem_of_getElem? found),
    load⟩

theorem fault_of_load (loaded : load m h = .ok c) {f : LoadedFunction} (member : f ∈ c.functions)
    {ctx : Context} {fault : VmError} (failed : (f.execute ctx c.methods).2 = .error fault)
    (structural : fault.isStructural = true) : fault = .stackUnderflow := by
  obtain ⟨accessors, g, bound, linked, verified, load⟩ := functions_of_load loaded member
  obtain ⟨body, decoded, -, -, returns⟩ := Function.verify_ok.mp verified
  obtain ⟨body', decoded', -, resolved⟩ := LoadedFunction.load_ok.mp load
  cases decoded.symm.trans decoded'
  have table := (Linked.ofTable_ok.mp linked).length_eq
  have calls := LoadedFunction.bound_of_load load table.symm
  have ret : .ret ∈ f.code := Machine.mem_ret_of_checkReturn
    (resolved.imp fun i r found => (Resolved.bound_of_instruction found table.symm).2) returns
  have ends := Machine.runFrom_bound ctx [] calls ret
  rw [LoadedFunction.execute] at failed
  rw [failed] at ends
  exact (ends structural).1

theorem safe_of_declare (loaded : load m h = .ok c) {accessors : List Accessor}
    (bound : Accessor.ofTable m.accessors = .ok accessors)
    (declared : AccessorRef.Declare False m.accessors accessors) : c.Safe := by
  intro route ctx e failed
  rcases dispatch_error failed with unknown | ⟨f, member, fault, run, rfl⟩
  · exact .inl unknown
  refine .inr ⟨fault, rfl, ?_⟩
  obtain ⟨accessors', g, bound', linked, verified, load⟩ := functions_of_load loaded member
  cases bound.symm.trans bound'
  obtain ⟨body, loadedBody, -, load', depths, returns, counted⟩ :=
    LoadedFunction.exists_of_verify verified declared (Accessor.ofTable_ok.mp bound).length_eq.symm
      (Linked.ofTable_ok.mp linked).length_eq.symm
  cases load.symm.trans load'
  have ends := Machine.runFrom_tracked ctx counted depths returns
  rw [LoadedFunction.execute] at run
  rw [run] at ends
  exact ends

/-! ## Arities that are not declared -/

theorem load_of_route {f : Function} {body : LoadedFunction} {accessors : List Accessor}
    {methods : List Linked} {name controller route : String} (functions : m.functions = [f])
    (classes : m.classes = [⟨name, Module.dispatchInterface, controller, [⟨route, 0⟩]⟩])
    (valid : m.validate = .ok ()) (verified : f.verify m = .ok ())
    (bound : Accessor.ofTable m.accessors = .ok accessors)
    (linked : Linked.ofTable h m.methods = .ok methods)
    (resolved : LoadedFunction.load f m accessors = .ok body) :
    load m h =
      .ok ⟨name, controller, routeIndex [⟨route, 0⟩], [body], methods, m.fingerprint⟩ := by
  have first : m.functions[0]? = some f := by rw [functions]; rfl
  have routes : loadRoutes m accessors [⟨route, 0⟩] = .ok [body] :=
    loadRoutes_ok.mpr (.cons ⟨f, first, resolved⟩ .nil)
  have all : m.verify = .ok () := by
    refine Module.verify_ok.mpr ⟨valid, ?_⟩
    rw [functions]
    exact List.forall_mem_singleton.mpr verified
  exact loadWith_ok.mpr ⟨all, _, _, accessors, classes, rfl, bound, linked, routes, rfl⟩

/-- A module with this accessor table, whose one route calls the accessor at a position on a string
alone and says that it takes no argument. -/
def underflowing (table : List AccessorRef) (index : UInt32) : Module :=
  { Module.named "C" with
    constants := Pool.ofStrings ["x"]
    accessors := table
    functions := [⟨"r", 1, 1, Code.encode [.constStr 0, .invokeAccessor index 0, .ret]⟩]
    classes := [⟨"C", Module.dispatchInterface, "", [⟨"r", 0⟩]⟩] }

theorem load_underflowing {table : List AccessorRef} {accessors : List Accessor} {index : UInt32}
    {a : AccessorRef} {accessor : Accessor} (bound : Accessor.ofTable table = .ok accessors)
    (entry : table[index.toNat]? = some a) (found : accessors[index.toNat]? = some accessor)
    (none : a.arity = 0) (one : accessor.arity = 1) :
    ∃ c, load (underflowing table index) .empty = .ok c ∧
      ∀ ctx, (c.dispatch "r" ctx).2 = .error (.vm "C" "r" .stackUnderflow) := by
  let body : List Instruction := [.constStr 0, .invokeAccessor index 0, .ret]
  let f : Function := ⟨"r", 1, 1, Code.encode body⟩
  let code : List Resolved := [.constStr "x", .invokeAccessor accessor, .ret]
  have decoded : Code.decode f.code = .ok (Code.locate 0 body) := Code.decode_encode body
  have verified : f.verify (underflowing table index) = .ok () := by
    refine Function.verify_ok.mpr ⟨_, decoded, ?_, ?_, rfl⟩
    · simp [body, Code.locate, checkRef, underflowing, Pool.ofStrings, entry, none, checkCount]
    · have declared : (underflowing table index).accessors[index.toNat]? = some a := entry
      simp [body, Code.locate, checkDepth, stepDepth, Verify.pops, pushes, declared, none, maxDepth,
        bind_eq_ok]
  have resolved : LoadedFunction.load f (underflowing table index) accessors = .ok ⟨"r", code⟩ := by
    refine LoadedFunction.load_ok.mpr ⟨_, decoded, rfl, .cons rfl (.cons ?_ (.cons rfl .nil))⟩
    simp [Resolved.ofInstruction, Resolved.entry, found]
  have loaded : load (underflowing table index) .empty = .ok _ :=
    load_of_route rfl rfl rfl verified bound rfl resolved
  refine ⟨_, loaded, fun ctx => ?_⟩
  have run : (Machine.runFrom ctx [] [] code).2 = .error .stackUnderflow := by
    simp [code, Machine.runFrom, Machine.step, Machine.accessorArgs, one, bind, Except.bind, pure,
      Except.pure, throw, throwThe, MonadExceptOf.throw]
  show (LoadedFunction.execute ⟨"r", code⟩ ctx []).2.mapError _ = _
  rw [LoadedFunction.execute, run]
  rfl

/-- Loaded classes are safe exactly if single accessors are declared to take an argument. -/
theorem safe_iff (table : List AccessorRef) :
    (∀ m h c, load m h = .ok c → ∀ route ctx e, (c.dispatch route ctx).2 = .error e →
      e = .unknownRoute c.name route ∨ ∃ fault, e = .vm c.name route fault ∧
        (fault.isStructural = true → fault = .stackUnderflow)) ∧
    ((∀ m h c, m.accessors = table → load m h = .ok c → c.Safe) ↔
      ∀ accessors, Accessor.ofTable table = .ok accessors → ∀ i < UInt32.size, ∀ a accessor,
        table[i]? = some a → accessors[i]? = some accessor → accessor.arity ≤ a.arity.toNat) := by
  refine ⟨?_, ?_, ?_⟩
  · intro m h c loaded route ctx e failed
    rcases dispatch_error failed with unknown | ⟨f, member, fault, run, rfl⟩
    · exact .inl unknown
    · exact .inr ⟨fault, rfl, fault_of_load loaded member run⟩
  · intro safe accessors bound i address a accessor entry found
    refine Decidable.byContradiction fun more => ?_
    rcases accessor.arity_eq with zero | one
    · exact more (zero ▸ Nat.zero_le _)
    · have none : a.arity = 0 := UInt8.toNat_inj.mp (by rw [UInt8.toNat_zero]; omega)
      have position : (UInt32.ofNat i).toNat = i := by
        rw [UInt32.toNat_ofNat', Nat.mod_eq_of_lt address]
      rw [← position] at entry found
      obtain ⟨c, loaded, underflows⟩ := load_underflowing bound entry found none one
      have sound := (safe _ _ c rfl loaded).vm (underflows Request.empty.toContext)
      cases sound
  · intro declared m h c same loaded
    obtain ⟨-, _, _, accessors, -, -, bound, -⟩ := loadWith_ok.mp loaded
    refine safe_of_declare loaded bound fun i address a accessor entry found => ⟨?_, nofun⟩
    exact declared accessors (same ▸ bound) i address a accessor (same ▸ entry) found

theorem load_path_underflows :
    ∃ c, load (underflowing [⟨"path", "(str)->value", 0⟩] 0) .empty = .ok c ∧ ¬ c.Safe := by
  have bound : Accessor.ofTable [⟨"path", "(str)->value", 0⟩] = .ok [.single .path] := rfl
  have found : [Accessor.single .path][(0 : UInt32).toNat]? = some (.single .path) := rfl
  obtain ⟨c, loaded, underflows⟩ := load_underflowing bound rfl found rfl rfl
  refine ⟨c, loaded, fun safe => ?_⟩
  cases safe.vm (underflows Request.empty.toContext)

end LoadedClass

end RouteAdapter
