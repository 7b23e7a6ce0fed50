import RouteAdapter.Machine.LoadedClass
import RouteAdapter.Proofs.Outcome

/-!
# Linked tables and bodies

The tables of a module are bound entry by entry and its bodies resolved instruction by instruction.
-/

namespace RouteAdapter

theorem Accessor.ofTable_eq_mapM (refs : List AccessorRef) :
    ofTable refs = refs.mapM fun a => resolve a.name a.descriptor := by
  induction refs with
  | nil => rfl
  | cons a refs ih => rw [ofTable, ih, List.mapM_cons]

theorem Accessor.ofTable_ok {refs : List AccessorRef} {accessors : List Accessor} :
    Accessor.ofTable refs = .ok accessors ↔
      List.Forall₂ (fun a accessor => Accessor.resolve a.name a.descriptor = .ok accessor)
        refs accessors := by
  rw [Accessor.ofTable_eq_mapM, mapM_eq_ok]

theorem Linked.ofRef_ok {h : HandlerRegistry} {m : MethodRef} {linked : Linked} :
    Linked.ofRef h m = .ok linked ↔
      h.get? m.symbol = some ⟨m.descriptor, linked.handler⟩ ∧ linked.symbol = m.symbol := by
  obtain ⟨symbol, handler⟩ := linked
  rw [Linked.ofRef]
  cases h.get? m.symbol with
  | none => simp
  | some r =>
      obtain ⟨descriptor, handler'⟩ := r
      by_cases same : descriptor = m.descriptor
      · simp [same, eq_comm, and_comm]
      · simp [same]

theorem Linked.ofTable_eq_mapM (h : HandlerRegistry) (refs : List MethodRef) :
    ofTable h refs = refs.mapM (ofRef h) := by
  induction refs with
  | nil => rfl
  | cons m refs ih => rw [ofTable, ih, List.mapM_cons]

theorem Linked.ofTable_ok {h : HandlerRegistry} {refs : List MethodRef} {methods : List Linked} :
    Linked.ofTable h refs = .ok methods ↔
      List.Forall₂ (fun m linked => Linked.ofRef h m = .ok linked) refs methods := by
  rw [Linked.ofTable_eq_mapM, mapM_eq_ok]

theorem Resolved.ofBody_ok {m : Module} {accessors : List Accessor} {body : List Located}
    {code : List Resolved} :
    Resolved.ofBody m accessors body = .ok code ↔
      List.Forall₂ (fun i r => Resolved.ofInstruction m accessors i = .ok r) body code := by
  rw [← mapM_eq_ok]
  induction body generalizing code with
  | nil => rfl
  | cons i body ih => simp only [Resolved.ofBody, List.mapM_cons, bind_eq_ok, ih]

theorem LoadedFunction.load_ok {f : Function} {m : Module} {accessors : List Accessor}
    {loaded : LoadedFunction} :
    LoadedFunction.load f m accessors = .ok loaded ↔
      ∃ body, Code.decode f.code = .ok body ∧ loaded.name = f.name ∧
        List.Forall₂ (fun i r => Resolved.ofInstruction m accessors i = .ok r)
          body loaded.code := by
  obtain ⟨name, code⟩ := loaded
  rw [LoadedFunction.load]
  cases Code.decode f.code with
  | error e => simp
  | ok body =>
      simp only [bind_eq_ok, Resolved.ofBody_ok, Except.ok.injEq, exists_eq_left']
      constructor
      · rintro ⟨code, resolved, whole⟩
        cases whole
        exact ⟨rfl, resolved⟩
      · rintro ⟨rfl, resolved⟩
        exact ⟨code, resolved, rfl⟩

namespace LoadedClass

theorem loadRoutes_ok {m : Module} {accessors : List Accessor} {routes : List Route}
    {functions : List LoadedFunction} :
    loadRoutes m accessors routes = .ok functions ↔
      List.Forall₂ (fun r loaded => ∃ f, m.functions[r.functionId]? = some f ∧
        LoadedFunction.load f m accessors = .ok loaded) routes functions := by
  induction routes generalizing functions with
  | nil => simp [loadRoutes, eq_comm]
  | cons r routes ih =>
      rw [loadRoutes, List.forall₂_cons_left_iff]
      cases m.functions[r.functionId]? with
      | none => simp
      | some f =>
          simp only [bind_eq_ok, ih, Option.some.injEq, exists_eq_left']
          constructor
          · rintro ⟨loaded, first, others, rest, whole⟩
            cases whole
            exact ⟨loaded, others, first, rest, rfl⟩
          · rintro ⟨loaded, others, first, rest, rfl⟩
            exact ⟨loaded, first, others, rest, rfl⟩

theorem loadWith_ok {m : Module} {h : HandlerRegistry} {fingerprint : Bytes} {c : LoadedClass} :
    loadWith m h fingerprint = .ok c ↔
      m.verify = .ok () ∧ ∃ cls rest accessors, m.classes = cls :: rest ∧
        cls.interface = Module.dispatchInterface ∧ Accessor.ofTable m.accessors = .ok accessors ∧
        Linked.ofTable h m.methods = .ok c.methods ∧
        loadRoutes m accessors cls.methods = .ok c.functions ∧
        c = ⟨cls.name, cls.controller, routeIndex cls.methods, c.functions, c.methods,
          fingerprint⟩ := by
  obtain ⟨name, controller, routes, functions, methods, print⟩ := c
  unfold loadWith
  simp only [bind_eq_ok, mapError_eq_ok]
  cases m.classes with
  | nil =>
      constructor
      · rintro ⟨⟨⟩, -, thrown⟩
        cases thrown
      · rintro ⟨-, cls, rest, accessors, present, -⟩
        cases present
  | cons cls rest =>
      by_cases interface : cls.interface = Module.dispatchInterface
      · simp only [interface, ne_eq, not_true_eq_false, ↓reduceIte, bind_eq_ok, liftLink,
          mapError_eq_ok, List.cons.injEq]
        constructor
        · rintro ⟨⟨⟩, verified, accessors, bound, methods, linked, functions, loaded, whole⟩
          cases whole
          exact ⟨verified, cls, rest, accessors, ⟨rfl, rfl⟩, interface, bound, linked, loaded, rfl⟩
        · rintro ⟨verified, _, _, accessors, ⟨rfl, rfl⟩, -, bound, linked, loaded, whole⟩
          cases whole
          exact ⟨(), verified, accessors, bound, methods, linked, functions, loaded, rfl⟩
      · simp only [interface, ne_eq, not_false_eq_true, ↓reduceIte]
        constructor
        · rintro ⟨⟨⟩, -, thrown⟩
          cases thrown
        · rintro ⟨-, _, _, accessors, present, same, -⟩
          cases present
          exact absurd same interface

end LoadedClass
end RouteAdapter
