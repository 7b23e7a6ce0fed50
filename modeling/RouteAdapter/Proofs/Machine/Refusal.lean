import RouteAdapter.Proofs.Format.Verified
import RouteAdapter.Proofs.Machine.Depth

/-!
# Refused modules

A module is loaded if it passes verification, its first class has the dispatch interface, and its
two tables can be bound; it is refused for the first of these that it fails. Resolving the bodies
checks every reference once more, which after verification finds no fault.

* `AccessorRef.Unbound`, `MethodRef.Unbound`: entries that cannot be bound, and why;
* `LoadedFunction.exists_load`, `LoadedClass.exists_loadRoutes`: bodies that are always resolved;
* `LoadedClass.Loadable`, `LoadedClass.Refused`: the conditions, and the first one that fails;
* `LoadedClass.load_decided`: loading decides between the two.
-/

namespace RouteAdapter
open Verify

/-! ## Entries -/

namespace AccessorRef

/-- There is an accessor of the name, and it has the descriptor. -/
def Bound (a : AccessorRef) : Prop :=
  ∃ accessor, Accessor.byName? a.name = some accessor ∧ accessor.descriptor = a.descriptor

inductive Unbound (a : AccessorRef) : LinkError → Prop
  | unknown (none : Accessor.byName? a.name = none) : Unbound a (.unknownAccessor a.name)
  | mismatch {accessor : Accessor} (named : Accessor.byName? a.name = some accessor)
      (other : accessor.descriptor ≠ a.descriptor) :
      Unbound a (.accessorMismatch a.name a.descriptor accessor.descriptor)

end AccessorRef

namespace MethodRef

/-- There is a handler under the symbol, registered with the descriptor. -/
def Bound (h : HandlerRegistry) (m : MethodRef) : Prop :=
  ∃ r, h.get? m.symbol = some r ∧ r.descriptor = m.descriptor

inductive Unbound (h : HandlerRegistry) (m : MethodRef) : LinkError → Prop
  | missing (none : h.get? m.symbol = none) : Unbound h m (.missingHandler m.symbol)
  | mismatch {r : Registered} (registered : h.get? m.symbol = some r)
      (other : r.descriptor ≠ m.descriptor) :
      Unbound h m (.descriptorMismatch m.symbol m.descriptor r.descriptor)

end MethodRef

/-- The entries of a table can be bound up to one that cannot, for this reason. -/
def FirstUnbound {α : Type} (bound : α → Prop) (unbound : α → LinkError → Prop) (table : List α)
    (e : LinkError) : Prop :=
  ∃ before a after, table = before ++ a :: after ∧ (∀ b ∈ before, bound b) ∧ unbound a e

/-! ## Tables -/

namespace Accessor

variable {a : AccessorRef} {refs : List AccessorRef} {e : LinkError}

theorem exists_resolve : (∃ accessor, resolve a.name a.descriptor = .ok accessor) ↔ a.Bound := by
  unfold resolve
  cases named : byName? a.name with
  | none => simp [AccessorRef.Bound, named]
  | some accessor =>
      by_cases same : accessor.descriptor = a.descriptor <;>
        simp [AccessorRef.Bound, named, same]

theorem resolve_error : resolve a.name a.descriptor = .error e ↔ a.Unbound e := by
  unfold resolve
  constructor
  · intro failed
    split at failed
    · rename_i none
      cases failed
      exact .unknown none
    · rename_i accessor named
      split at failed
      · cases failed
      · rename_i other
        cases failed
        exact .mismatch named other
  · intro unbound
    cases unbound with
    | unknown none => rw [none]
    | mismatch named other =>
        rw [named]
        exact if_neg other

theorem exists_ofTable : (∃ accessors, ofTable refs = .ok accessors) ↔ ∀ a ∈ refs, a.Bound := by
  constructor
  · rintro ⟨accessors, bound⟩ a member
    obtain ⟨accessor, -, resolved⟩ := exists_of_mem_forall₂ (ofTable_ok.mp bound) member
    exact exists_resolve.mp ⟨accessor, resolved⟩
  · intro bound
    obtain ⟨accessors, resolved⟩ :=
      exists_forall₂ fun a member => exists_resolve.mpr (bound a member)
    exact ⟨accessors, ofTable_ok.mpr resolved⟩

theorem ofTable_error :
    ofTable refs = .error e ↔ FirstUnbound AccessorRef.Bound AccessorRef.Unbound refs e := by
  simp only [ofTable_eq_mapM, mapM_eq_error, exists_resolve, resolve_error, FirstUnbound]

end Accessor

namespace Linked

variable {h : HandlerRegistry} {m : MethodRef} {refs : List MethodRef} {e : LinkError}

theorem exists_ofRef : (∃ linked, ofRef h m = .ok linked) ↔ m.Bound h := by
  constructor
  · rintro ⟨linked, bound⟩
    exact ⟨_, (ofRef_ok.mp bound).1, rfl⟩
  · rintro ⟨⟨descriptor, handler⟩, registered, same⟩
    cases same
    exact ⟨⟨m.symbol, handler⟩, ofRef_ok.mpr ⟨registered, rfl⟩⟩

theorem ofRef_error : ofRef h m = .error e ↔ m.Unbound h e := by
  unfold ofRef
  constructor
  · intro failed
    split at failed
    · rename_i none
      cases failed
      exact .missing none
    · rename_i r registered
      split at failed
      · cases failed
      · rename_i other
        cases failed
        exact .mismatch registered other
  · intro unbound
    cases unbound with
    | missing none => rw [none]
    | mismatch registered other =>
        rw [registered]
        exact if_neg other

theorem exists_ofTable : (∃ methods, ofTable h refs = .ok methods) ↔ ∀ m ∈ refs, m.Bound h := by
  constructor
  · rintro ⟨methods, bound⟩ m member
    obtain ⟨linked, -, found⟩ := exists_of_mem_forall₂ (ofTable_ok.mp bound) member
    exact exists_ofRef.mp ⟨linked, found⟩
  · intro bound
    obtain ⟨methods, linked⟩ := exists_forall₂ fun m member => exists_ofRef.mpr (bound m member)
    exact ⟨methods, ofTable_ok.mpr linked⟩

theorem ofTable_error :
    ofTable h refs = .error e ↔ FirstUnbound (MethodRef.Bound h) (MethodRef.Unbound h) refs e := by
  simp only [ofTable_eq_mapM, mapM_eq_error, exists_ofRef, ofRef_error, FirstUnbound]

end Linked

/-! ## Bodies -/

theorem LoadedFunction.exists_load {f : Function} {m : Module} {accessors : List Accessor}
    (verified : f.verify m = .ok ()) (bound : Accessor.ofTable m.accessors = .ok accessors) :
    ∃ loaded, load f m accessors = .ok loaded :=
  exists_load_of_length verified (Accessor.ofTable_ok.mp bound).length_eq.symm

namespace LoadedClass

variable {m : Module} {h : HandlerRegistry}

/-- The routes of a verified module refer to functions, and these are resolved. -/
theorem exists_loadRoutes {accessors : List Accessor} {cls : ClassDef}
    (verified : m.verify = .ok ())
    (member : cls ∈ m.classes) (bound : Accessor.ofTable m.accessors = .ok accessors) :
    ∃ functions, loadRoutes m accessors cls.methods = .ok functions := by
  obtain ⟨valid, bodies⟩ := Module.verify_ok.mp verified
  obtain ⟨-, -, routes, -⟩ := Module.validate_ok.mp valid
  have each : ∀ r ∈ cls.methods, ∃ loaded, ∃ f, m.functions[r.functionId]? = some f ∧
      LoadedFunction.load f m accessors = .ok loaded := by
    intro r route
    have known := List.getElem?_eq_getElem (routes cls member r route)
    obtain ⟨loaded, load⟩ :=
      LoadedFunction.exists_load (bodies _ (List.mem_of_getElem? known)) bound
    exact ⟨loaded, _, known, load⟩
  obtain ⟨functions, loaded⟩ := exists_forall₂ each
  exact ⟨functions, loadRoutes_ok.mpr loaded⟩

/-! ## The decision -/

/-- What a module has to meet to be loaded, in the order in which it is checked. -/
structure Loadable (m : Module) (h : HandlerRegistry) : Prop where
  verified : m.verify = .ok ()
  dispatches : ∃ cls rest, m.classes = cls :: rest ∧ cls.interface = Module.dispatchInterface
  accessors : ∀ a ∈ m.accessors, a.Bound
  methods : ∀ r ∈ m.methods, r.Bound h

/-- The first condition that a module does not meet, as an error. -/
inductive Refused (m : Module) (h : HandlerRegistry) : LoadError → Prop
  | unverified {e : VerifyError} (fault : m.verify = .error e) : Refused m h (.verify e)
  | noClass (verified : m.verify = .ok ()) (none : m.classes = []) :
      Refused m h (.noClass m.metadata.name)
  | wrongInterface {cls : ClassDef} {rest : List ClassDef} (verified : m.verify = .ok ())
      (first : m.classes = cls :: rest) (other : cls.interface ≠ Module.dispatchInterface) :
      Refused m h (.wrongInterface cls.name cls.interface)
  | accessor {cls : ClassDef} {rest : List ClassDef} {e : LinkError} (verified : m.verify = .ok ())
      (first : m.classes = cls :: rest) (dispatches : cls.interface = Module.dispatchInterface)
      (fault : FirstUnbound AccessorRef.Bound AccessorRef.Unbound m.accessors e) :
      Refused m h (.link e)
  | method {cls : ClassDef} {rest : List ClassDef} {e : LinkError} (verified : m.verify = .ok ())
      (first : m.classes = cls :: rest) (dispatches : cls.interface = Module.dispatchInterface)
      (accessors : ∀ a ∈ m.accessors, a.Bound)
      (fault : FirstUnbound (MethodRef.Bound h) (MethodRef.Unbound h) m.methods e) :
      Refused m h (.link e)

theorem exists_load (loadable : Loadable m h) : ∃ c, load m h = .ok c := by
  obtain ⟨verified, ⟨cls, rest, classes, dispatches⟩, accessors, methods⟩ := loadable
  obtain ⟨accessors, bound⟩ := Accessor.exists_ofTable.mpr accessors
  obtain ⟨methods, linked⟩ := Linked.exists_ofTable.mpr methods
  have member : cls ∈ m.classes := classes ▸ List.mem_cons_self
  obtain ⟨functions, routes⟩ := exists_loadRoutes verified member bound
  exact ⟨⟨_, _, _, functions, methods, _⟩, loadWith_ok.mpr
    ⟨verified, cls, rest, accessors, classes, dispatches, bound, linked, routes, rfl⟩⟩

theorem load_of_refused {e : LoadError} (refused : Refused m h e) : load m h = .error e := by
  unfold load loadWith
  cases refused with
  | unverified fault =>
      rw [fault]
      rfl
  | noClass verified none =>
      rw [verified, none]
      rfl
  | wrongInterface verified first other =>
      rw [verified, first]
      simp [Except.mapError, bind, Except.bind, other, throw, throwThe, MonadExceptOf.throw]
  | accessor verified first dispatches fault =>
      rw [verified, first, Accessor.ofTable_error.mpr fault]
      simp [Except.mapError, bind, Except.bind, dispatches, liftLink]
  | method verified first dispatches accessors fault =>
      obtain ⟨accessors, bound⟩ := Accessor.exists_ofTable.mpr accessors
      rw [verified, first, bound, Linked.ofTable_error.mpr fault]
      simp [Except.mapError, bind, Except.bind, dispatches, liftLink]

theorem loadable_or_refused (m : Module) (h : HandlerRegistry) :
    Loadable m h ∨ ∃ e, Refused m h e := by
  cases verified : m.verify with
  | error e => exact .inr ⟨_, .unverified verified⟩
  | ok =>
      cases classes : m.classes with
      | nil => exact .inr ⟨_, .noClass verified classes⟩
      | cons cls rest =>
          by_cases dispatches : cls.interface = Module.dispatchInterface
          · cases bound : Accessor.ofTable m.accessors with
            | error e =>
                exact .inr
                  ⟨_, .accessor verified classes dispatches (Accessor.ofTable_error.mp bound)⟩
            | ok accessors =>
                have entries := Accessor.exists_ofTable.mp ⟨accessors, bound⟩
                cases linked : Linked.ofTable h m.methods with
                | error e =>
                    exact .inr ⟨_, .method verified classes dispatches entries
                      (Linked.ofTable_error.mp linked)⟩
                | ok methods =>
                    exact .inl ⟨verified, ⟨cls, rest, classes, dispatches⟩, entries,
                      Linked.exists_ofTable.mp ⟨methods, linked⟩⟩
          · exact .inr ⟨_, .wrongInterface verified classes dispatches⟩

/-- A module is loaded exactly if it meets all conditions, and is otherwise refused for the first
that it does not meet; no function of a verified module fails to be resolved. -/
theorem load_decided (m : Module) (h : HandlerRegistry) :
    ((∃ c, load m h = .ok c) ↔ Loadable m h) ∧
    (∀ e, load m h = .error e ↔ Refused m h e) ∧
    (m.verify = .ok () → ∀ accessors, Accessor.ofTable m.accessors = .ok accessors →
      ∀ f ∈ m.functions, ∃ loaded, LoadedFunction.load f m accessors = .ok loaded) := by
  refine ⟨⟨?_, exists_load⟩, fun e => ⟨fun failed => ?_, load_of_refused⟩, ?_⟩
  · rintro ⟨c, loaded⟩
    refine (loadable_or_refused m h).resolve_right ?_
    rintro ⟨e, refused⟩
    cases loaded.symm.trans (load_of_refused refused)
  · rcases loadable_or_refused m h with loadable | ⟨e', refused⟩
    · obtain ⟨c, loaded⟩ := exists_load loadable
      cases failed.symm.trans loaded
    · cases failed.symm.trans (load_of_refused refused)
      exact refused
  · intro verified accessors bound f member
    exact LoadedFunction.exists_load ((Module.verify_ok.mp verified).2 f member) bound

/-- A module with one route, and with accessors that its body does not call. -/
def usersWith (uncalled : List AccessorRef) : Module :=
  { LoadedFunction.showModule with
    accessors := LoadedFunction.showModule.accessors ++ uncalled
    classes := [⟨"Users$Adapter", Module.dispatchInterface, "Users", [⟨"show", 0⟩]⟩] }

/-- Of an unknown accessor and a missing handler the accessor is reported. -/
theorem load_decided_users :
    (usersWith []).verify = .ok () ∧
    (∃ c, load (usersWith []) LoadedFunction.showHandlers = .ok c) ∧
    (∃ loaded,
      LoadedFunction.load LoadedFunction.showId (usersWith []) [.single .path] = .ok loaded) ∧
    load (usersWith [⟨"cookie", "(str)->value", 1⟩]) .empty =
      .error (.link (.unknownAccessor "cookie")) := by
  obtain ⟨loads, -, resolves⟩ := load_decided (usersWith []) LoadedFunction.showHandlers
  have verified : (usersWith []).verify = .ok () := by rfl
  have path : AccessorRef.Bound ⟨"path", "(str)->value", 1⟩ := ⟨.single .path, rfl, rfl⟩
  refine ⟨verified, loads.mpr ⟨verified, ⟨_, _, rfl, rfl⟩, ?_, ?_⟩, ?_, ?_⟩
  · exact List.forall_mem_singleton.mpr path
  · exact List.forall_mem_singleton.mpr ⟨_, rfl, rfl⟩
  · exact resolves verified _ rfl _ (List.mem_singleton.mpr rfl)
  · obtain ⟨-, refused, -⟩ := load_decided (usersWith [⟨"cookie", "(str)->value", 1⟩]) .empty
    refine (refused _).mpr (.accessor (by rfl) rfl rfl ⟨[_], _, [], rfl, ?_, .unknown rfl⟩)
    exact List.forall_mem_singleton.mpr path

end LoadedClass
end RouteAdapter
