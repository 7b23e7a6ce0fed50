import RouteAdapter.Proofs.Format.Verified
import RouteAdapter.Proofs.Machine.Deduplication
import RouteAdapter.Proofs.Machine.Registry

/-!
# Modules of one fingerprint

A registry skips a module by its fingerprint, which is taken of the encoding. An encoding has counts
and ids modulo `UInt32.size` and reflection exactly when it is flagged, while verification looks at
the module in memory; so a module that does not verify may be taken for one that is loaded. It also
has types by their text, so a type that is named like a keyword is taken for the keyword.

* `LoadedClass.load_stored`: a module and its stored form load alike if both verify;
* `UnitRegistry.Reachable`, `UnitRegistry.Agrees`: the states of a registry, and what skipping owes
  to loading anew;
* `UnitRegistry.load_rerouted`: where it fails;
* `UnitRegistry.agrees_of_lossless`: modules whose encoding has all that verification looks at;
* `UnitRegistry.agrees_iff`: when it does not, among modules with well-formed types.
-/

namespace RouteAdapter
open Verify

/-! ## Modules of one encoding -/

namespace Module

variable {m m' : Module}

theorem header_of_encode (same : m.encode = m'.encode) :
    m.magic = m'.magic ∧ m.version = m'.version := by
  simp only [encode, List.append_assoc] at same
  obtain ⟨magic, rest⟩ := List.append_inj same (by simp)
  obtain ⟨version, -⟩ := List.append_inj rest (by simp [Bytes.length_ofWord])
  refine ⟨Vector.toList_inj.mp magic, ?_⟩
  simp only [Bytes.ofWord, List.cons.injEq, and_true] at version
  obtain ⟨a, b, c, d⟩ := version
  rw [← Bytes.toWord_ofWord m.version, a, b, c, d, Bytes.toWord_ofWord]

theorem stored_eq_of_encode (same : m.encode = m'.encode) (verified : m'.verify = .ok ())
    (sized : m.Sized) (sized' : m'.Sized) (wellFormed : ∀ ty ∈ m.types, ty.WellFormed)
    (wellFormed' : ∀ ty ∈ m'.types, ty.WellFormed) : m.stored = m'.stored := by
  obtain ⟨magic', version', -⟩ := validate_ok.mp (verify_ok.mp verified).1
  obtain ⟨magic, version⟩ := header_of_encode same
  have decoded := decode_encode (magic.trans magic') (version.trans version') sized wellFormed
  rw [same, decode_encode magic' version' sized' wellFormed'] at decoded
  exact (Except.ok.inj decoded).symm

end Module

/-! ## Loading the stored form -/

theorem Resolved.ofBody_stored (m : Module) (accessors : List Accessor) (body : List Located) :
    Resolved.ofBody m.stored accessors body = Resolved.ofBody m accessors body := by
  induction body with
  | nil => rfl
  | cons i body ih =>
      have first : ofInstruction m.stored accessors i = ofInstruction m accessors i := rfl
      simp only [ofBody, first, ih]

theorem LoadedFunction.load_stored (f : Function) (m : Module) (accessors : List Accessor) :
    LoadedFunction.load f.stored m.stored accessors = LoadedFunction.load f m accessors := by
  simp only [load, Function.stored, Resolved.ofBody_stored]

namespace LoadedClass

variable {m : Module} {h : HandlerRegistry} {c : LoadedClass}

theorem routeIndex_stored (routes : List Route) :
    routeIndex (routes.map Route.stored) = routeIndex routes := by
  have entries : ((routes.map Route.stored).mapIdx fun i r => (r.name, i)) =
      routes.mapIdx fun i r => (r.name, i) := by
    apply List.ext_getElem?
    intro i
    simp [Function.comp_def, Route.stored]
  rw [routeIndex, entries, routeIndex]

theorem loadRoutes_stored {accessors : List Accessor} {routes : List Route}
    (ids : ∀ r ∈ routes, r.functionId < UInt32.size) :
    loadRoutes m.stored accessors (routes.map Route.stored) = loadRoutes m accessors routes := by
  induction routes with
  | nil => rfl
  | cons r routes ih =>
      obtain ⟨first, others⟩ := List.forall_mem_cons.mp ids
      have same : r.stored = r := by rw [Route.stored, Nat.mod_eq_of_lt first]
      have entry : m.stored.functions[r.functionId]? =
          (m.functions[r.functionId]?).map Function.stored := List.getElem?_map
      rw [List.map_cons, same, loadRoutes, loadRoutes, entry, ih others]
      cases m.functions[r.functionId]? with
      | none => rfl
      | some f => simp only [Option.map_some, LoadedFunction.load_stored]

theorem load_stored (sized : m.Sized) (verified : m.verify = .ok ())
    (verified' : m.stored.verify = .ok ()) : load m.stored h = load m h := by
  obtain ⟨-, -, ids, -⟩ := Module.validate_ok.mp (Module.verify_ok.mp verified).1
  rw [load, load, Module.fingerprint_stored, loadWith, loadWith, verified, verified']
  have mapped : m.stored.classes = m.classes.map ClassDef.stored := rfl
  rw [mapped]
  cases classes : m.classes with
  | nil => rfl
  | cons cls rest =>
      have routes (accessors : List Accessor) :
          loadRoutes m.stored accessors cls.stored.methods =
            loadRoutes m accessors cls.methods := by
        refine loadRoutes_stored fun r used => ?_
        exact Nat.lt_trans (ids cls (by simp [classes]) r used) sized.functions.count
      have index : routeIndex cls.stored.methods = routeIndex cls.methods := routeIndex_stored _
      simp only [List.map_cons, routes, index]
      rfl

theorem eq_of_load_stored {c' : LoadedClass} (sized : m.Sized) (loaded : load m h = .ok c)
    (loaded' : load m.stored h = .ok c') : c' = c := by
  have verified := (loadWith_ok.mp loaded).1
  have verified' := (loadWith_ok.mp loaded').1
  rw [load_stored sized verified verified', loaded] at loaded'
  exact (Except.ok.inj loaded').symm

end LoadedClass

namespace UnitRegistry

variable {h : HandlerRegistry} {modules : List Module} {r r' : UnitRegistry} {m m' : Module}
  {c : LoadedClass} {outcome : LoadOutcome}

/-! ## Reachable registries -/

/-- The modules are loaded from memory or from files; what fails to load changes nothing. -/
inductive Reachable (h : HandlerRegistry) (modules : List Module) : UnitRegistry → Prop
  | empty : Reachable h modules (empty h)
  | load {r r' : UnitRegistry} {m : Module} {outcome : LoadOutcome} (before : Reachable h modules r)
      (involved : m ∈ modules) (ran : r.load m = .ok (outcome, r')) : Reachable h modules r'
  | loadBytes {r r' : UnitRegistry} {bytes : Bytes} {m : Module} {outcome : LoadOutcome}
      (before : Reachable h modules r) (decoded : Module.decode bytes = .ok m)
      (involved : m ∈ modules) (ran : r.loadBytes bytes = .ok (outcome, r')) :
      Reachable h modules r'
  | unload {r : UnitRegistry} (before : Reachable h modules r) (name : String) :
      Reachable h modules (r.unload name).2

theorem From.hold (of : r.From h modules) (involved : m ∈ modules)
    (loaded : LoadedClass.load m h = .ok c) : (r.hold c).From h modules := by
  refine ⟨of.handlers, fun name held found => ?_⟩
  by_cases same : name = c.name
  · subst same
    rw [get?_hold_self, Option.some.injEq] at found
    exact found ▸ ⟨m, involved, loaded, rfl⟩
  · rw [get?_hold_of_ne r c same] at found
    exact of.origin name held found

theorem From.load (of : r.From h modules) (involved : m ∈ modules)
    (ran : r.load m = .ok (outcome, r')) : r'.From h modules := by
  by_cases current : r.isCurrent m m.fingerprint
  · rw [load_of_current current] at ran
    cases ran
    exact of
  · rw [load_of_not_current current, of.handlers] at ran
    obtain ⟨c, loaded, answered⟩ := map_eq_ok.mp ran
    cases answered
    exact of.hold involved loaded

theorem From.unload (of : r.From h modules) (unloaded : String) :
    (r.unload unloaded).2.From h modules := by
  refine ⟨of.handlers, fun name held found => ?_⟩
  by_cases same : name = unloaded
  · subst same
    rw [get?_unload_self] at found
    cases found
  · rw [get?_unload_of_ne r same] at found
    exact of.origin name held found

theorem Reachable.from (reachable : Reachable h modules r) : r.From h modules := by
  induction reachable with
  | empty => exact ⟨rfl, fun name c held => by cases held⟩
  | load _ involved ran of => exact of.load involved ran
  | loadBytes _ decoded involved ran of =>
      rw [loadBytes_of_decode decoded] at ran
      exact of.load involved ran
  | unload _ name of => exact of.unload name

/-! ## Agreement -/

/-- Loading the module succeeds as loading it anew does, and then its class dispatches as the new
one does. -/
def Agrees (r : UnitRegistry) (m : Module) : Prop :=
  ((∃ outcome r', r.load m = .ok (outcome, r')) ↔ ∃ c, LoadedClass.load m r.handlers = .ok c) ∧
    ∀ outcome r' c, r.load m = .ok (outcome, r') → LoadedClass.load m r.handlers = .ok c →
      ∃ cls rest held, m.classes = cls :: rest ∧ r'.get? cls.name = some held ∧
        ∀ route ctx, held.dispatch route ctx = c.dispatch route ctx

theorem agrees_of_current (current : r.isCurrent m m.fingerprint)
    (held : ∀ cls rest c, m.classes = cls :: rest → r.get? cls.name = some c →
      c.fingerprint = m.fingerprint → LoadedClass.load m r.handlers = .ok c) : r.Agrees m := by
  cases classes : m.classes with
  | nil => simp [isCurrent, classes] at current
  | cons cls rest =>
      obtain ⟨c, found, print⟩ := (isCurrent_iff classes).mp current
      have loaded := held cls rest c classes found print
      have skipped := load_of_current current
      refine ⟨⟨fun _ => ⟨c, loaded⟩, fun _ => ⟨_, _, skipped⟩⟩, ?_⟩
      intro outcome r' c' ran loaded'
      cases skipped.symm.trans ran
      cases loaded.symm.trans loaded'
      exact ⟨cls, rest, c, classes, found, fun _ _ => rfl⟩

theorem agrees_of_not_current (other : ¬ r.isCurrent m m.fingerprint) : r.Agrees m := by
  rw [Agrees, load_of_not_current other]
  simp only [map_eq_ok]
  refine ⟨⟨?_, ?_⟩, ?_⟩
  · rintro ⟨outcome, r', c, loaded, -⟩
    exact ⟨c, loaded⟩
  · rintro ⟨c, loaded⟩
    exact ⟨_, _, c, loaded, rfl⟩
  · rintro outcome r' c ⟨c', loaded', answered⟩ loaded
    cases answered
    cases loaded.symm.trans loaded'
    obtain ⟨cls, rest, classes, named⟩ := LoadedClass.name_of_load loaded
    exact ⟨cls, rest, c, classes, named ▸ get?_hold_self r c, fun _ _ => rfl⟩

theorem agrees_of_loads (sized : ∀ m ∈ modules, m.Sized)
    (wellFormed : ∀ m ∈ modules, ∀ ty ∈ m.types, ty.WellFormed)
    (free : CollisionFree (modules.map Module.encode))
    (alike : ∀ m ∈ modules,
      ((∃ c, LoadedClass.load m h = .ok c) ↔ ∃ c, LoadedClass.load m.stored h = .ok c))
    (of : r.From h modules) (involved : m ∈ modules) : r.Agrees m := by
  by_cases current : r.isCurrent m m.fingerprint
  · refine agrees_of_current current fun cls rest c classes found print => ?_
    obtain ⟨m', involved', loaded', named⟩ := of.origin _ _ found
    have print' := (LoadedClass.fingerprint_of_load loaded').symm.trans print
    have encoded : m.encode = m'.encode :=
      free _ (List.mem_map_of_mem involved) _ (List.mem_map_of_mem involved') print'.symm
    have same : m.stored = m'.stored := Module.stored_eq_of_encode encoded
      (LoadedClass.loadWith_ok.mp loaded').1 (sized m involved) (sized m' involved')
      (wellFormed m involved) (wellFormed m' involved')
    -- From the module that was loaded, through the stored form that both have, to this module.
    obtain ⟨c₁, stored⟩ := (alike m' involved').mp ⟨c, loaded'⟩
    cases LoadedClass.eq_of_load_stored (sized m' involved') loaded' stored
    rw [← same] at stored
    obtain ⟨c₂, loaded⟩ := (alike m involved).mpr ⟨_, stored⟩
    cases LoadedClass.eq_of_load_stored (sized m involved) loaded stored
    rw [of.handlers]
    exact loaded
  · exact agrees_of_not_current current

theorem exists_skipping (involved : m ∈ modules) (print : m.fingerprint = m'.fingerprint)
    (names : m.classes.head?.map ClassDef.name = m'.classes.head?.map ClassDef.name)
    (loaded : LoadedClass.load m h = .ok c) :
    ∃ r, Reachable h modules r ∧ r.handlers = h ∧ r.load m' = .ok (.unchanged, r) := by
  -- The empty registry loads the one module and then skips the other.
  obtain ⟨cls, rest, classes, named⟩ := LoadedClass.name_of_load loaded
  have fresh : ¬ (empty h).isCurrent m m.fingerprint := by
    rw [isCurrent_iff classes]
    rintro ⟨c, found, -⟩
    cases found
  have ran : (empty h).load m = .ok (.loaded, (empty h).hold c) := by
    rw [load_of_not_current fresh, show (empty h).handlers = h from rfl, loaded]
    rfl
  refine ⟨(empty h).hold c, .load .empty involved ran, rfl, load_of_current ?_⟩
  cases classes' : m'.classes with
  | nil => simp [classes, classes'] at names
  | cons cls' rest' =>
      simp only [classes, classes', List.head?_cons, Option.map_some, Option.some.injEq] at names
      refine (isCurrent_iff classes').mpr ⟨c, ?_, ?_⟩
      · rw [← names, ← named]
        exact get?_hold_self _ c
      · rw [LoadedClass.fingerprint_of_load loaded, print]

theorem loads_of_agrees (agrees : ∀ r, Reachable h modules r → r.Agrees m') (involved : m ∈ modules)
    (print : m.fingerprint = m'.fingerprint)
    (names : m.classes.head?.map ClassDef.name = m'.classes.head?.map ClassDef.name)
    (loaded : LoadedClass.load m h = .ok c) : ∃ c', LoadedClass.load m' h = .ok c' := by
  obtain ⟨r, reachable, handlers, skipped⟩ := exists_skipping involved print names loaded
  rw [← handlers]
  exact (agrees r reachable).1.mp ⟨_, _, skipped⟩

/-- Skipping agrees with loading anew among modules whose encoding has all that verification looks
at. -/
theorem agrees_of_lossless (sized : ∀ m ∈ modules, m.Sized)
    (wellFormed : ∀ m ∈ modules, ∀ ty ∈ m.types, ty.WellFormed)
    (free : CollisionFree (modules.map Module.encode))
    (lossless : ∀ m ∈ modules, m.Lossless) (reachable : Reachable h modules r)
    (involved : m ∈ modules) : r.Agrees m := by
  refine agrees_of_loads sized wellFormed free (fun m involved => ?_) reachable.from involved
  have verifies := (lossless m involved).verify_stored
  constructor
  · rintro ⟨c, loaded⟩
    have verified := (LoadedClass.loadWith_ok.mp loaded).1
    have same :=
      LoadedClass.load_stored (h := h) (sized m involved) verified (verifies.mpr verified)
    exact ⟨c, same.trans loaded⟩
  · rintro ⟨c, loaded⟩
    have verified := (LoadedClass.loadWith_ok.mp loaded).1
    have same := LoadedClass.load_stored (h := h) (sized m involved) (verifies.mp verified) verified
    exact ⟨c, same.symm.trans loaded⟩

/-- Skipping agrees with loading anew, over modules that may also be loaded from the files they are
written to, exactly if each of them loads as it does from its file. Types that are not well formed
are a failure of another kind, which `wellFormed` excludes: the type named `i32` and the keyword
have one encoding, so modules that load alike may still convert to different types. -/
theorem agrees_iff (h : HandlerRegistry) (modules : List Module) (sized : ∀ m ∈ modules, m.Sized)
    (wellFormed : ∀ m ∈ modules, ∀ ty ∈ m.types, ty.WellFormed)
    (closed : ∀ m ∈ modules, m.stored ∈ modules)
    (free : CollisionFree (modules.map Module.encode)) :
    (∀ r, Reachable h modules r → ∀ m ∈ modules, r.Agrees m) ↔
      ∀ m ∈ modules,
        ((∃ c, LoadedClass.load m h = .ok c) ↔ ∃ c, LoadedClass.load m.stored h = .ok c) := by
  constructor
  · intro agrees m involved
    have print : m.stored.fingerprint = m.fingerprint := Module.fingerprint_stored m
    have names : m.stored.classes.head?.map ClassDef.name = m.classes.head?.map ClassDef.name := by
      cases classes : m.classes <;> simp [Module.stored, ClassDef.stored, classes]
    have involved' := closed m involved
    constructor
    · rintro ⟨c, loaded⟩
      exact loads_of_agrees (fun r reachable => agrees r reachable m.stored involved') involved
        print.symm names.symm loaded
    · rintro ⟨c, loaded⟩
      exact loads_of_agrees (fun r reachable => agrees r reachable m involved) involved' print names
        loaded
  · intro alike r reachable m involved
    exact agrees_of_loads sized wellFormed free alike reachable.from involved

/-- A module with a count past a word that no check looks at. -/
def spacious : Module :=
  { revision none with functions := [⟨"r", 1, 4294967297, [0x12, 0x32, 0x90]⟩] }

theorem agrees_iff_spacious :
    spacious.stored ≠ spacious ∧ ∀ r, Reachable .empty [spacious, spacious.stored] r →
      r.Agrees spacious ∧ r.Agrees spacious.stored := by
  refine ⟨by decide +kernel, ?_⟩
  have free : CollisionFree ([spacious, spacious.stored].map Module.encode) :=
    collisionFree_pair fun _ => (Module.encode_stored spacious).symm
  have loads : (LoadedClass.load spacious .empty).toOption.isSome := by decide +kernel
  have loads' : (LoadedClass.load spacious.stored .empty).toOption.isSome := by decide +kernel
  obtain ⟨c, loaded, -⟩ := exists_ok_of_toOption loads fun _ _ => trivial
  obtain ⟨c', loaded', -⟩ := exists_ok_of_toOption loads' fun _ _ => trivial
  have again : spacious.stored.stored = spacious.stored := by decide +kernel
  have exact := agrees_iff .empty [spacious, spacious.stored] (by decide +kernel)
    (by decide +kernel) (by simp [again]) free
  have agrees := exact.mpr (by simp [again, loaded, loaded'])
  intro r reachable
  exact ⟨agrees r reachable _ (by simp), agrees r reachable _ (by simp)⟩

/-- The route is to a function far past the only one. -/
def rerouted : Module :=
  { revision none with
    classes := [⟨"C", Module.dispatchInterface, "C", [⟨"r", 4294967296⟩]⟩] }

theorem load_rerouted :
    CollisionFree ([revision none, rerouted].map Module.encode) ∧
      ∃ r, Reachable .empty [revision none, rerouted] r ∧
        r.load rerouted = .ok (.unchanged, r) ∧
          LoadedClass.load rerouted r.handlers =
            .error (.verify (.malformed (.missingFunction "C" "r" 4294967296))) ∧
            ¬ r.Agrees rerouted := by
  have stored : rerouted.stored = revision none := by decide +kernel
  have encoded : rerouted.encode = (revision none).encode := by
    rw [← stored, Module.encode_stored]
  have free : CollisionFree ([revision none, rerouted].map Module.encode) :=
    collisionFree_pair fun _ => encoded.symm
  have print : (revision none).fingerprint = rerouted.fingerprint :=
    congrArg Digest.sha256 encoded.symm
  have loads : (LoadedClass.load (revision none) .empty).toOption.isSome := by decide +kernel
  obtain ⟨c, loaded, -⟩ := exists_ok_of_toOption loads fun _ _ => trivial
  have rejected : rerouted.verify = .error (.malformed (.missingFunction "C" "r" 4294967296)) := rfl
  have failed : LoadedClass.load rerouted .empty =
      .error (.verify (.malformed (.missingFunction "C" "r" 4294967296))) := by
    rw [LoadedClass.load, LoadedClass.loadWith, rejected]
    rfl
  have involved : revision none ∈ [revision none, rerouted] := List.mem_cons_self
  obtain ⟨r, reachable, handlers, skipped⟩ := exists_skipping involved print rfl loaded
  rw [← handlers] at failed
  refine ⟨free, r, reachable, skipped, failed, fun agrees => ?_⟩
  obtain ⟨c', loaded'⟩ := agrees.1.mp ⟨_, _, skipped⟩
  cases failed.symm.trans loaded'

end UnitRegistry
end RouteAdapter
