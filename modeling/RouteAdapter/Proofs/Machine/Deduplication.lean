import RouteAdapter.Machine.UnitRegistry
import RouteAdapter.Proofs.Dict
import RouteAdapter.Proofs.Format.Canonical
import RouteAdapter.Proofs.Machine.Linking

/-!
# Repeated loads

A registry skips a file with the fingerprint of the class that it already holds under the name.
Files with one fingerprint have one encoding unless SHA-256 collides, and a module that was decoded
is known by its encoding; so skipping makes no difference that any later request could tell.

* `UnitRegistry.Tracks`: a registry against the modules that it was asked to load;
* `UnitRegistry.Tracks.serve`: one request;
* `UnitRegistry.serveAll_install`: any requests to an empty registry.
-/

namespace RouteAdapter

/-- SHA-256 tells the encodings apart. -/
def CollisionFree (encodings : List Bytes) : Prop :=
  ∀ a ∈ encodings, ∀ b ∈ encodings, Digest.sha256 a = Digest.sha256 b → a = b

theorem collisionFree_pair {a b : Bytes} (apart : Digest.sha256 a = Digest.sha256 b → a = b) :
    CollisionFree [a, b] := by
  simp only [CollisionFree, List.forall_mem_cons, List.not_mem_nil, false_implies, implies_true,
    and_true, true_and]
  exact ⟨apart, fun same => (apart same.symm).symm⟩

theorem Module.eq_of_fingerprint {encodings : List Bytes} (free : CollisionFree encodings)
    {m m' : Module} (involved : m.encode ∈ encodings) (involved' : m'.encode ∈ encodings)
    (decoded : decode m.encode = .ok m) (decoded' : decode m'.encode = .ok m')
    (same : m.fingerprint = m'.fingerprint) : m = m' := by
  have encoded : m.encode = m'.encode := free _ involved _ involved' same
  rw [encoded, decoded'] at decoded
  exact (Except.ok.inj decoded).symm

/-- What a load answers where this is held under the name. -/
def LoadOutcome.over (held : Option LoadedClass) (fingerprint : Bytes) : LoadOutcome :=
  match held with
  | none => .loaded
  | some c => if c.fingerprint = fingerprint then .unchanged else .replaced

theorem LoadedClass.fingerprint_of_load {m : Module} {h : HandlerRegistry} {c : LoadedClass}
    (loaded : load m h = .ok c) : c.fingerprint = m.fingerprint := by
  obtain ⟨-, cls, rest, -, -, -, -, -, -, whole⟩ := loadWith_ok.mp loaded
  rw [whole]

theorem LoadedClass.name_of_load {m : Module} {h : HandlerRegistry} {c : LoadedClass}
    (loaded : load m h = .ok c) : ∃ cls rest, m.classes = cls :: rest ∧ c.name = cls.name := by
  obtain ⟨-, cls, rest, -, classes, -, -, -, -, whole⟩ := loadWith_ok.mp loaded
  rw [whole]
  exact ⟨cls, rest, classes, rfl⟩

namespace UnitRegistry

variable {r : UnitRegistry} {m : Module} {bytes : Bytes}

/-! ## Holding classes -/

def hold (r : UnitRegistry) (c : LoadedClass) : UnitRegistry :=
  { r with units := Dict.insert c.name c r.units }

theorem get?_hold_self (r : UnitRegistry) (c : LoadedClass) : (r.hold c).get? c.name = some c :=
  Dict.get?_insert_self r.units c.name c

theorem get?_hold_of_ne (r : UnitRegistry) (c : LoadedClass) {name : String}
    (other : name ≠ c.name) : (r.hold c).get? name = r.get? name :=
  Dict.get?_insert_of_ne r.units c other

theorem hold_eq_self {c : LoadedClass} (ascending : Dict.Ascending r.units)
    (held : r.get? c.name = some c) : r.hold c = r := by
  rw [hold, ascending.insert_eq_self held]

theorem get?_unload_self (r : UnitRegistry) (name : String) :
    (r.unload name).2.get? name = none :=
  Dict.get?_erase_self r.units name

theorem get?_unload_of_ne (r : UnitRegistry) {unloaded name : String} (other : name ≠ unloaded) :
    (r.unload unloaded).2.get? name = r.get? name :=
  Dict.get?_erase_of_ne r.units other

/-! ## Loading one module -/

theorem isCurrent_iff {cls : ClassDef} {rest : List ClassDef} {fingerprint : Bytes}
    (classes : m.classes = cls :: rest) :
    r.isCurrent m fingerprint ↔ ∃ c, r.get? cls.name = some c ∧ c.fingerprint = fingerprint := by
  simp only [isCurrent, classes, Option.any_eq_true, beq_iff_eq]

theorem load_of_current (current : r.isCurrent m m.fingerprint) :
    r.load m = .ok (.unchanged, r) := by
  rw [load, if_pos current]
  rfl

theorem load_of_not_current (other : ¬ r.isCurrent m m.fingerprint) :
    r.load m = (LoadedClass.load m r.handlers).map fun c =>
      (if Dict.contains r.units c.name then .replaced else .loaded, r.hold c) := by
  rw [load, if_neg other, LoadedClass.load]
  cases LoadedClass.loadWith m r.handlers m.fingerprint <;> rfl

theorem loadBytes_of_decode (decoded : Module.decode bytes = .ok m) :
    r.loadBytes bytes = r.load m := by
  simp only [loadBytes, decoded, Except.mapError, bind, Except.bind]

theorem load_outcome {outcome : LoadOutcome} {r' : UnitRegistry}
    (ran : r.load m = .ok (outcome, r')) :
    ∃ cls rest, m.classes = cls :: rest ∧
      outcome = .over (r.get? cls.name) m.fingerprint := by
  by_cases current : r.isCurrent m m.fingerprint
  · rw [load_of_current current] at ran
    cases ran
    cases classes : m.classes with
    | nil => simp [isCurrent, classes] at current
    | cons cls rest =>
        obtain ⟨c, held, same⟩ := (isCurrent_iff classes).mp current
        refine ⟨cls, rest, rfl, ?_⟩
        simp only [LoadOutcome.over, held, same, ↓reduceIte]
  · rw [load_of_not_current current] at ran
    obtain ⟨c, loaded, answered⟩ := map_eq_ok.mp ran
    cases answered
    obtain ⟨cls, rest, classes, named⟩ := LoadedClass.name_of_load loaded
    refine ⟨cls, rest, classes, ?_⟩
    rw [named, Dict.contains]
    cases held : r.get? cls.name with
    | none =>
        rw [get?] at held
        simp [LoadOutcome.over, held]
    | some c' =>
        have differs : c'.fingerprint ≠ m.fingerprint := fun same =>
          current ((isCurrent_iff classes).mpr ⟨c', held, same⟩)
        rw [get?] at held
        simp [LoadOutcome.over, held, differs]

/-! ## Requests -/

inductive Request
  | load (bytes : Bytes)
  | unload (name : String)
  | dispatch (className route : String) (ctx : Context)

inductive Answer
  | load (result : Except LoadError Unit)
  | unload (removed : Bool)
  | dispatch (calls : List Call) (result : Except DispatchError Value)

def Request.encoding? : Request → Option Bytes
  | .load bytes => (Module.decode bytes).toOption.map Module.encode
  | _ => none

def encodings (requests : List Request) : List Bytes :=
  requests.filterMap Request.encoding?

def serve (load : UnitRegistry → Bytes → Except LoadError UnitRegistry) (r : UnitRegistry) :
    Request → Answer × UnitRegistry
  | .load bytes =>
    match load r bytes with
    | .ok r' => (.load (.ok ()), r')
    | .error e => (.load (.error e), r)
  | .unload name =>
    let (removed, r') := r.unload name
    (.unload removed, r')
  | .dispatch className route ctx =>
    let (calls, result) := r.dispatch className route ctx
    (.dispatch calls result, r)

def serveAll (load : UnitRegistry → Bytes → Except LoadError UnitRegistry) (r : UnitRegistry) :
    List Request → List Answer × UnitRegistry
  | [] => ([], r)
  | request :: rest =>
    let (answer, r') := r.serve load request
    let (answers, last) := r'.serveAll load rest
    (answer :: answers, last)

def install (r : UnitRegistry) (bytes : Bytes) : Except LoadError UnitRegistry :=
  (r.loadBytes bytes).map Prod.snd

/-- Decode, verify, link and replace, whatever is held. -/
def reload (r : UnitRegistry) (bytes : Bytes) : Except LoadError UnitRegistry :=
  (LoadedClass.ofBytes bytes r.handlers).map r.hold

/-- A load leaves all entries as they are, or it succeeds and replaces the one of its class. -/
theorem get?_serve_load {answer : Answer} {r' : UnitRegistry}
    (served : r.serve install (.load bytes) = (answer, r')) (name : String) :
    r'.get? name = r.get? name ∨
      ∃ m c, answer = .load (.ok ()) ∧ Module.decode bytes = .ok m ∧
        LoadedClass.load m r.handlers = .ok c ∧ c.name = name ∧ r'.get? name = some c := by
  rw [serve, install] at served
  cases decoded : Module.decode bytes with
  | error e =>
      rw [loadBytes, decoded] at served
      cases served
      exact .inl rfl
  | ok m =>
      rw [loadBytes_of_decode decoded] at served
      by_cases current : r.isCurrent m m.fingerprint
      · rw [load_of_current current] at served
        cases served
        exact .inl rfl
      · rw [load_of_not_current current] at served
        cases loaded : LoadedClass.load m r.handlers with
        | error e =>
            rw [loaded] at served
            cases served
            exact .inl rfl
        | ok c =>
            rw [loaded] at served
            cases served
            by_cases same : c.name = name
            · exact .inr ⟨m, c, rfl, rfl, loaded, same, same ▸ get?_hold_self r c⟩
            · exact .inl (get?_hold_of_ne r c (Ne.symm same))

/-- The module under a name after a request and its answer. -/
def Request.held (name : String) (before : Option Module) : Request × Answer → Option Module
  | (.load bytes, .load (.ok ())) =>
    match Module.decode bytes with
    | .ok m => if m.classes.head?.map ClassDef.name = some name then some m else before
    | .error _ => before
  | (.unload unloaded, _) => if unloaded = name then none else before
  | _ => before

/-- The module last loaded under a name and not unloaded since. -/
def lastLoaded (name : String) (history : List (Request × Answer)) : Option Module :=
  history.foldl (Request.held name) none

/-! ## One request -/

/-- Under each name the registry has the class of the module that is held there, and the encoding of
that module is involved. -/
structure Tracks (h : HandlerRegistry) (encodings : List Bytes) (held : String → Option Module)
    (r : UnitRegistry) : Prop where
  handlers : r.handlers = h
  ascending : Dict.Ascending r.units
  entries : ∀ name, Option.Rel (fun c m => m.encode ∈ encodings ∧ Module.decode m.encode = .ok m ∧
    LoadedClass.load m h = .ok c ∧ c.name = name) (r.get? name) (held name)

namespace Tracks

variable {h : HandlerRegistry} {encodings : List Bytes} {held : String → Option Module}

theorem of_get? (tracks : r.Tracks h encodings held) {name : String} {c : LoadedClass}
    (found : r.get? name = some c) :
    ∃ m, held name = some m ∧ m.encode ∈ encodings ∧ Module.decode m.encode = .ok m ∧
      LoadedClass.load m h = .ok c ∧ c.name = name := by
  have entry := tracks.entries name
  rw [found] at entry
  cases related : held name with
  | none =>
      rw [related] at entry
      cases entry
  | some m =>
      rw [related] at entry
      cases entry with
      | some facts => exact ⟨m, rfl, facts⟩

theorem hold (tracks : r.Tracks h encodings held) {c : LoadedClass}
    (involved : m.encode ∈ encodings) (decoded : Module.decode m.encode = .ok m)
    (loaded : LoadedClass.load m h = .ok c) :
    (r.hold c).Tracks h encodings fun name => if c.name = name then some m else held name := by
  refine ⟨tracks.handlers, tracks.ascending.insert, fun name => ?_⟩
  by_cases same : c.name = name
  · subst same
    rw [get?_hold_self, if_pos rfl]
    exact .some ⟨involved, decoded, loaded, rfl⟩
  · rw [get?_hold_of_ne r c (Ne.symm same), if_neg same]
    exact tracks.entries name

theorem unload (tracks : r.Tracks h encodings held) (unloaded : String) :
    (r.unload unloaded).2.Tracks h encodings fun name =>
      if unloaded = name then none else held name := by
  refine ⟨tracks.handlers, tracks.ascending.erase, fun name => ?_⟩
  by_cases same : unloaded = name
  · subst same
    rw [get?_unload_self, if_pos rfl]
    exact .none
  · rw [get?_unload_of_ne r (Ne.symm same), if_neg same]
    exact tracks.entries name

theorem install_eq_reload (tracks : r.Tracks h encodings held) (free : CollisionFree encodings)
    (involved : ∀ m, Module.decode bytes = .ok m → m.encode ∈ encodings) :
    r.install bytes = r.reload bytes := by
  rw [install, reload, loadBytes, LoadedClass.ofBytes]
  cases decoded : Module.decode bytes with
  | error e => rfl
  | ok m =>
      show (r.load m).map Prod.snd = (LoadedClass.load m r.handlers).map r.hold
      by_cases current : r.isCurrent m m.fingerprint
      · rw [load_of_current current]
        cases classes : m.classes with
        | nil => simp [isCurrent, classes] at current
        | cons cls rest =>
            obtain ⟨c, found, same⟩ := (isCurrent_iff classes).mp current
            obtain ⟨m', -, involved', decoded', loaded, named⟩ := tracks.of_get? found
            have again := Module.decode_encode_of_decode decoded
            have print : m'.fingerprint = m.fingerprint :=
              (LoadedClass.fingerprint_of_load loaded).symm.trans same
            -- The held class was loaded from this very module: loading it again replaces the
            -- class by itself.
            obtain rfl := Module.eq_of_fingerprint free involved' (involved m decoded) decoded'
              again print
            rw [← named] at found
            rw [tracks.handlers, loaded]
            show _ = Except.ok (r.hold c)
            rw [hold_eq_self tracks.ascending found]
            rfl
      · rw [load_of_not_current current]
        cases LoadedClass.load m r.handlers <;> rfl

theorem serve (tracks : r.Tracks h encodings held) (free : CollisionFree encodings)
    {request : Request} (involved : ∀ e ∈ request.encoding?, e ∈ encodings) {answer : Answer}
    {r' : UnitRegistry} (served : r.serve install request = (answer, r')) :
    r.serve reload request = (answer, r') ∧
      r'.Tracks h encodings fun name => Request.held name (held name) (request, answer) := by
  cases request with
  | load bytes =>
      have known (m : Module) (decoded : Module.decode bytes = .ok m) : m.encode ∈ encodings :=
        involved m.encode (by simp [Request.encoding?, decoded, Except.toOption])
      simp only [UnitRegistry.serve] at served ⊢
      rw [tracks.install_eq_reload free known] at served
      refine ⟨served, ?_⟩
      cases ran : r.reload bytes with
      | error e =>
          rw [ran] at served
          cases served
          exact tracks
      | ok after =>
          rw [ran] at served
          cases served
          obtain ⟨c, loaded, rfl⟩ := map_eq_ok.mp ran
          obtain ⟨m, decoded, loaded⟩ := bind_eq_ok.mp loaded
          rw [mapError_eq_ok] at decoded
          rw [tracks.handlers] at loaded
          obtain ⟨cls, rest, classes, named⟩ := LoadedClass.name_of_load loaded
          have again := Module.decode_encode_of_decode decoded
          simpa only [Request.held, decoded, classes, List.head?_cons, Option.map_some,
            Option.some.injEq, named] using tracks.hold (known m decoded) again loaded
  | unload name =>
      cases served
      exact ⟨rfl, tracks.unload name⟩
  | dispatch className route ctx =>
      cases served
      exact ⟨rfl, tracks⟩

/-! ## Any requests -/

theorem serveAll (tracks : r.Tracks h encodings held) (free : CollisionFree encodings)
    {requests : List Request} (involved : ∀ e ∈ UnitRegistry.encodings requests, e ∈ encodings)
    {answers : List Answer} {last : UnitRegistry}
    (served : r.serveAll install requests = (answers, last)) :
    r.serveAll reload requests = (answers, last) ∧
      last.Tracks h encodings fun name =>
        (requests.zip answers).foldl (Request.held name) (held name) := by
  -- The later requests start from what the first one leaves, so what is held is arbitrary.
  induction requests generalizing r held answers with
  | nil =>
      cases served
      exact ⟨rfl, tracks⟩
  | cons request rest ih =>
      cases first : r.serve install request with
      | mk answer r' =>
          cases others : r'.serveAll install rest with
          | mk answers' last' =>
              simp only [UnitRegistry.serveAll, first, others] at served
              cases served
              have here (e : Bytes) (known : e ∈ request.encoding?) : e ∈ encodings :=
                involved e (List.mem_filterMap.mpr ⟨request, List.mem_cons_self, known⟩)
              have later (e : Bytes) (known : e ∈ UnitRegistry.encodings rest) : e ∈ encodings := by
                obtain ⟨request', member, known⟩ := List.mem_filterMap.mp known
                exact involved e
                  (List.mem_filterMap.mpr ⟨request', List.mem_cons_of_mem _ member, known⟩)
              obtain ⟨same, tracks'⟩ := tracks.serve free here first
              obtain ⟨same', tracks''⟩ := ih tracks' later others
              refine ⟨?_, tracks''⟩
              simp only [UnitRegistry.serveAll, same, same']

end Tracks

theorem tracks_empty (h : HandlerRegistry) (encodings : List Bytes) :
    (empty h).Tracks h encodings fun _ => none :=
  ⟨rfl, .nil, fun _ => .none⟩

/-- A registry answers and ends as one that loads every file anew. Each entry stands under its own
name with the fingerprint of the module that was last loaded under it, and a load that fails changes
none of them. -/
theorem serveAll_install (h : HandlerRegistry) (requests : List Request)
    (free : CollisionFree (encodings requests)) :
    (empty h).serveAll install requests = (empty h).serveAll reload requests ∧
      ∀ answers r, (empty h).serveAll install requests = (answers, r) →
        (∀ name c, r.get? name = some c → c.name = name) ∧
        (∀ name, (r.get? name).map LoadedClass.fingerprint =
          (lastLoaded name (requests.zip answers)).map Module.fingerprint) ∧
        (∀ bytes answer r', r.serve install (.load bytes) = (answer, r') → ∀ name,
          r'.get? name = r.get? name ∨
            ∃ m c, answer = .load (.ok ()) ∧ Module.decode bytes = .ok m ∧
              LoadedClass.load m h = .ok c ∧ c.name = name ∧ r'.get? name = some c) ∧
        (∀ bytes m cls rest c, Module.decode bytes = .ok m → m.classes = cls :: rest →
          r.get? cls.name = some c → c.fingerprint = m.fingerprint →
            r.loadBytes bytes = .ok (.unchanged, r)) ∧
        ∀ bytes outcome r', r.loadBytes bytes = .ok (outcome, r') →
          ∃ m cls rest, Module.decode bytes = .ok m ∧ m.classes = cls :: rest ∧
            outcome = .over (r.get? cls.name) m.fingerprint := by
  cases served : (empty h).serveAll install requests with
  | mk answers r =>
      obtain ⟨same, tracks⟩ := (tracks_empty h _).serveAll free (fun _ known => known) served
      refine ⟨same.symm, ?_⟩
      rintro _ _ ⟨⟩
      refine ⟨?_, ?_, ?_, ?_, ?_⟩
      · intro name c found
        obtain ⟨-, -, -, -, -, named⟩ := tracks.of_get? found
        exact named
      · intro name
        have entry := tracks.entries name
        rw [lastLoaded]
        cases found : r.get? name with
        | none =>
            -- Neither side has an entry.
            rw [found] at entry
            generalize List.foldl _ _ _ = last at entry
            cases entry
            rfl
        | some c =>
            obtain ⟨m, last, -, -, loaded, -⟩ := tracks.of_get? found
            rw [last, Option.map_some, Option.map_some, LoadedClass.fingerprint_of_load loaded]
      · intro bytes answer r' ran name
        exact tracks.handlers ▸ get?_serve_load ran name
      · intro bytes m cls rest c decoded classes found print
        have current : r.isCurrent m m.fingerprint := (isCurrent_iff classes).mpr ⟨c, found, print⟩
        rw [loadBytes_of_decode decoded, load_of_current current]
      · intro bytes outcome r' ran
        obtain ⟨m, decoded, loaded⟩ := bind_eq_ok.mp ran
        obtain ⟨cls, rest, classes, answered⟩ := load_outcome loaded
        exact ⟨m, cls, rest, mapError_eq_ok.mp decoded, classes, answered⟩

def revision (source : Option String) : Module :=
  { Module.named "C" with
    functions := [⟨"r", 1, 0, [0x12, 0x32, 0x90]⟩]
    classes := [⟨"C", Module.dispatchInterface, "C", [⟨"r", 0⟩]⟩]
    metadata := ⟨"C", source⟩ }

/-- A second revision replaces the first, and a broken file changes nothing. -/
def visits : List Request :=
  [.load (revision none).encode, .load (revision (some "c.toml")).encode, .load [], .unload "D"]

set_option maxRecDepth 2000 in
theorem serveAll_install_visits :
    CollisionFree (encodings visits) ∧
      (empty .empty).serveAll install visits = (empty .empty).serveAll reload visits ∧
        ∃ answers r c, (empty .empty).serveAll install visits = (answers, r) ∧
          r.get? "C" = some c ∧ c.fingerprint = (revision (some "c.toml")).fingerprint ∧
            r.loadBytes (revision (some "c.toml")).encode = .ok (.unchanged, r) := by
  have first : Module.decode (revision none).encode = .ok (revision none) :=
    toOption_eq_some.mp (by decide +kernel)
  have second : Module.decode (revision (some "c.toml")).encode = .ok (revision (some "c.toml")) :=
    toOption_eq_some.mp (by decide +kernel)
  obtain ⟨e, broken⟩ : ∃ e, Module.decode [] = .error e := ⟨_, rfl⟩
  have encoded : encodings visits =
      [(revision none).encode, (revision (some "c.toml")).encode] := by
    simp only [encodings, visits, List.filterMap_cons, List.filterMap_nil, Request.encoding?, first,
      second, broken, Except.toOption, Option.map_some, Option.map_none]
  have free : CollisionFree (encodings visits) := encoded ▸ collisionFree_pair (by decide +kernel)
  have last : lastLoaded "C" (visits.zip ((empty .empty).serveAll install visits).1) =
      some (revision (some "c.toml")) := by
    decide +kernel
  obtain ⟨same, after⟩ := serveAll_install .empty visits free
  refine ⟨free, same, ?_⟩
  cases served : (empty .empty).serveAll install visits with
  | mk answers r =>
      rw [served] at last
      obtain ⟨-, prints, -, unchanged, -⟩ := after answers r served
      have print := prints "C"
      rw [last, Option.map_some, Option.map_eq_some_iff] at print
      obtain ⟨c, found, print⟩ := print
      exact ⟨answers, r, c, rfl, found, print, unchanged _ _ _ _ c second rfl found print⟩

end UnitRegistry
end RouteAdapter
