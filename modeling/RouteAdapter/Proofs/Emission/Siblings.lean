import Mathlib.Data.List.Induction
import Mathlib.Data.List.Nodup
import RouteAdapter.Emission.Class

/-!
# Siblings are independent

A controller gets a class exactly if it is valid and its class name is not taken by a class of the
table or by a valid controller before it. The others have one failure each, and a method that fails
takes nothing from its siblings.

* `Controller.validate_cases`: which controllers are valid, and why the others are not;
* `Controller.emitInto_cases`: what one controller does to a table;
* `Controller.emitAll_separate`: what a list of controllers does.
-/

namespace RouteAdapter

/-! ## Valid controllers -/

namespace Controller

def WellNamed (name : String) : Prop :=
  name ≠ "" ∧ (∀ ch ∈ name.toList, Ty.isNameChar ch) ∧ (∀ ch ∈ name.toList.head?, ¬ch.isDigit) ∧
    name.toList.getLast? ≠ some '.'

def RoutesDistinct (methods : List DeclaredMethod) : Prop :=
  (∀ m ∈ methods, m.name ≠ "") ∧ (methods.map DeclaredMethod.name).Nodup

def Valid (c : Controller) : Prop :=
  WellNamed c.name ∧ RoutesDistinct c.methods

/-- The first fault of a controller: that of its name, or of the first route that has one. -/
inductive Invalid (c : Controller) : ClassError → Prop
  | emptyName (empty : c.name = "") : Invalid c (.invalidController c.name .emptyName)
  | badName (nonempty : c.name ≠ "") (bad : ¬WellNamed c.name) :
      Invalid c (.invalidController c.name .badName)
  | emptyRoute {front back : List DeclaredMethod} {m : DeclaredMethod} (named : WellNamed c.name)
      (methods : c.methods = front ++ m :: back) (before : RoutesDistinct front)
      (empty : m.name = "") : Invalid c (.invalidController c.name .emptyRoute)
  | duplicateRoute {front back : List DeclaredMethod} {m : DeclaredMethod}
      (named : WellNamed c.name) (methods : c.methods = front ++ m :: back)
      (before : RoutesDistinct front) (nonempty : m.name ≠ "")
      (again : m.name ∈ front.map DeclaredMethod.name) :
      Invalid c (.duplicateRoute c.name m.name)

theorem Invalid.not_valid {c : Controller} {e : ClassError} (invalid : c.Invalid e) :
    ¬c.Valid := by
  rintro ⟨wellNamed, nonempty, distinct⟩
  cases invalid with
  | emptyName empty => exact wellNamed.1 empty
  | badName _ bad => exact bad wellNamed
  | emptyRoute _ methods _ empty =>
      rw [methods] at nonempty
      exact nonempty _ (List.mem_append_right _ List.mem_cons_self) empty
  | duplicateRoute _ methods _ _ again =>
      rw [methods, List.map_append, List.map_cons, List.nodup_append] at distinct
      obtain ⟨-, -, apart⟩ := distinct
      exact apart _ again _ List.mem_cons_self rfl

theorem isValidName_iff {name : String} (nonempty : name ≠ "") :
    isValidName name.toList ↔ WellNamed name := by
  cases head : name.toList.head? <;>
    simp [isValidName, WellNamed, nonempty, head, and_assoc]

theorem RoutesDistinct.concat {front : List DeclaredMethod} {m : DeclaredMethod}
    (before : RoutesDistinct front) (nonempty : m.name ≠ "")
    (fresh : m.name ∉ front.map DeclaredMethod.name) : RoutesDistinct (front ++ [m]) := by
  obtain ⟨named, distinct⟩ := before
  refine ⟨?_, ?_⟩
  · intro m' member
    rcases List.mem_append.mp member with earlier | last
    · exact named m' earlier
    · rw [List.mem_singleton.mp last]
      exact nonempty
  · rw [List.map_append, List.map_singleton, ← List.concat_eq_append]
    exact distinct.concat fresh

theorem validateRoutes_cases (controller : String) (methods : List DeclaredMethod)
    {seen : List String} {front : List DeclaredMethod} (before : RoutesDistinct front)
    (known : ∀ route, route ∈ seen ↔ route ∈ front.map DeclaredMethod.name) :
    (validateRoutes controller seen methods = .ok () ∧ RoutesDistinct (front ++ methods)) ∨
    ∃ front' m back, front ++ methods = front' ++ m :: back ∧ RoutesDistinct front' ∧
      (m.name = "" ∧ validateRoutes controller seen methods =
          .error (.invalidController controller .emptyRoute) ∨
        m.name ≠ "" ∧ m.name ∈ front'.map DeclaredMethod.name ∧
          validateRoutes controller seen methods = .error (.duplicateRoute controller m.name)) := by
  -- `seen` grows at the front while the list is taken apart, so `front` keeps the routes before.
  induction methods generalizing seen front with
  | nil =>
      rw [List.append_nil]
      exact .inl ⟨rfl, before⟩
  | cons m methods ih =>
      rw [validateRoutes]
      by_cases empty : m.name = ""
      · refine .inr ⟨front, m, methods, rfl, before, .inl ⟨empty, ?_⟩⟩
        rw [if_pos (String.isEmpty_iff.mpr empty)]
      · rw [if_neg (mt String.isEmpty_iff.mp empty)]
        by_cases again : m.name ∈ seen
        · refine .inr ⟨front, m, methods, rfl, before, .inr ⟨empty, (known _).mp again, ?_⟩⟩
          rw [if_pos again]
        · rw [if_neg again]
          have fresh : m.name ∉ front.map DeclaredMethod.name := mt (known _).mpr again
          have next (route : String) : route ∈ m.name :: seen ↔
              route ∈ (front ++ [m]).map DeclaredMethod.name := by
            rw [List.map_append, List.mem_append, List.mem_cons, List.map_singleton,
              List.mem_singleton, known, or_comm]
          have rest := ih (before.concat empty fresh) next
          rw [List.append_assoc, List.singleton_append] at rest
          exact rest

theorem validate_cases (c : Controller) :
    (c.validate = .ok () ∧ c.Valid) ∨ ∃ e, c.validate = .error e ∧ c.Invalid e := by
  unfold validate
  by_cases empty : c.name = ""
  · rw [if_pos (String.isEmpty_iff.mpr empty)]
    exact .inr ⟨_, rfl, .emptyName empty⟩
  · rw [if_neg (mt String.isEmpty_iff.mp empty)]
    by_cases named : WellNamed c.name
    · rw [if_neg (by rw [(isValidName_iff empty).mpr named]; decide)]
      have none : RoutesDistinct [] := ⟨by simp, List.nodup_nil⟩
      obtain ⟨valid, distinct⟩ | ⟨front, m, back, methods, before, fault⟩ :=
        validateRoutes_cases c.name c.methods none fun _ => Iff.rfl
      · exact .inl ⟨valid, named, distinct⟩
      · refine .inr ?_
        obtain ⟨emptyRoute, refused⟩ | ⟨nonempty, again, refused⟩ := fault
        · exact ⟨_, refused, .emptyRoute named methods before emptyRoute⟩
        · exact ⟨_, refused, .duplicateRoute named methods before nonempty again⟩
    · rw [if_pos (by rw [Bool.eq_false_iff.mpr (mt (isValidName_iff empty).mp named)]; rfl)]
      exact .inr ⟨_, rfl, .badName empty named⟩

theorem validate_eq_ok {c : Controller} : c.validate = .ok () ↔ c.Valid := by
  obtain ⟨ok, valid⟩ | ⟨e, failed, invalid⟩ := validate_cases c
  · exact iff_of_true ok valid
  · refine iff_of_false ?_ invalid.not_valid
    rw [failed]
    exact nofun

instance (c : Controller) : Decidable c.Valid :=
  decidable_of_iff _ validate_eq_ok

/-! ## One controller -/

/-- The class that a controller has in any company. -/
def adapter (s : Schema) (suffix : String) (c : Controller) : EmittedClass where
  name := c.className suffix
  controller := c.name
  interface := Module.dispatchInterface
  units := c.methods.filterMap fun m => (Emitter.emit s c.name m).toOption

def failure? (s : Schema) (c : Controller) (m : DeclaredMethod) : Option MethodFailure :=
  match Emitter.emit s c.name m with
  | .ok _ => none
  | .error errors => some ⟨c.name, m.name, errors⟩

def failures (s : Schema) (c : Controller) : List MethodFailure :=
  c.methods.filterMap (failure? s c)

variable {s : Schema} {suffix : String}

theorem emitMethods_eq (s : Schema) (c : Controller) (methods : List DeclaredMethod) :
    emitMethods s c.name methods =
      (methods.filterMap fun m => (Emitter.emit s c.name m).toOption,
        methods.filterMap (failure? s c)) := by
  induction methods with
  | nil => rfl
  | cons m methods ih =>
      rw [emitMethods, ih, List.filterMap_cons, List.filterMap_cons, failure?]
      cases Emitter.emit s c.name m <;> rfl

/-- Why a controller gets no class, if these class names are taken. -/
inductive Refused (taken : String → Prop) (suffix : String) (c : Controller) : ClassError → Prop
  | invalid {e : ClassError} (invalid : c.Invalid e) : Refused taken suffix c e
  | duplicateClass (valid : c.Valid) (known : taken (c.className suffix)) :
      Refused taken suffix c (.duplicateClass (c.className suffix))

theorem emitInto_cases (s : Schema) (suffix : String) (t : ClassTable) (c : Controller) :
    (c.Valid ∧ c.className suffix ∉ t.names ∧
      emitInto s suffix t c =
        (⟨[c.className suffix], [], c.failures s⟩, ⟨t.classes ++ [c.adapter s suffix]⟩)) ∨
    ¬(c.Valid ∧ c.className suffix ∉ t.names) ∧
      ∃ e, Refused (· ∈ t.names) suffix c e ∧
        emitInto s suffix t c = (⟨[], [⟨c.name, e⟩], []⟩, t) := by
  obtain ⟨ok, valid⟩ | ⟨e, failed, invalid⟩ := validate_cases c
  · have emitted : c.emit s suffix = .ok (c.adapter s suffix, c.failures s) := by
      simp only [emit, ok, emitMethods_eq]
      rfl
    have contained : t.contains (c.className suffix) ↔ c.className suffix ∈ t.names := by
      simp [ClassTable.contains, ClassTable.names]
    by_cases known : c.className suffix ∈ t.names
    · refine .inr ⟨fun both => both.2 known, _, .duplicateClass valid known, ?_⟩
      have refused : t.register (c.adapter s suffix) =
          .error (.duplicateClass (c.className suffix)) := if_pos (contained.mpr known)
      simp only [emitInto, emitAndRegister, emitted, bind, Except.bind, refused]
    · refine .inl ⟨valid, known, ?_⟩
      have added : t.register (c.adapter s suffix) =
          .ok ⟨t.classes ++ [c.adapter s suffix]⟩ := if_neg (mt contained.mp known)
      simp only [emitInto, emitAndRegister, emitted, bind, Except.bind, added]
      rfl
  · refine .inr ⟨fun both => invalid.not_valid both.1, e, .invalid invalid, ?_⟩
    simp only [emitInto, emitAndRegister, emit, failed, bind, Except.bind]

/-! ## Lists of controllers -/

/-- The class names that are taken after these controllers. -/
def Taken (suffix : String) (t : ClassTable) (before : List Controller) (name : String) : Prop :=
  name ∈ t.names ∨ ∃ c ∈ before, c.Valid ∧ c.className suffix = name

instance (suffix : String) (t : ClassTable) (before : List Controller) :
    DecidablePred (Taken suffix t before) :=
  fun _ => inferInstanceAs (Decidable (_ ∨ _))

/-- A controller of a list, with those before it. -/
structure Placed where
  before : List Controller
  controller : Controller

def placedAfter (before : List Controller) : List Controller → List Placed
  | [] => []
  | c :: rest => ⟨before, c⟩ :: placedAfter (before ++ [c]) rest

theorem placedAfter_concat (before controllers : List Controller) (c : Controller) :
    placedAfter before (controllers ++ [c]) =
      placedAfter before controllers ++ [⟨before ++ controllers, c⟩] := by
  induction controllers generalizing before with
  | nil => simp [placedAfter]
  | cons first controllers ih => simp [placedAfter, ih]

def Placed.Accepted (suffix : String) (t : ClassTable) (p : Placed) : Prop :=
  p.controller.Valid ∧ ¬Taken suffix t p.before (p.controller.className suffix)

instance (suffix : String) (t : ClassTable) : DecidablePred (Placed.Accepted suffix t) :=
  fun _ => inferInstanceAs (Decidable (_ ∧ _))

def accepted (suffix : String) (t : ClassTable) (controllers : List Controller) :
    List Controller :=
  ((placedAfter [] controllers).filter fun p => p.Accepted suffix t).map Placed.controller

def refused (suffix : String) (t : ClassTable) (controllers : List Controller) : List Placed :=
  (placedAfter [] controllers).filter fun p => ¬p.Accepted suffix t

theorem map_placedAfter (before controllers : List Controller) :
    (placedAfter before controllers).map Placed.controller = controllers := by
  induction controllers generalizing before with
  | nil => rfl
  | cons c controllers ih => rw [placedAfter, List.map_cons, ih]

theorem accepted_of_refused {t : ClassTable} {controllers : List Controller}
    (none : refused suffix t controllers = []) :
    accepted suffix t controllers = controllers ∧ ∀ c ∈ controllers, c.Valid := by
  have all : ∀ p ∈ placedAfter [] controllers, p.Accepted suffix t := by
    intro p member
    by_contra other
    have kept : p ∈ refused suffix t controllers :=
      List.mem_filter.mpr ⟨member, decide_eq_true other⟩
    rw [none] at kept
    cases kept
  constructor
  · rw [accepted, List.filter_eq_self.mpr fun p member => decide_eq_true (all p member),
      map_placedAfter]
  · intro c member
    rw [← map_placedAfter [] controllers] at member
    obtain ⟨p, placed, rfl⟩ := List.mem_map.mp member
    exact (all p placed).1

theorem accepted_concat (suffix : String) (t : ClassTable) (controllers : List Controller)
    (c : Controller) :
    accepted suffix t (controllers ++ [c]) =
      accepted suffix t controllers ++
        if Placed.Accepted suffix t ⟨controllers, c⟩ then [c] else [] := by
  rw [accepted, placedAfter_concat, List.filter_append, List.map_append, List.nil_append, accepted]
  by_cases one : Placed.Accepted suffix t ⟨controllers, c⟩ <;> simp [one]

theorem refused_concat (suffix : String) (t : ClassTable) (controllers : List Controller)
    (c : Controller) :
    refused suffix t (controllers ++ [c]) =
      refused suffix t controllers ++
        if Placed.Accepted suffix t ⟨controllers, c⟩ then [] else [⟨controllers, c⟩] := by
  rw [refused, placedAfter_concat, List.filter_append, List.nil_append, refused]
  by_cases one : Placed.Accepted suffix t ⟨controllers, c⟩ <;> simp [one]

theorem emitAll_concat (s : Schema) (suffix : String) (t : ClassTable)
    (controllers : List Controller) (c : Controller) :
    emitAll s suffix t (controllers ++ [c]) =
      let (report, t) := emitAll s suffix t controllers
      let (last, t) := emitInto s suffix t c
      (report.merge last, t) := by
  induction controllers generalizing t with
  | nil => simp [emitAll, Report.merge, Report.empty]
  | cons first controllers ih => simp [emitAll, ih, Report.merge]

/-- What becomes of the controllers of a list, each on its own but for the class names that are
taken before it. -/
structure Separate (s : Schema) (suffix : String) (t : ClassTable) (controllers : List Controller)
    (report : Report) (built : ClassTable) : Prop where
  classes : built.classes = t.classes ++ (accepted suffix t controllers).map (adapter s suffix)
  emitted : report.emitted = (accepted suffix t controllers).map (className suffix)
  refused : List.Forall₂
    (fun p f => f.controller = p.controller.name ∧
      Refused (Taken suffix t p.before) suffix p.controller f.error)
    (refused suffix t controllers) report.classFailures
  methods : report.methodFailures = (accepted suffix t controllers).flatMap (failures s)
  names : ∀ name, name ∈ built.names ↔ Taken suffix t controllers name
  distinct : t.names.Nodup → built.names.Nodup

theorem Taken.concat_iff {t : ClassTable} {before : List Controller} {c : Controller}
    {name : String} :
    Taken suffix t (before ++ [c]) name ↔
      Taken suffix t before name ∨ c.Valid ∧ c.className suffix = name := by
  simp only [Taken, List.mem_append, List.mem_singleton, or_and_right, exists_or, exists_eq_left,
    or_assoc]

section
variable {t built : ClassTable} {controllers : List Controller} {report : Report} {c : Controller}

theorem Separate.register (separate : Separate s suffix t controllers report built)
    (valid : c.Valid) (fresh : c.className suffix ∉ built.names) :
    Separate s suffix t (controllers ++ [c])
      (report.merge ⟨[c.className suffix], [], c.failures s⟩)
      ⟨built.classes ++ [c.adapter s suffix]⟩ := by
  obtain ⟨classes, emitted, refused, methods, names, distinct⟩ := separate
  have one : Placed.Accepted suffix t ⟨controllers, c⟩ := ⟨valid, mt (names _).mpr fresh⟩
  have added : ClassTable.names ⟨built.classes ++ [c.adapter s suffix]⟩ =
      built.names.concat (c.className suffix) := by
    simp [ClassTable.names, adapter]
  constructor
  · simp [accepted_concat, one, classes]
  · simp [accepted_concat, one, emitted, Report.merge]
  · simpa [refused_concat, one, Report.merge] using refused
  · simp [accepted_concat, one, methods, Report.merge]
  · intro name
    rw [added, List.concat_eq_append, List.mem_append, List.mem_singleton, names,
      Taken.concat_iff, and_iff_right valid, eq_comm]
  · intro apart
    rw [added]
    exact (distinct apart).concat fresh

theorem Separate.refuse {e : ClassError} (separate : Separate s suffix t controllers report built)
    (no : ¬(c.Valid ∧ c.className suffix ∉ built.names))
    (reason : Refused (· ∈ built.names) suffix c e) :
    Separate s suffix t (controllers ++ [c]) (report.merge ⟨[], [⟨c.name, e⟩], []⟩) built := by
  obtain ⟨classes, emitted, refused, methods, names, distinct⟩ := separate
  have none : ¬Placed.Accepted suffix t ⟨controllers, c⟩ := by
    rintro ⟨valid, free⟩
    exact no ⟨valid, mt (names _).mp free⟩
  have taken : (· ∈ built.names) = Taken suffix t controllers :=
    funext fun name => propext (names name)
  rw [taken] at reason
  constructor
  · simp [accepted_concat, none, classes]
  · simp [accepted_concat, none, emitted, Report.merge]
  · rw [refused_concat, if_neg none]
    exact List.rel_append refused (.cons ⟨rfl, reason⟩ .nil)
  · simp [accepted_concat, none, methods, Report.merge]
  · intro name
    rw [names, Taken.concat_iff]
    refine (or_iff_left_of_imp ?_).symm
    rintro ⟨valid, rfl⟩
    by_contra free
    exact none ⟨valid, free⟩
  · exact distinct

end

theorem emitAll_separate (s : Schema) (suffix : String) (t : ClassTable)
    (controllers : List Controller) :
    Separate s suffix t controllers (emitAll s suffix t controllers).1
      (emitAll s suffix t controllers).2 := by
  -- What is taken depends on all controllers before, so the list grows at its end.
  induction controllers using List.reverseRecOn with
  | nil =>
      exact ⟨(List.append_nil _).symm, rfl, .nil, rfl, fun name => by simp [Taken, emitAll], id⟩
  | append_singleton controllers c ih =>
      rw [emitAll_concat]
      dsimp only
      obtain ⟨valid, fresh, done⟩ | ⟨no, e, reason, done⟩ :=
        emitInto_cases s suffix (emitAll s suffix t controllers).2 c
      · rw [done]
        exact ih.register valid fresh
      · rw [done]
        exact ih.refuse no reason

end Controller
end RouteAdapter
