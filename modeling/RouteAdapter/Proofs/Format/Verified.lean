import RouteAdapter.Proofs.Format.Stored
import RouteAdapter.Proofs.Format.Taking
import RouteAdapter.Proofs.Lowering.Discipline

/-!
# Verification of stored forms

Verification looks at function ids, parameter counts and reflection, which a file does not hold as
they are. Where ids and counts fit a word, only reflection can be judged differently: flagged and
absent it passes, but it is written as a reflection of no functions.

* `Module.validate_ok`: what the structure of a module has passed;
* `Module.Lossless`: modules that verify exactly if their stored forms do;
* `Module.decode_encode_verified`: how a verified module is judged when it is read back.
-/

namespace RouteAdapter
open Verify

namespace Module

variable {m : Module}

/-! ## Structure -/

theorem validateClasses_ok {functions : Nat} {classes : List ClassDef} :
    validateClasses functions classes = .ok () ↔
      ∀ c ∈ classes, ∀ r ∈ c.methods, r.functionId < functions := by
  induction classes with
  | nil => simp [validateClasses]
  | cons c classes ih =>
      simp only [validateClasses, bind_eq_ok, List.forall_mem_cons, ih]
      constructor
      · rintro ⟨⟨⟩, first, rest⟩
        exact ⟨validateRoutes_ok.mp first, rest⟩
      · rintro ⟨first, rest⟩
        exact ⟨(), validateRoutes_ok.mpr first, rest⟩

/-- Past the header and the routes only the reflection is left. -/
theorem validate_of_routes (magic : m.magic = currentMagic) (version : m.version = currentVersion)
    (routes : ∀ c ∈ m.classes, ∀ r ∈ c.methods, r.functionId < m.functions.length) :
    m.validate =
      match m.reflection with
      | some r =>
        if r.length ≠ m.functions.length then
          .error (.reflectionCount r.length m.functions.length)
        else .ok ()
      | none => .ok () := by
  rw [validate, if_neg (not_not_intro magic), if_neg (not_not_intro version),
    validateClasses_ok.mpr routes]
  rfl

theorem validate_ok :
    m.validate = .ok () ↔ m.magic = currentMagic ∧ m.version = currentVersion ∧
      (∀ c ∈ m.classes, ∀ r ∈ c.methods, r.functionId < m.functions.length) ∧
        ∀ r ∈ m.reflection, r.length = m.functions.length := by
  constructor
  · intro valid
    have header : m.magic = currentMagic ∧ m.version = currentVersion ∧
        ∀ c ∈ m.classes, ∀ r ∈ c.methods, r.functionId < m.functions.length := by
      unfold validate at valid
      by_cases magic : m.magic = currentMagic
      · by_cases version : m.version = currentVersion
        · simp only [magic, version, ne_eq, not_true_eq_false, ↓reduceIte] at valid
          obtain ⟨⟨⟩, classes, -⟩ := bind_eq_ok.mp valid
          exact ⟨magic, version, validateClasses_ok.mp classes⟩
        · simp only [magic, version, ne_eq, not_true_eq_false, not_false_eq_true,
            ↓reduceIte] at valid
          cases valid
      · simp only [magic, ne_eq, not_false_eq_true, ↓reduceIte] at valid
        cases valid
    obtain ⟨magic, version, routes⟩ := header
    refine ⟨magic, version, routes, fun r present => ?_⟩
    rw [validate_of_routes magic version routes, Option.mem_def.mp present] at valid
    by_contra other
    cases valid.symm.trans (if_pos other)
  · rintro ⟨magic, version, routes, covered⟩
    rw [validate_of_routes magic version routes]
    cases present : m.reflection with
    | none => rfl
    | some r => exact if_neg (not_not_intro (covered r present))

/-! ## Functions -/

theorem checkDepth_stored (m : Module) (depth : Nat) (body : List Located) :
    checkDepth m.stored depth body = checkDepth m depth body :=
  checkDepth_eq_of_pops (m := m) (n := m.stored) (fun _ _ => rfl) depth

theorem checkRef_stored {f : Function} (fits : f.paramCount < UInt32.size) (i : Located) :
    checkRef f.stored m.stored i = checkRef f m i := by
  have count : f.stored.paramCount = f.paramCount := Nat.mod_eq_of_lt fits
  obtain ⟨offset, instruction⟩ := i
  cases instruction with
  | loadCtx => simp only [checkRef, count]
  | _ => rfl

/-- Past the structure a module and its stored form verify alike. -/
theorem verify_stored_ok (counts : ∀ f ∈ m.functions, f.paramCount < UInt32.size) :
    m.stored.verify = .ok () ↔
      m.stored.validate = .ok () ∧ ∀ f ∈ m.functions, f.verify m = .ok () := by
  have mapped : m.stored.functions = m.functions.map Function.stored := rfl
  rw [verify_ok, mapped, List.forall_mem_map]
  refine and_congr_right fun _ => forall₂_congr fun f member => ?_
  have refs (i : Located) := checkRef_stored (m := m) (counts f member) i
  rw [Function.verify_ok, Function.verify_ok]
  simp only [refs, checkDepth_stored]
  rfl

/-! ## Stored forms -/

theorem classes_stored
    (ids : ∀ c ∈ m.classes, ∀ r ∈ c.methods, r.functionId < UInt32.size) :
    m.stored.classes = m.classes := by
  refine map_eq_self fun c member => ?_
  have same : c.methods.map Route.stored = c.methods := by
    refine map_eq_self fun r used => ?_
    rw [Route.stored, Nat.mod_eq_of_lt (ids c member r used)]
  rw [ClassDef.stored, same]

/-- Nothing that verification looks at is lost in the encoding. -/
structure Lossless (m : Module) : Prop where
  functionIds : ∀ c ∈ m.classes, ∀ r ∈ c.methods, r.functionId < UInt32.size
  paramCounts : ∀ f ∈ m.functions, f.paramCount < UInt32.size
  reflection : m.reflection.isSome = flagsReflection m.flags

theorem Lossless.validate_stored (lossless : m.Lossless) : m.stored.validate = m.validate := by
  have classes := classes_stored lossless.functionIds
  have count : m.stored.functions.length = m.functions.length := List.length_map _
  have reflection : m.stored.reflection = m.reflection := by
    have flagged := lossless.reflection
    rw [stored]
    cases present : m.reflection with
    | none => simp_all
    | some r => simp_all
  have header : m.stored.magic = m.magic ∧ m.stored.version = m.version := ⟨rfl, rfl⟩
  simp only [validate, header, classes, count, reflection]

theorem Lossless.verify_stored (lossless : m.Lossless) :
    m.stored.verify = .ok () ↔ m.verify = .ok () := by
  rw [verify_stored_ok lossless.paramCounts, lossless.validate_stored, verify_ok]

theorem validate_stored (sized : m.Sized) (valid : m.validate = .ok ()) :
    m.stored.validate =
      if flagsReflection m.flags = true ∧ m.reflection = none ∧ m.functions ≠ [] then
        .error (.reflectionCount 0 m.functions.length)
      else .ok () := by
  obtain ⟨magic, version, routes, covered⟩ := validate_ok.mp valid
  have classes : m.stored.classes = m.classes := classes_stored fun c member r used =>
    Nat.lt_trans (routes c member r used) sized.functions.count
  have count : m.stored.functions.length = m.functions.length := List.length_map _
  have routes' : ∀ c ∈ m.stored.classes, ∀ r ∈ c.methods,
      r.functionId < m.stored.functions.length := by
    rwa [classes, count]
  have reflection : m.stored.reflection =
      if flagsReflection m.flags then some (m.reflection.getD []) else none := rfl
  rw [validate_of_routes (m := m.stored) magic version routes', reflection, count]
  cases flagged : flagsReflection m.flags with
  | false => simp
  | true =>
      cases present : m.reflection with
      | none => cases m.functions <;> simp
      | some r => simp [covered r present]

/-- A verified module is verified when it is written and read back, unless it has functions and its
flagged reflection is absent. -/
theorem decode_encode_verified (sized : m.Sized)
    (counts : ∀ f ∈ m.functions, f.paramCount < UInt32.size)
    (wellFormed : ∀ ty ∈ m.types, ty.WellFormed) (verified : m.verify = .ok ()) :
    ∃ n, decode m.encode = .ok n ∧
      n.verify =
        if flagsReflection m.flags = true ∧ m.reflection = none ∧ m.functions ≠ [] then
          .error (.malformed (.reflectionCount 0 m.functions.length))
        else .ok () := by
  obtain ⟨valid, functions⟩ := verify_ok.mp verified
  obtain ⟨magic, version, -, -⟩ := validate_ok.mp valid
  refine ⟨m.stored, decode_encode magic version sized wellFormed, ?_⟩
  have judged := validate_stored sized valid
  split
  · rename_i lost
    rw [if_pos lost] at judged
    rw [verify, judged]
    rfl
  · rename_i kept
    rw [if_neg kept] at judged
    exact (verify_stored_ok counts).mpr ⟨judged, functions⟩

/-- The module of one function, which returns the context. -/
def announcing (flags : UInt32) (reflection : Option Reflection) : Module :=
  { named "m" with
    flags := flags
    functions := [⟨"show", 1, 1, [0x12, 0x90]⟩]
    classes := [⟨"C", dispatchInterface, "C", [⟨"show", 0⟩]⟩]
    reflection := reflection }

/-- A reflection that is not announced is dropped, and what is left is verified. -/
theorem decode_encode_verified_unannounced :
    (announcing 0 (some [[]])).verify = .ok () ∧
      ∃ n, decode (announcing 0 (some [[]])).encode = .ok n ∧ n.verify = .ok () := by
  have verified : (announcing 0 (some [[]])).verify = .ok () := rfl
  obtain ⟨n, decoded, judged⟩ := decode_encode_verified (m := announcing 0 (some [[]]))
    (by decide +kernel) (by decide) (by decide) verified
  exact ⟨verified, n, decoded, judged.trans (if_neg (by decide))⟩

/-- A reflection that is announced and absent is written as one of no functions. -/
theorem verify_announced :
    (announcing reflectionFlag none).Sized ∧
      (∀ f ∈ (announcing reflectionFlag none).functions, f.paramCount < UInt32.size) ∧
      (∀ ty ∈ (announcing reflectionFlag none).types, ty.WellFormed) ∧
      (announcing reflectionFlag none).verify = .ok () ∧
      ∃ n, decode (announcing reflectionFlag none).encode = .ok n ∧
        n.verify = .error (.malformed (.reflectionCount 0 1)) := by
  have sized : (announcing reflectionFlag none).Sized := by decide +kernel
  refine ⟨sized, by decide, by decide, rfl, _, decode_encode rfl rfl sized (by decide), rfl⟩

end Module
end RouteAdapter
