import RouteAdapter.Proofs.Format.Module
import RouteAdapter.Proofs.Lowering.Tables

/-!
# Stored forms

A module and its stored form are written alike, so nothing is lost after the first time that a
module is written and read.

* `Pool.exact_ofStrings`: the rebuilt index of a pool answers first positions;
* `Module.encode_stored`: the stored form is written as the module is;
* `Module.decode_encode_stored`: the round trip of the format.
-/

namespace RouteAdapter
open Bytes

/-! ## The index of a pool -/

namespace Pool

/-- The index maps a string to its first position. -/
def Exact (pool : Pool) : Prop :=
  ∀ s i, Dict.get? pool.index s = some i ↔
    pool.strings[i.toNat]? = some s ∧ ∀ j < i.toNat, pool.strings[j]? ≠ some s

theorem idxOf?_eq_some {strings : List String} {s : String} {i : Nat} :
    strings.idxOf? s = some i ↔ strings[i]? = some s ∧ ∀ j < i, strings[j]? ≠ some s := by
  rw [List.idxOf?_eq_some_iff]
  constructor
  · rintro ⟨bound, found, before⟩
    refine ⟨by rw [List.getElem?_eq_getElem bound, found], fun j early same => ?_⟩
    obtain ⟨known, held⟩ := List.getElem?_eq_some_iff.mp same
    exact before j early held
  · rintro ⟨entry, before⟩
    obtain ⟨bound, found⟩ := List.getElem?_eq_some_iff.mp entry
    refine ⟨bound, found, fun j early held => before j early ?_⟩
    rw [List.getElem?_eq_getElem (Nat.lt_trans early bound), held]

theorem exact_ofStrings {strings : List String} (count : strings.length < UInt32.size) :
    (ofStrings strings).Exact := by
  intro s i
  rw [get?_index_ofStrings, Option.map_eq_some_iff]
  show _ ↔ strings[i.toNat]? = some s ∧ ∀ j < i.toNat, strings[j]? ≠ some s
  rw [← idxOf?_eq_some]
  constructor
  · rintro ⟨j, found, rfl⟩
    obtain ⟨bound, -⟩ := List.idxOf?_eq_some_iff.mp found
    rwa [UInt32.toNat_ofNat', Nat.mod_eq_of_lt (Nat.lt_trans bound count)]
  · intro found
    exact ⟨i.toNat, found, UInt32.ofNat_toNat⟩

end Pool

/-! ## What is written for a stored form -/

theorem Bytes.ofCount_mod (n : Nat) : ofCount (n % UInt32.size) = ofCount n := by
  have same : UInt32.ofNat (n % UInt32.size) = UInt32.ofNat n := by
    apply UInt32.toNat_inj.mp
    simp [UInt32.toNat_ofNat']
  rw [ofCount, same, ofCount]

theorem Bytes.ofTable_map {α β : Type} (f : α → β) (entry : β → Bytes) (entries : List α) :
    ofTable entry (entries.map f) = ofTable (fun a => entry (f a)) entries := by
  simp only [ofTable, List.length_map, List.flatMap_map]

theorem Function.bytes_stored (f : Function) : f.stored.bytes = f.bytes := by
  simp only [bytes, stored, ofCount_mod]

theorem Route.bytes_stored (r : Route) : r.stored.bytes = r.bytes := by
  simp only [bytes, stored, ofCount_mod]

theorem ClassDef.bytes_stored (c : ClassDef) : c.stored.bytes = c.bytes := by
  simp only [bytes, stored, ofTable_map, Route.bytes_stored]

namespace Module

theorem payload_stored (m : Module) : m.stored.payload = m.payload := by
  have functions : ofTable Function.bytes (m.functions.map Function.stored) =
      ofTable Function.bytes m.functions := by
    rw [ofTable_map]
    exact congrArg (fun entry => ofTable entry m.functions) (funext Function.bytes_stored)
  have classes : ofTable ClassDef.bytes (m.classes.map ClassDef.stored) =
      ofTable ClassDef.bytes m.classes := by
    rw [ofTable_map]
    exact congrArg (fun entry => ofTable entry m.classes) (funext ClassDef.bytes_stored)
  have constants : (Pool.ofStrings m.constants.strings).bytes = m.constants.bytes := rfl
  cases flagged : flagsReflection m.flags <;>
    simp [payload, stored, functions, classes, constants, flagged]

theorem encode_stored (m : Module) : m.stored.encode = m.encode := by
  have header : m.stored.magic = m.magic ∧ m.stored.version = m.version ∧
    m.stored.flags = m.flags := ⟨rfl, rfl, rfl⟩
  simp only [encode, payload_stored, header]

theorem fingerprint_stored (m : Module) : m.stored.fingerprint = m.fingerprint := by
  rw [fingerprint, encode_stored, fingerprint]

/-- Writing and reading a module reduces counts and ids modulo `UInt32.size`, has reflection exactly
when it is flagged, rebuilds the index of the pool, and changes nothing else. -/
theorem decode_encode_stored {m : Module} (magic : m.magic = currentMagic)
    (version : m.version = currentVersion) (sized : m.Sized)
    (wellFormed : ∀ ty ∈ m.types, ty.WellFormed) :
    ∃ n, decode m.encode = .ok n ∧
      n = { m with
        constants := ⟨m.constants.strings, n.constants.index⟩
        functions := m.functions.map fun f => { f with
          paramCount := f.paramCount % UInt32.size
          localCount := f.localCount % UInt32.size }
        classes := m.classes.map fun c => { c with
          methods := c.methods.map fun r => { r with functionId := r.functionId % UInt32.size } }
        reflection := if flagsReflection m.flags then some (m.reflection.getD []) else none } ∧
      n.constants.Exact ∧ n.encode = m.encode ∧ n.fingerprint = m.fingerprint :=
  ⟨m.stored, decode_encode magic version sized wellFormed, rfl,
    Pool.exact_ofStrings sized.constants.count, encode_stored m, fingerprint_stored m⟩

/-- A module whose counts and ids pass a word and whose flagged reflection is missing. -/
def oversized : Module :=
  { named "Users$Adapter" with
    flags := reflectionFlag
    constants := ⟨["id", "name", "id"], []⟩
    accessors := [⟨"path", "(str)->value", 1⟩]
    methods := [⟨"Users.show", "(i32)->str", 1⟩]
    types := [.i32, .option (.list .str)]
    functions := [⟨"show", 4294967297, 4294967296, [0x12, 0x90]⟩]
    classes := [⟨"Users$Adapter", dispatchInterface, "Users", [⟨"show", 4294967296⟩]⟩]
    metadata := ⟨"Users$Adapter", some "users.toml"⟩ }

theorem decode_encode_oversized :
    ∃ n, decode oversized.encode = .ok n ∧ n.functions = [⟨"show", 1, 0, [0x12, 0x90]⟩] ∧
      n.reflection = some [] ∧ n.constants.Exact ∧ n.encode = oversized.encode := by
  obtain ⟨n, decoded, normal, exact, encoded, -⟩ :=
    decode_encode_stored (m := oversized) rfl rfl (by decide +kernel) (by decide +kernel)
  refine ⟨n, decoded, ?_, ?_, exact, encoded⟩
  · rw [normal]
    rfl
  · rw [normal]
    rfl

end Module
end RouteAdapter
