import RouteAdapter.Proofs.Digest.Burst
import RouteAdapter.Proofs.Format.Taking

/-!
# Altered files

Magic and version are compared with the current ones and the checksum covers what follows the
header. Nothing covers the flags: with other flags a file is still read, as the module with these
flags, unless they announce a reflection that is not there.

* `Module.decode_file`: reading a header and what follows it;
* `Module.encode_set`: the field that a byte of a file belongs to;
* `Module.decode_burst`: an altered window in the payload, or an altered checksum;
* `Module.decode_set`: one altered byte anywhere.
-/

namespace RouteAdapter
open Bytes Reader Digest

/-! ## Fields of the header -/

namespace Bytes

theorem exists_ofWord {bytes : Bytes} (four : bytes.length = 4) : ∃ w, ofWord w = bytes := by
  match bytes, four with
  | [a, b, c, d], _ => exact ⟨toWord a b c d, ofWord_toWord a b c d⟩

theorem ofWord_injective {w w' : UInt32} (same : ofWord w = ofWord w') : w = w' := by
  have read := reads_word w 0 []
  rw [same, reads_word w' 0 []] at read
  exact (Except.ok.inj (congrArg Prod.fst read)).symm

end Bytes

theorem Reader.fst_guard {ε α : Type} {p : Prop} [Decidable p] {e : ε} {rest : Unit → Reader ε α}
    {c : Cursor} :
    ((if p then fail e >>= rest else rest ()) c).1 = if p then .error e else (rest () c).1 := by
  by_cases failing : p
  · rw [if_pos failing, if_pos failing]
    rfl
  · rw [if_neg failing, if_neg failing]

namespace Module

def file (magic : Vector UInt8 4) (version flags crc : UInt32) (payload : Bytes) : Bytes :=
  magic.toList ++ ofWord version ++ ofWord flags ++ ofWord crc ++ payload

theorem encode_eq_file (m : Module) :
    m.encode = file m.magic m.version m.flags (crc32 m.payload) m.payload := rfl

theorem drop_file (magic : Vector UInt8 4) (version flags crc : UInt32) (payload : Bytes) :
    (file magic version flags crc payload).drop headerSize = payload := by
  apply List.drop_left'
  simp [length_ofWord, headerSize]

theorem decode_file (magic : Vector UInt8 4) (version flags crc : UInt32) (payload : Bytes) :
    decode (file magic version flags crc payload) =
      if magic ≠ currentMagic then .error (.magic magic)
      else if version ≠ currentVersion then .error (.version version)
      else if crc ≠ crc32 payload then .error (.checksum crc (crc32 payload))
      else (readPayload magic version flags ⟨headerSize, payload⟩).1 := by
  rw [decode, drop_file]
  simp only [Module.read, file, Cursor.start, List.append_assoc]
  rw [bind_of_run ((reads_four magic).mapError ModuleError.read _ _), fst_guard,
    bind_of_run ((reads_word version).mapError ModuleError.read _ _), fst_guard,
    bind_of_run ((reads_word flags).mapError ModuleError.read _ _),
    bind_of_run ((reads_word crc).mapError ModuleError.read _ _), fst_guard]
  simp only [Vector.length_toList, length_ofWord, headerSize, Nat.reduceAdd]

/-! ## Bursts -/

theorem decode_checksum {m : Module} (magic : m.magic = currentMagic)
    (version : m.version = currentVersion) {crc : UInt32} {payload : Bytes}
    (differ : crc ≠ crc32 payload) :
    decode (file m.magic m.version m.flags crc payload) =
      .error (.checksum crc (crc32 payload)) := by
  rw [decode_file, if_neg (not_not_intro magic), if_neg (not_not_intro version), if_pos differ]

theorem length_header (magic : Vector UInt8 4) (version flags crc : UInt32) :
    (magic.toList ++ ofWord version ++ ofWord flags ++ ofWord crc).length = headerSize := by
  simp [length_ofWord, headerSize]

theorem payload_of_encode {m : Module} {front window back : Bytes}
    (whole : m.encode = front ++ window ++ back) (behind : headerSize ≤ front.length) :
    m.payload = front.drop headerSize ++ window ++ back := by
  rw [← drop_encode m, whole, List.append_assoc, List.drop_append_of_le_length behind,
    List.append_assoc]

theorem append_window {m : Module} {front window back : Bytes}
    (whole : m.encode = front ++ window ++ back) (behind : headerSize ≤ front.length)
    (window' : Bytes) :
    front ++ window' ++ back = file m.magic m.version m.flags (crc32 m.payload)
      (front.drop headerSize ++ window' ++ back) := by
  have header := congrArg (List.take headerSize) whole
  rw [encode_eq_file, file, List.take_left' (length_header _ _ _ _), List.append_assoc front,
    List.take_append_of_le_length behind] at header
  conv_lhs => rw [← List.take_append_drop headerSize front]
  rw [file, header, List.append_assoc, List.append_assoc, List.append_assoc (front.drop headerSize)]

theorem append_checksum {m : Module} {front stored back : Bytes}
    (whole : m.encode = front ++ stored ++ back) (at12 : front.length = 12)
    (four : stored.length = 4) (w : UInt32) :
    stored = ofWord (crc32 m.payload) ∧
      front ++ ofWord w ++ back = file m.magic m.version m.flags w m.payload := by
  rw [encode_eq_file, file] at whole
  obtain ⟨upTo, rfl⟩ := List.append_inj whole (by simp [length_ofWord, at12, four])
  obtain ⟨rfl, rfl⟩ := List.append_inj upTo (by simp [length_ofWord, at12])
  exact ⟨rfl, rfl⟩

/-- The checksum notices whatever happens to four bytes in a row of the payload, or to itself. -/
theorem decode_burst {m : Module} (magic : m.magic = currentMagic)
    (version : m.version = currentVersion) :
    (∀ front window window' back, m.encode = front ++ window ++ back →
      headerSize ≤ front.length → window.length ≤ 4 → window'.length = window.length →
      window' ≠ window →
        decode (front ++ window' ++ back) = .error
          (.checksum (crc32 m.payload) (crc32 ((front ++ window' ++ back).drop headerSize)))) ∧
    (∀ front stored stored' back, m.encode = front ++ stored ++ back →
      front.length = 12 → stored.length = 4 → stored'.length = 4 → stored' ≠ stored →
        ∃ w, ofWord w = stored' ∧
          decode (front ++ stored' ++ back) = .error (.checksum w (crc32 m.payload))) := by
  constructor
  · intro front window window' back whole behind short length differ
    have noticed : crc32 m.payload ≠ crc32 (front.drop headerSize ++ window' ++ back) := by
      rw [payload_of_encode whole behind]
      exact fun same => differ (crc32_window length.symm short same).symm
    rw [append_window whole behind, drop_file]
    exact decode_checksum magic version noticed
  · intro front stored stored' back whole at12 four four' differ
    obtain ⟨w, rfl⟩ := exists_ofWord four'
    obtain ⟨rfl, altered⟩ := append_checksum whole at12 four w
    rw [altered]
    exact ⟨w, rfl, decode_checksum magic version fun same => differ (congrArg ofWord same)⟩

theorem decode_burst_named :
    (named "m").encode = (named "m").encode.take 44 ++ [109, 0] ++ [] ∧
      (∃ actual, decode ((named "m").encode.take 44 ++ [0, 109] ++ []) =
        .error (.checksum (crc32 (named "m").payload) actual)) ∧
      ∃ w, ofWord w = [1, 2, 3, 4] ∧
        decode ((named "m").encode.take 12 ++ [1, 2, 3, 4] ++ (named "m").encode.drop 16) =
          .error (.checksum w (crc32 (named "m").payload)) := by
  obtain ⟨payload, checksum⟩ := decode_burst (m := named "m") rfl rfl
  have whole : (named "m").encode = (named "m").encode.take 44 ++ [109, 0] ++ [] := by
    decide +kernel
  have stored : (named "m").encode = (named "m").encode.take 12 ++
      ((named "m").encode.drop 12).take 4 ++ (named "m").encode.drop 16 := by
    decide +kernel
  refine ⟨whole, ⟨_, payload _ _ [0, 109] _ whole (by decide +kernel) ?_ rfl (by decide)⟩, ?_⟩
  · decide
  · exact checksum _ _ _ _ stored (by decide +kernel) (by decide +kernel) rfl (by decide +kernel)

/-! ## Single bytes -/

theorem set_ne {bytes : Bytes} {p : Nat} {b : UInt8} (inside : p < bytes.length)
    (changed : b ≠ bytes[p]) : bytes.set p b ≠ bytes := by
  intro same
  have kept : (bytes.set p b)[p]? = bytes[p]? := by rw [same]
  rw [List.getElem?_set_self inside, List.getElem?_eq_getElem inside] at kept
  exact changed (Option.some.inj kept)

/-- A byte altered within a word. -/
theorem exists_set_word {front back : Bytes} {w : UInt32} {p : Nat} {b : UInt8}
    (altered : (front ++ ofWord w ++ back).set p b ≠ front ++ ofWord w ++ back)
    (after : front.length ≤ p) (before : p < front.length + 4) :
    ∃ w', w' ≠ w ∧ ofWord w' = (ofWord w).set (p - front.length) b ∧
      (front ++ ofWord w ++ back).set p b = front ++ ofWord w' ++ back := by
  obtain ⟨w', written⟩ : ∃ w', ofWord w' = (ofWord w).set (p - front.length) b :=
    exists_ofWord (by rw [List.length_set, length_ofWord])
  have inside : p < (front ++ ofWord w).length := by
    rw [List.length_append, length_ofWord]
    exact before
  have placed : (front ++ ofWord w ++ back).set p b = front ++ ofWord w' ++ back := by
    rw [List.set_append_left _ _ inside, List.set_append_right _ _ after, written]
  refine ⟨w', fun same => altered ?_, written, placed⟩
  rw [placed, same]

/-- The field that an altered byte belongs to. -/
theorem encode_set {m : Module} {p : Nat} {b : UInt8} (inside : p < m.encode.length)
    (changed : b ≠ m.encode[p]) :
    (p < 4 ∧ ∃ magic, magic ≠ m.magic ∧
      m.encode.set p b = file magic m.version m.flags (crc32 m.payload) m.payload) ∨
    (4 ≤ p ∧ p < 8 ∧ ∃ version, version ≠ m.version ∧
      m.encode.set p b = file m.magic version m.flags (crc32 m.payload) m.payload) ∨
    (8 ≤ p ∧ p < 12 ∧ ∃ flags, flags ≠ m.flags ∧ ofWord flags = (ofWord m.flags).set (p - 8) b ∧
      m.encode.set p b = file m.magic m.version flags (crc32 m.payload) m.payload) ∨
    (12 ≤ p ∧ p < 16 ∧ ∃ crc, crc ≠ crc32 m.payload ∧
      m.encode.set p b = file m.magic m.version m.flags crc m.payload) ∨
    (16 ≤ p ∧ ∃ payload, crc32 m.payload ≠ crc32 payload ∧
      m.encode.set p b = file m.magic m.version m.flags (crc32 m.payload) payload) := by
  have altered := set_ne inside changed
  have magicLength : m.magic.toList.length = 4 := Vector.length_toList
  obtain inMagic | inVersion | inFlags | inChecksum | inPayload :
      p < 4 ∨ (4 ≤ p ∧ p < 8) ∨ (8 ≤ p ∧ p < 12) ∨ (12 ≤ p ∧ p < 16) ∨ 16 ≤ p := by omega
  · have whole : m.encode.set p b =
        file (m.magic.set p b) m.version m.flags (crc32 m.payload) m.payload := by
      rw [encode_eq_file]
      simp only [file, List.append_assoc]
      rw [List.set_append_left _ _ (by omega), Vector.toList_set]
    refine .inl ⟨inMagic, _, fun same => altered ?_, whole⟩
    rw [whole, same, encode_eq_file]
  · have whole : m.encode = m.magic.toList ++ ofWord m.version ++
        (ofWord m.flags ++ (ofWord (crc32 m.payload) ++ m.payload)) := by
      simp only [encode_eq_file, file, List.append_assoc]
    rw [whole] at altered ⊢
    obtain ⟨version, differ, -, placed⟩ := exists_set_word altered (by omega) (by omega)
    refine .inr (.inl ⟨inVersion.1, inVersion.2, version, differ, ?_⟩)
    rw [placed]
    simp only [file, List.append_assoc]
  · have whole : m.encode = (m.magic.toList ++ ofWord m.version) ++ ofWord m.flags ++
        (ofWord (crc32 m.payload) ++ m.payload) := by
      simp only [encode_eq_file, file, List.append_assoc]
    have frontLength : (m.magic.toList ++ ofWord m.version).length = 8 := by
      rw [List.length_append, magicLength, length_ofWord]
    rw [whole] at altered ⊢
    obtain ⟨flags, differ, written, placed⟩ := exists_set_word altered (by omega) (by omega)
    rw [frontLength] at written
    refine .inr (.inr (.inl ⟨inFlags.1, inFlags.2, flags, differ, written, ?_⟩))
    rw [placed]
    simp only [file, List.append_assoc]
  · have frontLength : (m.magic.toList ++ ofWord m.version ++ ofWord m.flags).length = 12 := by
      simp only [List.length_append, magicLength, length_ofWord]
    rw [encode_eq_file, file] at altered ⊢
    obtain ⟨crc, differ, -, placed⟩ := exists_set_word altered (by omega) (by omega)
    exact .inr (.inr (.inr (.inl ⟨inChecksum.1, inChecksum.2, crc, differ, placed⟩)))
  · have whole : m.encode = m.encode.take p ++ [m.encode[p]] ++ m.encode.drop (p + 1) := by
      rw [List.append_assoc, List.singleton_append, List.getElem_cons_drop, List.take_append_drop]
    have behind : headerSize ≤ (m.encode.take p).length := by
      rw [List.length_take, headerSize]
      omega
    have placed : m.encode.set p b = m.encode.take p ++ [b] ++ m.encode.drop (p + 1) := by
      rw [List.set_eq_take_append_cons_drop, if_pos inside, List.append_assoc,
        List.singleton_append]
    rw [append_window whole behind] at placed
    refine .inr (.inr (.inr (.inr ⟨inPayload, _, ?_, placed⟩)))
    rw [payload_of_encode whole behind]
    intro same
    have kept : [m.encode[p]] = [b] := crc32_window rfl (by simp) same
    exact changed (List.singleton_inj.mp kept).symm

/-! ## Flags -/

/-- Without a reflection to read, announcing one runs into the end of the file. -/
theorem readPayload_newly_flagged {m : Module} (sized : m.Sized)
    (wellFormed : ∀ ty ∈ m.types, ty.WellFormed) (flags : UInt32)
    (plain : flagsReflection m.flags = false) (flagged : flagsReflection flags = true)
    (position : Nat) :
    ∃ e, (readPayload m.magic m.version flags ⟨position, m.payload⟩).1 = .error e := by
  rw [payload_eq_body, plain, readPayload_body sized wellFormed, flagged]
  exact ⟨_, rfl⟩

theorem exists_trailing {m : Module} {flags : UInt32}
    (kept : flagsReflection flags = true → flagsReflection m.flags = true) :
    ∃ trailing, m.payload = { m with flags := flags }.payload ++ trailing := by
  cases flagged : flagsReflection flags with
  | true =>
      refine ⟨[], ?_⟩
      simp only [payload, kept flagged, flagged, List.append_nil]
  | false =>
      refine ⟨if flagsReflection m.flags then Reflection.bytes (m.reflection.getD []) else [], ?_⟩
      simp only [payload, flagged, Bool.false_eq_true, ↓reduceIte, List.append_nil]

/-- The checksum does not cover the flags. -/
theorem decode_reflagged {m n : Module} {flags : UInt32} (magic : m.magic = currentMagic)
    (version : m.version = currentVersion) (sized : m.Sized)
    (wellFormed : ∀ ty ∈ m.types, ty.WellFormed) :
    decode (file m.magic m.version flags (crc32 m.payload) m.payload) = .ok n ↔
      (flagsReflection flags = true → flagsReflection m.flags = true) ∧
        n = { m with flags := flags }.stored := by
  rw [decode_file, if_neg (not_not_intro magic), if_neg (not_not_intro version),
    if_neg (not_not_intro rfl)]
  by_cases kept : flagsReflection flags = true → flagsReflection m.flags = true
  · have sized' : { m with flags := flags }.Sized :=
      ⟨sized.constants, sized.accessors, sized.methods, sized.types, sized.functions, sized.classes,
        sized.metadata, sized.reflection⟩
    obtain ⟨trailing, cut⟩ := exists_trailing kept
    have read := payload_reads sized' wellFormed headerSize trailing
    rw [cut, read]
    constructor
    · exact fun accepted => ⟨kept, (Except.ok.inj accepted).symm⟩
    · rintro ⟨-, rfl⟩
      rfl
  · obtain ⟨flagged, plain⟩ := Classical.not_imp.mp kept
    rw [Bool.not_eq_true] at plain
    obtain ⟨e, failed⟩ := readPayload_newly_flagged sized wellFormed flags plain flagged headerSize
    rw [failed]
    simp only [reduceCtorEq, kept, false_and]

/-- A file with one altered byte is rejected unless the byte is one of the flags; then it is read as
the module with the altered flags, if these do not announce a reflection that was not written. -/
theorem decode_set {m : Module} (magic : m.magic = currentMagic)
    (version : m.version = currentVersion) (sized : m.Sized)
    (wellFormed : ∀ ty ∈ m.types, ty.WellFormed) {p : Nat} {b : UInt8}
    (inside : p < m.encode.length) (changed : b ≠ m.encode[p]) (n : Module) :
    decode (m.encode.set p b) = .ok n ↔
      8 ≤ p ∧ p < 12 ∧ ∃ flags, ofWord flags = (ofWord m.flags).set (p - 8) b ∧
        (flagsReflection flags = true → flagsReflection m.flags = true) ∧
          n = { m with flags := flags }.stored := by
  obtain ⟨early, magic', differ, placed⟩ | ⟨-, early, version', differ, placed⟩ |
    ⟨late, early, flags, -, written, placed⟩ | ⟨late, -, crc, differ, placed⟩ |
    ⟨late, payload, differ, placed⟩ := encode_set inside changed
  · rw [placed, decode_file, if_pos (magic ▸ differ)]
    simp only [reduceCtorEq, false_iff]
    omega
  · rw [placed, decode_file, if_neg (not_not_intro magic), if_pos (version ▸ differ)]
    simp only [reduceCtorEq, false_iff]
    omega
  · rw [placed, decode_reflagged magic version sized wellFormed]
    constructor
    · exact fun accepted => ⟨late, early, flags, written, accepted⟩
    · rintro ⟨-, -, flags', written', accepted⟩
      rwa [ofWord_injective (written'.trans written.symm)] at accepted
  · rw [placed, decode_checksum magic version differ]
    simp only [reduceCtorEq, false_iff]
    omega
  · rw [placed, decode_checksum magic version differ]
    simp only [reduceCtorEq, false_iff]
    omega

def reflected : Module :=
  { named "m" with
    flags := reflectionFlag
    types := [.i32]
    functions := [⟨"show", 1, 0, [0x12, 0x90]⟩]
    reflection := some [[⟨"id", "id", "path", "i32"⟩]] }

theorem reflected_sized : reflected.Sized := by
  decide +kernel

theorem reflected_wellFormed : ∀ ty ∈ reflected.types, ty.WellFormed :=
  List.forall_mem_singleton.mpr (Ty.wellFormed_of_keyword .i32 (by decide))

theorem decode_set_reflected :
    decode (reflected.encode.set 8 0) = .ok { reflected with flags := 0 }.stored ∧
      (∀ n, decode (reflected.encode.set 40 1) ≠ .ok n) ∧
      ∀ n, decode (reflected.encode.set 6 1) ≠ .ok n := by
  have flags := decode_set (p := 8) (b := 0) rfl rfl reflected_sized reflected_wellFormed
    (by decide +kernel) (by decide +kernel)
  have payload := decode_set (p := 40) (b := 1) rfl rfl reflected_sized reflected_wellFormed
    (by decide +kernel) (by decide +kernel)
  have version := decode_set (p := 6) (b := 1) rfl rfl reflected_sized reflected_wellFormed
    (by decide +kernel) (by decide +kernel)
  refine ⟨(flags _).mpr ⟨by decide, by decide, 0, rfl, by decide, rfl⟩, ?_, ?_⟩
  · intro n accepted
    obtain ⟨-, early, -⟩ := (payload n).mp accepted
    omega
  · intro n accepted
    obtain ⟨late, -⟩ := (version n).mp accepted
    omega

/-- With one bit of the flags cleared the file is accepted, and its reflection is gone. -/
theorem decode_cleared_flag :
    reflected.magic = currentMagic ∧ reflected.version = currentVersion ∧ reflected.Sized ∧
      (∀ ty ∈ reflected.types, ty.WellFormed) ∧ reflected.encode[8]? = some 2 ∧
      decode (reflected.encode.set 8 0) =
        .ok { reflected with flags := 0, reflection := none } := by
  have cleared : reflected.encode.set 8 0 = file reflected.magic reflected.version 0
    (crc32 reflected.payload) reflected.payload := rfl
  refine ⟨rfl, rfl, reflected_sized, reflected_wellFormed, rfl, ?_⟩
  rw [cleared]
  exact (decode_reflagged rfl rfl reflected_sized reflected_wellFormed).mpr ⟨by decide, rfl⟩

end Module
end RouteAdapter
