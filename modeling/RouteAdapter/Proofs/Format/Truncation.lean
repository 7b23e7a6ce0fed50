import RouteAdapter.Proofs.Format.Corruption

/-!
# Truncated files

A reader that succeeds does the same on any part of its input that holds what it takes, and on less
it runs into the end. So no proper part of a file is read, not even with a checksum that fits it.

* `Reader.Cuts`: a reader against the front of its input;
* `Reader.Cuts.short`: what is taken of a record, less than the whole;
* `Module.decode_truncated`: the front of a file.
-/

namespace RouteAdapter
open Bytes Reader Digest

namespace Reader

variable {ε δ α β : Type} {ended : Nat → ε}

/-! ## Readers on the front of their input -/

/-- Where the reader succeeds, it does the same on the front of the input or finds that it ends. -/
def Cuts (ended : Nat → ε) (r : Reader ε α) : Prop :=
  ∀ position front back a c, r ⟨position, front ++ back⟩ = (.ok a, c) →
    (∃ rest, c.rest = rest ++ back ∧ r ⟨position, front⟩ = (.ok a, ⟨c.position, rest⟩)) ∨
      ∃ offset c', r ⟨position, front⟩ = (.error (ended offset), c')

/-- On less than these bytes the reader finds that the input ends. -/
def Short (ended : Nat → ε) (r : Reader ε α) (bytes : Bytes) : Prop :=
  ∀ position front back, front ++ back = bytes → back ≠ [] →
    ∃ offset c, r ⟨position, front⟩ = (.error (ended offset), c)

theorem bind_of_error {r : Reader ε α} {c c' : Cursor} {e : ε} (run : r c = (.error e, c'))
    (f : α → Reader ε β) : (r >>= f) c = (.error e, c') := by
  show Reader.bind r f c = _
  rw [Reader.bind, run]

theorem Cuts.pure (a : α) : Cuts ended (Pure.pure a : Reader ε α) := by
  intro position front back b c read
  obtain ⟨rfl, rfl⟩ := run_pure.mp read
  exact .inl ⟨front, rfl, rfl⟩

theorem Cuts.fail (e : ε) : Cuts ended (fail e : Reader ε α) :=
  fun _ _ _ _ _ read => (run_fail.mp read).elim

theorem Cuts.bind {r : Reader ε α} {f : α → Reader ε β} (first : Cuts ended r)
    (second : ∀ a, Cuts ended (f a)) : Cuts ended (r >>= f) := by
  intro position front back b c read
  obtain ⟨a, mid, head, tail⟩ := run_bind.mp read
  obtain ⟨rest, left, same⟩ | ⟨offset, c', failed⟩ := first _ _ _ _ _ head
  · obtain ⟨middle, unread⟩ := mid
    subst left
    rw [bind_of_run same]
    exact second a _ _ _ _ _ tail
  · exact .inr ⟨offset, c', bind_of_error failed f⟩

theorem Cuts.mapError {r : Reader ε α} (f : ε → δ) (cuts : Cuts ended r) :
    Cuts (fun offset => f (ended offset)) (mapError f r) := by
  intro position front back a c read
  obtain ⟨rest, left, same⟩ | ⟨offset, c', failed⟩ := cuts _ _ _ _ _ (run_mapError.mp read)
  · exact .inl ⟨rest, left, run_mapError.mpr same⟩
  · refine .inr ⟨offset, c', ?_⟩
    rw [Reader.mapError, failed]

theorem cuts_position : Cuts ended position := by
  intro start front back n c read
  cases read
  exact .inl ⟨front, rfl, rfl⟩

theorem cuts_byte : Cuts .unexpectedEnd byte := by
  intro position front back b c read
  cases front with
  | nil => exact .inr ⟨position, _, rfl⟩
  | cons first front =>
      cases read
      exact .inl ⟨front, rfl, rfl⟩

theorem cuts_four : Cuts .unexpectedEnd four := by
  intro position front back v c read
  match front with
  | _ :: _ :: _ :: _ :: front =>
      cases read
      exact .inl ⟨front, rfl, rfl⟩
  | [] | [_] | [_, _] | [_, _, _] => exact .inr ⟨position, _, rfl⟩

theorem cuts_word : Cuts .unexpectedEnd word :=
  .bind cuts_four fun _ => .pure _

theorem cuts_count : Cuts .unexpectedEnd count :=
  .bind cuts_word fun _ => .pure _

theorem cuts_take (n : Nat) : Cuts .unexpectedEnd (take n) := by
  intro position front back bytes c read
  simp only [take] at read ⊢
  cases parts : split? n front with
  | none => exact .inr ⟨position, _, rfl⟩
  | some parted =>
      obtain ⟨taken, rest⟩ := parted
      obtain ⟨rfl, rfl⟩ := eq_append_of_split? parts
      rw [List.append_assoc, split?_append] at read
      cases read
      exact .inl ⟨rest, rfl, rfl⟩

theorem cuts_text : Cuts .unexpectedEnd text := by
  refine .bind cuts_count fun n => .bind cuts_position fun start =>
    .bind (cuts_take n) fun bytes => ?_
  cases utf8? bytes with
  | none => exact .fail _
  | some s => exact .pure s

theorem Cuts.times {item : Reader ε α} (each : Cuts ended item) (n : Nat) :
    Cuts ended (times item n) := by
  induction n with
  | zero => exact .pure []
  | succ n ih => exact each.bind fun _ => ih.bind fun _ => .pure _

theorem Cuts.tableWith {lift : ReadError → ε} {item : Reader ε α}
    (each : Cuts (fun offset => lift (.unexpectedEnd offset)) item) :
    Cuts (fun offset => lift (.unexpectedEnd offset)) (tableWith lift item) :=
  .bind (.mapError lift cuts_count) fun n => each.times n

theorem Cuts.table {item : Reader ReadError α} (each : Cuts .unexpectedEnd item) :
    Cuts .unexpectedEnd (table item) :=
  each.tableWith

/-! ## Less than what is taken -/

theorem Cuts.short {r : Reader ε α} {bytes : Bytes} {a : α} (cuts : Cuts ended r)
    (reads : Reads r bytes a) : Short ended r bytes := by
  rintro position front back rfl lost
  have read := reads position []
  rw [List.append_nil] at read
  obtain ⟨rest, left, -⟩ | failed := cuts _ _ _ _ _ read
  · exact absurd (List.append_eq_nil_iff.mp left.symm).2 lost
  · exact failed

theorem Short.nil (r : Reader ε α) : Short ended r [] :=
  fun _ _ _ whole lost => absurd (List.append_eq_nil_iff.mp whole).2 lost

theorem Short.bind {r : Reader ε α} {f : α → Reader ε β} {head tail : Bytes} {a : α}
    (reads : Reads r head a) (first : Short ended r head) (second : Short ended (f a) tail) :
    Short ended (r >>= f) (head ++ tail) := by
  intro position front back whole lost
  obtain ⟨middle, rfl, rest⟩ | ⟨middle, rfl, rfl⟩ := List.append_eq_append_iff.mp whole
  · -- The cut is within the head, or at its end.
    cases middle with
    | nil =>
        obtain ⟨offset, c, failed⟩ := second (position + front.length) [] back rest lost
        have read := reads position []
        simp only [List.append_nil] at read
        exact ⟨offset, c, (bind_of_run read f).trans failed⟩
    | cons b middle =>
        obtain ⟨offset, c, failed⟩ := first position front (b :: middle) rfl (List.cons_ne_nil _ _)
        exact ⟨offset, c, bind_of_error failed f⟩
  · obtain ⟨offset, c, failed⟩ := second (position + head.length) middle back rfl lost
    exact ⟨offset, c, (bind_of_run (reads position middle) f).trans failed⟩

end Reader

/-! ## Records -/

theorem AccessorRef.cuts : Cuts .unexpectedEnd AccessorRef.read :=
  .bind cuts_text fun _ => .bind cuts_text fun _ => .bind cuts_byte fun _ => .pure _

theorem MethodRef.cuts : Cuts .unexpectedEnd MethodRef.read :=
  .bind cuts_text fun _ => .bind cuts_text fun _ => .bind cuts_byte fun _ => .pure _

theorem Function.cuts : Cuts .unexpectedEnd Function.read :=
  .bind cuts_text fun _ => .bind cuts_count fun _ => .bind cuts_count fun _ =>
    .bind cuts_count fun size => .bind (cuts_take size) fun _ => .pure _

theorem Route.cuts : Cuts .unexpectedEnd Route.read :=
  .bind cuts_text fun _ => .bind cuts_count fun _ => .pure _

theorem ClassDef.cuts : Cuts .unexpectedEnd ClassDef.read :=
  .bind cuts_text fun _ => .bind cuts_text fun _ => .bind cuts_text fun _ =>
    .bind (.table Route.cuts) fun _ => .pure _

theorem Metadata.cuts : Cuts .unexpectedEnd Metadata.read := by
  refine .bind cuts_text fun name => .bind cuts_byte fun presence => ?_
  split
  · exact .bind cuts_text fun _ => .pure _
  · exact .pure _

theorem ParamReflection.cuts : Cuts .unexpectedEnd ParamReflection.read :=
  .bind cuts_text fun _ => .bind cuts_text fun _ => .bind cuts_text fun _ =>
    .bind cuts_text fun _ => .pure _

theorem Reflection.cuts : Cuts .unexpectedEnd Reflection.read :=
  .table (.table ParamReflection.cuts)

theorem Pool.cuts : Cuts .unexpectedEnd Pool.read :=
  .bind (.table cuts_text) fun _ => .pure _

theorem Ty.cuts : Cuts (fun offset => ModuleError.read (.unexpectedEnd offset)) Ty.read := by
  refine .bind (.mapError ModuleError.read cuts_text) fun s => ?_
  cases Ty.ofText s with
  | error e => exact .fail _
  | ok ty => exact .pure ty

namespace Module

theorem readPayload_cuts (magic : Vector UInt8 4) (version flags : UInt32) :
    Cuts (fun offset => ModuleError.read (.unexpectedEnd offset))
      (readPayload magic version flags) := by
  refine .bind (.mapError _ Pool.cuts) fun _ =>
    .bind (.mapError _ (.table AccessorRef.cuts)) fun _ =>
    .bind (.mapError _ (.table MethodRef.cuts)) fun _ => .bind (.tableWith Ty.cuts) fun _ =>
    .bind (.mapError _ (.table Function.cuts)) fun _ =>
    .bind (.mapError _ (.table ClassDef.cuts)) fun _ =>
    .bind (.mapError _ Metadata.cuts) fun _ => ?_
  dsimp only
  split
  · exact .bind (.mapError _ Reflection.cuts) fun _ => .bind (.pure _) fun _ => .pure _
  · exact .bind (.pure _) fun _ => .pure _

/-! ## Files -/

/-- The header is read before any checksum is compared. -/
theorem read_short (payload : Bytes) (flags crc : UInt32) :
    Short (fun offset => ModuleError.read (.unexpectedEnd offset)) (Module.read payload)
      (currentMagic.toList ++ ofWord currentVersion ++ ofWord flags ++ ofWord crc) := by
  have letters := (reads_four currentMagic).mapError ModuleError.read
  have word (w : UInt32) := (reads_word w).mapError ModuleError.read
  have cuts := Cuts.mapError ModuleError.read cuts_word
  rw [List.append_assoc, List.append_assoc]
  refine .bind letters (Cuts.short (.mapError _ cuts_four) letters) ?_
  rw [if_neg (not_not_intro rfl)]
  refine .bind (word _) (cuts.short (word _)) ?_
  rw [if_neg (not_not_intro rfl)]
  refine .bind (word flags) (cuts.short (word flags)) ?_
  rw [← List.append_nil (ofWord crc)]
  exact .bind (word crc) (cuts.short (word crc)) (.nil _)

theorem patch_checksum (magic : Vector UInt8 4) (version flags crc : UInt32) (payload : Bytes)
    (w : UInt32) :
    patch? (file magic version flags crc payload) (headerSize - 4) w =
      some (file magic version flags w payload) := by
  have upTo : (magic.toList ++ ofWord version ++ ofWord flags).length = headerSize - 4 := by
    simp [length_ofWord, headerSize]
  have front : (file magic version flags crc payload).take (headerSize - 4) =
      magic.toList ++ ofWord version ++ ofWord flags := by
    rw [file, List.append_assoc, List.take_left' upTo]
  have back : (file magic version flags crc payload).drop (headerSize - 4 + 4) = payload :=
    drop_file magic version flags crc payload
  have inside : headerSize - 4 + 4 ≤ (file magic version flags crc payload).length := by
    rw [file, List.length_append, length_header]
    exact Nat.le_add_right headerSize payload.length
  rw [patch?, if_pos inside, front, back, file]

theorem take_encode {m : Module} {k : Nat} (behind : headerSize ≤ k) :
    m.encode.take k =
      file m.magic m.version m.flags (crc32 m.payload) (m.payload.take (k - headerSize)) := by
  rw [encode_eq_file, file, List.take_append, length_header,
    List.take_of_length_le ((length_header _ _ _ _).trans_le behind), file]

/-- The front of a file is not read: it ends too early or its checksum is another one, and with the
checksum of what is left it ends too early. -/
theorem decode_truncated {m : Module} (magic : m.magic = currentMagic)
    (version : m.version = currentVersion) (sized : m.Sized)
    (wellFormed : ∀ ty ∈ m.types, ty.WellFormed) {k : Nat} (short : k < m.encode.length) :
    ((∃ offset, decode (m.encode.take k) = .error (.read (.unexpectedEnd offset))) ∨
      decode (m.encode.take k) =
        .error (.checksum (crc32 m.payload) (crc32 (m.payload.take (k - headerSize))))) ∧
    (headerSize ≤ k →
      ∃ bytes, patch? (m.encode.take k) (headerSize - 4)
          (crc32 ((m.encode.take k).drop headerSize)) = some bytes ∧
        ∃ offset, decode bytes = .error (.read (.unexpectedEnd offset))) := by
  by_cases behind : headerSize ≤ k
  · have lost : m.payload.drop (k - headerSize) ≠ [] := by
      rw [← drop_encode, List.drop_drop, Nat.add_sub_cancel' behind]
      exact fun nothing => absurd (List.drop_eq_nil_iff.mp nothing) (Nat.not_le.mpr short)
    -- With a checksum that fits, what follows the header is read, and it is too short.
    have fitted : ∃ offset, decode (file m.magic m.version m.flags
        (crc32 (m.payload.take (k - headerSize))) (m.payload.take (k - headerSize))) =
          .error (.read (.unexpectedEnd offset)) := by
      rw [decode_file, if_neg (not_not_intro magic), if_neg (not_not_intro version),
        if_neg (not_not_intro rfl)]
      obtain ⟨offset, c, failed⟩ := (readPayload_cuts _ _ _).short (payload_reads sized wellFormed)
        headerSize _ _ (List.take_append_drop (k - headerSize) m.payload) lost
      exact ⟨offset, congrArg Prod.fst failed⟩
    rw [take_encode behind, drop_file, patch_checksum]
    refine ⟨?_, fun _ => ⟨_, rfl, fitted⟩⟩
    by_cases same : crc32 m.payload = crc32 (m.payload.take (k - headerSize))
    · rw [same]
      exact .inl fitted
    · exact .inr (decode_checksum magic version same)
  · rw [Nat.not_le, ← length_header m.magic m.version m.flags (crc32 m.payload)] at behind
    have front : m.encode.take k = (m.magic.toList ++ ofWord m.version ++ ofWord m.flags ++
        ofWord (crc32 m.payload)).take k := by
      rw [encode_eq_file, file, List.take_append_of_le_length (Nat.le_of_lt behind)]
    have lost : (m.magic.toList ++ ofWord m.version ++ ofWord m.flags ++
        ofWord (crc32 m.payload)).drop k ≠ [] :=
      fun nothing => absurd (List.drop_eq_nil_iff.mp nothing) (Nat.not_le.mpr behind)
    have cut := read_short ((m.encode.take k).drop headerSize) m.flags (crc32 m.payload)
    rw [← magic, ← version] at cut
    obtain ⟨offset, c, failed⟩ := cut 0 _ _ (List.take_append_drop k _) lost
    rw [← front] at failed
    refine ⟨.inl ⟨offset, congrArg Prod.fst failed⟩, fun longer => ?_⟩
    rw [length_header] at behind
    exact absurd longer (Nat.not_le.mpr behind)

/-- A file without its last section. -/
theorem decode_truncated_reflected :
    headerSize + reflected.body.length < reflected.encode.length ∧
      ∃ bytes, patch? (reflected.encode.take (headerSize + reflected.body.length)) (headerSize - 4)
          (crc32 reflected.body) = some bytes ∧
        ∃ offset, decode bytes = .error (.read (.unexpectedEnd offset)) := by
  have short : headerSize + reflected.body.length < reflected.encode.length := by decide +kernel
  have left : (reflected.encode.take (headerSize + reflected.body.length)).drop headerSize =
      reflected.body := by
    decide +kernel
  obtain ⟨-, fitted⟩ := decode_truncated rfl rfl reflected_sized reflected_wellFormed short
  rw [left] at fitted
  exact ⟨short, fitted (Nat.le_add_right _ _)⟩

end Module
end RouteAdapter
