import Mathlib.Algebra.GroupWithZero.Nat
import RouteAdapter.Code.Instruction
import RouteAdapter.Proofs.Outcome

/-!
# Bodies as bytes

What is written for a list of instructions is read back as that list, each instruction with the
offset of its opcode, and nothing else is read at all. Reading stops at the first byte that is no
opcode, or at the first operand that reaches past the end; all before it are whole instructions.

* `Code.decode_encode`: what was written is read back;
* `Code.exists_front`: any bytes are instructions and then a fault, if not all of them are
  instructions;
* `Code.decode_ok`, `Code.decode_error`: the bytes that are read, and the bytes that are not;
* `Code.decode_inverts_encode`: reading and writing as inverses;
* `Code.decode_faults`: what the errors say of the bytes.
-/

namespace RouteAdapter

theorem Opcode.eq_byte_of_ofByte? {code : UInt8} {op : Opcode} (known : ofByte? code = some op) :
    code = op.byte := by
  unfold ofByte? at known
  split at known <;> cases known <;> rfl

/-- The widths of the operands, in the order in which they follow the opcode. -/
def Opcode.widths : Opcode → List Nat
  | loadCtx | noContent | ret => []
  | box => [1]
  | constStr | convert => [4]
  | invokeAccessor | invokeController => [4, 1]

theorem Opcode.sum_widths (op : Opcode) : op.widths.sum = op.operandSize := by
  cases op <;> rfl

def ReadError.offset : ReadError → Nat
  | unexpectedEnd offset | invalidUtf8 offset | invalidOpcode _ offset => offset

namespace Code
open Bytes

variable {offset start stop p : Nat} {rest : Bytes} {e : ReadError}

/-! ## Writing and reading -/

theorem encode_cons (i : Instruction) (body : List Instruction) :
    encode (i :: body) = i.bytes ++ encode body := rfl

/-- Reading takes one instruction at a time. -/
theorem decodeFrom_append (offset : Nat) (i : Instruction) (rest : Bytes) :
    decodeFrom offset (i.bytes ++ rest) =
      (⟨offset, i⟩ :: ·) <$> decodeFrom (offset + i.size) rest := by
  cases i <;> simp only [Instruction.bytes, Instruction.operands, Instruction.opcode, ofWord,
    List.cons_append, List.nil_append, decodeFrom, Opcode.ofByte?_byte, toWord_ofWord]
  all_goals rfl

theorem decodeFrom_front (offset : Nat) (body : List Instruction) (rest : Bytes) :
    decodeFrom offset (encode body ++ rest) =
      (locate offset body ++ ·) <$> decodeFrom (offset + (encode body).length) rest := by
  induction body generalizing offset with
  | nil =>
      show decodeFrom offset rest = (fun located => located) <$> decodeFrom offset rest
      rw [id_map']
  | cons i body ih =>
      have length : (encode (i :: body)).length = i.size + (encode body).length := by
        rw [encode_cons, List.length_append, Instruction.length_bytes]
      rw [length, encode_cons, List.append_assoc, decodeFrom_append, ih, ← Nat.add_assoc]
      cases decodeFrom (offset + i.size + (encode body).length) rest <;> rfl

theorem decodeFrom_encode (offset : Nat) (body : List Instruction) :
    decodeFrom offset (encode body) = .ok (locate offset body) := by
  have front := decodeFrom_front offset body []
  rw [List.append_nil] at front
  rw [front]
  show Except.ok (locate offset body ++ []) = _
  rw [List.append_nil]

theorem decode_encode (body : List Instruction) : decode (encode body) = .ok (locate 0 body) :=
  decodeFrom_encode 0 body

theorem forall₂_locate {α : Type} {r : α → Instruction → Prop} {as : List α}
    {body : List Instruction} (related : List.Forall₂ r as body) (offset : Nat) :
    List.Forall₂ (fun a i => r a i.instruction) as (locate offset body) := by
  induction related generalizing offset with
  | nil => exact .nil
  | cons head _ ih => exact .cons head (ih _)

theorem map_locate (offset : Nat) (body : List Instruction) :
    (locate offset body).map Located.instruction = body := by
  induction body generalizing offset with
  | nil => rfl
  | cons i body ih => rw [locate, List.map_cons, ih]

theorem getElem?_locate (offset : Nat) (body : List Instruction) (i : Nat) :
    (locate offset body)[i]? =
      body[i]?.map fun j => ⟨offset + ((body.take i).map Instruction.size).sum, j⟩ := by
  induction body generalizing offset i with
  | nil => rfl
  | cons first body ih =>
      cases i with
      | zero => rfl
      | succ i =>
          rw [locate, List.getElem?_cons_succ, List.getElem?_cons_succ, ih, List.take_succ_cons,
            List.map_cons, List.sum_cons, Nat.add_assoc]

/-! ## Operands past the end -/

/-- Of fields with these widths, from `start` on, the one at `p` is the first that reaches past
`stop`. -/
inductive Overruns (stop p : Nat) : Nat → List Nat → Prop
  | here {width : Nat} {widths : List Nat} (begins : p ≤ stop) (past : stop < p + width) :
      Overruns stop p p (width :: widths)
  | later {start width : Nat} {widths : List Nat} (fits : start + width ≤ stop)
      (others : Overruns stop p (start + width) widths) : Overruns stop p start (width :: widths)

theorem Overruns.le {widths : List Nat} (overruns : Overruns stop p start widths) : p ≤ stop := by
  induction overruns with
  | here begins => exact begins
  | later _ _ ih => exact ih

theorem Overruns.lt_sum {widths : List Nat} (overruns : Overruns stop p start widths) :
    stop < start + widths.sum := by
  induction overruns with
  | here _ past =>
      rw [List.sum_cons]
      omega
  | later _ _ ih => rwa [List.sum_cons, ← Nat.add_assoc]

theorem exists_overruns {widths : List Nat} (begins : start ≤ stop)
    (past : stop < start + widths.sum) : ∃ p, Overruns stop p start widths := by
  induction widths generalizing start with
  | nil =>
      rw [List.sum_nil] at past
      omega
  | cons width widths ih =>
      by_cases fits : start + width ≤ stop
      · rw [List.sum_cons, ← Nat.add_assoc] at past
        obtain ⟨p, others⟩ := ih fits past
        exact ⟨p, .later fits others⟩
      · exact ⟨start, .here begins (Nat.lt_of_not_le fits)⟩

/-- Only calls have an operand behind another. -/
theorem Overruns.eq_ite {op : Opcode} (overruns : Overruns stop p start op.widths) :
    p = if op.isCall ∧ start + 4 ≤ stop then start + 4 else start := by
  generalize widths : op.widths = ws at overruns
  cases overruns with
  | @here width _ begins past =>
      refine (if_neg ?_).symm
      rintro ⟨call, fits⟩
      cases op with
      | invokeAccessor | invokeController =>
          cases widths
          omega
      | _ => cases call
  | later fits others =>
      cases op with
      | loadCtx | noContent | ret => cases widths
      | box | constStr | convert =>
          cases widths
          cases others
      | invokeAccessor | invokeController =>
          cases widths
          cases others with
          | here => exact (if_pos ⟨rfl, fits⟩).symm
          | later _ none => cases none

/-! ## Faults -/

/-- The bytes from `offset` on begin with a fault. -/
inductive Stuck (offset : Nat) : Bytes → ReadError → Prop
  | unknown {x : UInt8} {rest : Bytes} (none : Opcode.ofByte? x = none) :
      Stuck offset (x :: rest) (.invalidOpcode x offset)
  | cut {x : UInt8} {op : Opcode} {rest : Bytes} {p : Nat} (known : Opcode.ofByte? x = some op)
      (overruns : Overruns (offset + 1 + rest.length) p (offset + 1) op.widths) :
      Stuck offset (x :: rest) (.unexpectedEnd p)

theorem decodeFrom_cut {x : UInt8} {op : Opcode} (known : Opcode.ofByte? x = some op)
    (overruns : Overruns (offset + 1 + rest.length) p (offset + 1) op.widths) :
    decodeFrom offset (x :: rest) = .error (.unexpectedEnd p) := by
  cases op with
  | loadCtx | noContent | ret => cases overruns
  | box =>
      cases overruns with
      | later _ none => cases none
      | here _ past =>
          have few : rest.length < 1 := by omega
          match rest with
          | [] => simp [decodeFrom, known]
  | constStr | convert =>
      cases overruns with
      | later _ none => cases none
      | here _ past =>
          have few : rest.length < 4 := by omega
          match rest with
          | [] | [_] | [_, _] | [_, _, _] => simp [decodeFrom, known]
  | invokeAccessor | invokeController =>
      cases overruns with
      | here _ past =>
          have few : rest.length < 4 := by omega
          match rest with
          | [] | [_] | [_, _] | [_, _, _] => simp [decodeFrom, known]
      | later fits others =>
          cases others with
          | later _ none => cases none
          | here _ past =>
              have four : rest.length = 4 := by omega
              match rest with
              | [_, _, _, _] => simp only [decodeFrom, known]

theorem decodeFrom_stuck (stuck : Stuck offset rest e) : decodeFrom offset rest = .error e := by
  cases stuck with
  | unknown none => simp only [decodeFrom, none]
  | cut known overruns => exact decodeFrom_cut known overruns

/-- An opcode with enough bytes behind it begins an instruction. -/
theorem exists_instruction {op : Opcode} {bytes : Bytes} (enough : op.operandSize ≤ bytes.length) :
    ∃ (i : Instruction) (rest : Bytes), op.byte :: bytes = i.bytes ++ rest := by
  have front (i : Instruction) (rest : Bytes) (opcode : i.opcode = op)
      (operands : bytes = i.operands ++ rest) :
      ∃ (i : Instruction) (rest : Bytes), op.byte :: bytes = i.bytes ++ rest := by
    refine ⟨i, rest, ?_⟩
    rw [operands, ← opcode]
    rfl
  have word (a b c d : UInt8) (rest : Bytes) :
      a :: b :: c :: d :: rest = ofWord (toWord a b c d) ++ rest := by
    rw [ofWord_toWord]
    rfl
  have call (a b c d argc : UInt8) (rest : Bytes) :
      a :: b :: c :: d :: argc :: rest = (ofWord (toWord a b c d) ++ [argc]) ++ rest := by
    rw [word, List.append_assoc]
    rfl
  cases op with
  | loadCtx => exact front .loadCtx bytes rfl rfl
  | noContent => exact front .noContent bytes rfl rfl
  | ret => exact front .ret bytes rfl rfl
  | box =>
      match bytes with
      | tag :: rest => exact front (.box tag) rest rfl rfl
  | constStr =>
      match bytes with
      | a :: b :: c :: d :: rest => exact front (.constStr (toWord a b c d)) rest rfl (word ..)
  | convert =>
      match bytes with
      | a :: b :: c :: d :: rest => exact front (.convert (toWord a b c d)) rest rfl (word ..)
  | invokeAccessor =>
      match bytes with
      | a :: b :: c :: d :: argc :: rest =>
          exact front (.invokeAccessor (toWord a b c d) argc) rest rfl (call ..)
  | invokeController =>
      match bytes with
      | a :: b :: c :: d :: argc :: rest =>
          exact front (.invokeController (toWord a b c d) argc) rest rfl (call ..)

/-- Bytes begin with an instruction or a fault, unless there are none. -/
theorem instruction_or_stuck (offset : Nat) (code : Bytes) :
    code = [] ∨ (∃ (i : Instruction) (rest : Bytes), code = i.bytes ++ rest) ∨
      ∃ e, Stuck offset code e := by
  cases code with
  | nil => exact .inl rfl
  | cons x bytes =>
      right
      cases known : Opcode.ofByte? x with
      | none => exact .inr ⟨_, .unknown known⟩
      | some op =>
          by_cases enough : op.operandSize ≤ bytes.length
          · rw [Opcode.eq_byte_of_ofByte? known]
            exact .inl (exists_instruction enough)
          · have past : offset + 1 + bytes.length < offset + 1 + op.widths.sum := by
              rw [Opcode.sum_widths]
              omega
            obtain ⟨p, overruns⟩ := exists_overruns (Nat.le_add_right _ _) past
            exact .inr ⟨_, .cut known overruns⟩

theorem exists_front (offset : Nat) (code : Bytes) :
    ∃ body rest, code = encode body ++ rest ∧
      (rest = [] ∨ ∃ e, Stuck (offset + (encode body).length) rest e) := by
  -- The rest after an instruction is shorter than the bytes, but not their tail.
  induction length : code.length using Nat.strongRecOn generalizing offset code with
  | _ n ih =>
      obtain rfl | ⟨i, rest, rfl⟩ | stuck := instruction_or_stuck offset code
      · exact ⟨[], [], rfl, .inl rfl⟩
      · have shorter : rest.length < n := by
          rw [← length, List.length_append, Instruction.length_bytes, Instruction.size]
          omega
        obtain ⟨body, rest, rfl, ends⟩ := ih _ shorter (offset + i.size) rest rfl
        refine ⟨i :: body, rest, ?_, ?_⟩
        · rw [encode_cons, List.append_assoc]
        · rwa [encode_cons, List.length_append, Instruction.length_bytes, ← Nat.add_assoc]
      · exact ⟨[], code, rfl, .inr stuck⟩

theorem decodeFrom_ok {offset : Nat} {code : Bytes} {body : List Located} :
    decodeFrom offset code = .ok body ↔
      ∃ instructions, code = encode instructions ∧ body = locate offset instructions := by
  constructor
  · intro decoded
    obtain ⟨instructions, rest, rfl, rfl | ⟨e, stuck⟩⟩ := exists_front offset code
    · rw [List.append_nil, decodeFrom_encode] at decoded
      cases decoded
      exact ⟨instructions, List.append_nil _, rfl⟩
    · rw [decodeFrom_front, decodeFrom_stuck stuck] at decoded
      cases decoded
  · rintro ⟨instructions, rfl, rfl⟩
    exact decodeFrom_encode offset instructions

theorem decode_ok {code : Bytes} {body : List Located} :
    decode code = .ok body ↔
      ∃ instructions, code = encode instructions ∧ body = locate 0 instructions :=
  decodeFrom_ok

theorem decode_error {code : Bytes} :
    decode code = .error e ↔
      ∃ body rest, code = encode body ++ rest ∧ Stuck (encode body).length rest e := by
  constructor
  · intro failed
    obtain ⟨body, rest, rfl, ends⟩ := exists_front 0 code
    rw [Nat.zero_add] at ends
    obtain rfl | ⟨e', stuck⟩ := ends
    · rw [List.append_nil, decode_encode] at failed
      cases failed
    · rw [decode, decodeFrom_front, Nat.zero_add, decodeFrom_stuck stuck] at failed
      cases failed
      exact ⟨body, rest, rfl, stuck⟩
  · rintro ⟨body, rest, rfl, stuck⟩
    rw [decode, decodeFrom_front, Nat.zero_add, decodeFrom_stuck stuck]
    rfl

theorem decode_invalidOpcode {code : Bytes} {x : UInt8} {o : Nat} :
    decode code = .error (.invalidOpcode x o) ↔ ∃ body rest, o = (encode body).length ∧
      code = encode body ++ x :: rest ∧ Opcode.ofByte? x = none := by
  rw [decode_error]
  constructor
  · rintro ⟨body, rest, rfl, stuck⟩
    cases stuck with
    | unknown none => exact ⟨body, _, rfl, rfl, none⟩
  · rintro ⟨body, rest, rfl, rfl, none⟩
    exact ⟨body, _, rfl, .unknown none⟩

theorem decode_unexpectedEnd {code : Bytes} :
    decode code = .error (.unexpectedEnd p) ↔ ∃ body x op rest, code = encode body ++ x :: rest ∧
      Opcode.ofByte? x = some op ∧ Overruns code.length p ((encode body).length + 1) op.widths := by
  have length (body : List Instruction) (x : UInt8) (rest : Bytes) :
      (encode body ++ x :: rest).length = (encode body).length + 1 + rest.length := by
    rw [List.length_append, List.length_cons]
    omega
  rw [decode_error]
  constructor
  · rintro ⟨body, rest, rfl, stuck⟩
    cases stuck with
    | @cut x op rest _ known overruns =>
        exact ⟨body, x, op, rest, rfl, known, (length body x rest).symm ▸ overruns⟩
  · rintro ⟨body, x, op, rest, rfl, known, overruns⟩
    rw [length] at overruns
    exact ⟨body, _, rfl, .cut known overruns⟩

/-- Whole instructions in front of a byte. -/
theorem front_iff {code : Bytes} {o : Nat} {x : UInt8} :
    ((∃ located, decode (code.take o) = .ok located) ∧ code[o]? = some x) ↔
      ∃ body rest, o = (encode body).length ∧ code = encode body ++ x :: rest := by
  constructor
  · rintro ⟨⟨located, decoded⟩, here⟩
    obtain ⟨body, taken, -⟩ := decode_ok.mp decoded
    obtain ⟨bound, rfl⟩ := List.getElem?_eq_some_iff.mp here
    refine ⟨body, code.drop (o + 1), ?_, ?_⟩
    · rw [← taken, List.length_take_of_le (Nat.le_of_lt bound)]
    · rw [← taken, ← List.drop_eq_getElem_cons bound, List.take_append_drop]
  · rintro ⟨body, rest, rfl, rfl⟩
    refine ⟨⟨locate 0 body, ?_⟩, ?_⟩
    · rw [List.take_left]
      exact decode_encode body
    · rw [List.getElem?_append_right (Nat.le_refl _), Nat.sub_self, List.getElem?_cons_zero]

/-! ## The codec -/

/-- Reading inverts writing, with each instruction found behind the opcodes and operands of those
before it, and only what is written is read. -/
theorem decode_inverts_encode :
    (∀ body : List Instruction, ∃ located, decode (encode body) = .ok located ∧
      located.map Located.instruction = body ∧
      ∀ i l, located[i]? = some l →
        l.offset = ((body.take i).map fun j => 1 + j.opcode.operandSize).sum) ∧
    (∀ code located, decode code = .ok located →
      encode (located.map Located.instruction) = code) ∧
    ∀ code code' located located', decode code = .ok located → decode code' = .ok located' →
      located.map Located.instruction = located'.map Located.instruction → code = code' := by
  have writes {code : Bytes} {located : List Located} (decoded : decode code = .ok located) :
      encode (located.map Located.instruction) = code := by
    obtain ⟨body, rfl, rfl⟩ := decode_ok.mp decoded
    rw [map_locate]
  refine ⟨fun body => ?_, fun code located => writes, ?_⟩
  · refine ⟨locate 0 body, decode_encode body, map_locate 0 body, fun i l entry => ?_⟩
    rw [getElem?_locate, Option.map_eq_some_iff] at entry
    obtain ⟨j, -, rfl⟩ := entry
    exact Nat.zero_add _
  · intro code code' located located' decoded decoded' same
    rw [← writes decoded, same, writes decoded']

theorem decode_inverts_encode_call :
    let body : List Instruction := [.loadCtx, .constStr 3, .invokeAccessor 1 1, .convert 0,
      .invokeController 0 1, .box 2, .ret]
    let code : Bytes := [0x12, 0x09, 3, 0, 0, 0, 0xA0, 1, 0, 0, 0, 1, 0x30, 0, 0, 0, 0,
      0xA1, 0, 0, 0, 0, 1, 0x31, 2, 0x90]
    ∃ located, decode code = .ok located ∧ located.map Located.instruction = body ∧
      (∃ l, located[4]? = some l ∧ l.offset = 17) ∧ encode body = code := by
  intro body code
  obtain ⟨exact, -, unique⟩ := decode_inverts_encode
  obtain ⟨located, decoded, same, starts⟩ := exact body
  obtain ⟨found, decoded', same'⟩ : ∃ found, decode code = .ok found ∧
      found.map Located.instruction = body := ⟨_, rfl, rfl⟩
  have written : encode body = code := unique _ _ _ _ decoded decoded' (same.trans same'.symm)
  have length : 4 < located.length := by
    have counted := congrArg List.length same
    rw [List.length_map] at counted
    rw [counted]
    decide
  refine ⟨located, written ▸ decoded, same, ⟨located[4], ?_, ?_⟩, written⟩
  · exact List.getElem?_eq_getElem length
  · exact starts 4 _ (List.getElem?_eq_getElem length)

/-- The first fault is reported, behind whole instructions: a byte that is no opcode with its
offset, or the operands of an opcode that do not fit, with the offset of the first that does not. -/
theorem decode_faults (code : Bytes) :
    (∀ x o, decode code = .error (.invalidOpcode x o) ↔
      (∃ located, decode (code.take o) = .ok located) ∧ code[o]? = some x ∧
        Opcode.ofByte? x = none) ∧
    (∀ p, decode code = .error (.unexpectedEnd p) ↔
      ∃ o x op, (∃ located, decode (code.take o) = .ok located) ∧ code[o]? = some x ∧
        Opcode.ofByte? x = some op ∧ code.length < o + 1 + op.operandSize ∧
        Overruns code.length p (o + 1) op.widths ∧
        p = if op.isCall ∧ o + 5 ≤ code.length then o + 5 else o + 1) ∧
    (∀ p, decode code ≠ .error (.invalidUtf8 p)) ∧
    ∀ e, decode code = .error e → e.offset ≤ code.length := by
  refine ⟨fun x o => ?_, fun p => ?_, fun p failed => ?_, fun e failed => ?_⟩
  · rw [decode_invalidOpcode, ← and_assoc, front_iff]
    constructor
    · rintro ⟨body, rest, start, split, none⟩
      exact ⟨⟨body, rest, start, split⟩, none⟩
    · rintro ⟨⟨body, rest, start, split⟩, none⟩
      exact ⟨body, rest, start, split, none⟩
  · rw [decode_unexpectedEnd]
    constructor
    · rintro ⟨body, x, op, rest, split, known, overruns⟩
      obtain ⟨whole, here⟩ := front_iff.mpr ⟨body, rest, rfl, split⟩
      have past := overruns.lt_sum
      rw [Opcode.sum_widths] at past
      exact ⟨_, x, op, whole, here, known, past, overruns, overruns.eq_ite⟩
    · rintro ⟨o, x, op, whole, here, known, -, overruns, -⟩
      obtain ⟨body, rest, rfl, split⟩ := front_iff.mp ⟨whole, here⟩
      exact ⟨body, x, op, rest, split, known, overruns⟩
  · obtain ⟨body, rest, -, stuck⟩ := decode_error.mp failed
    cases stuck
  · obtain ⟨body, rest, rfl, stuck⟩ := decode_error.mp failed
    cases stuck with
    | unknown none =>
        rw [List.length_append]
        exact Nat.le_add_right _ _
    | cut known overruns =>
        obtain ⟨_, _, _, _, _, _, overruns⟩ := decode_unexpectedEnd.mp failed
        exact overruns.le

/-- A return and a call without its count, then a return and no opcode. -/
theorem decode_faults_call :
    let code : Bytes := [0x90, 0xA1, 7, 0, 0, 0]
    decode code = .error (.unexpectedEnd 6) ∧ 6 ≤ code.length ∧
      decode (code.set 1 0xEE) = .error (.invalidOpcode 0xEE 1) := by
  intro code
  obtain ⟨-, cut, -, inside⟩ := decode_faults code
  have front : ∃ located, decode [0x90] = .ok located := ⟨[⟨0, .ret⟩], rfl⟩
  have overruns : Overruns 6 6 2 Opcode.invokeController.widths :=
    .later (by decide) (.here (by decide) (by decide))
  have failed : decode code = .error (.unexpectedEnd 6) :=
    (cut 6).mpr ⟨1, 0xA1, .invokeController, front, rfl, rfl, by decide, overruns, rfl⟩
  obtain ⟨unknown, -⟩ := decode_faults (code.set 1 0xEE)
  exact ⟨failed, inside _ failed, (unknown 0xEE 1).mpr ⟨front, rfl, rfl⟩⟩

end Code
end RouteAdapter
