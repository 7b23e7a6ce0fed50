import RouteAdapter.Proofs.Json.Integer
import RouteAdapter.Proofs.Text.Utf8
import RouteAdapter.Value.Convert

/-!
# Conversion to integers

An integer in plain decimal is converted alike from a raw value, a body of text and a JSON array: to
itself if the type holds it, and to an error if not. All that is asked of the reader of JSON is that
it reads an array of one integer exactly, as long as 64 bits hold it.

* `Ty.Holds`, `Value.IsInteger`: integral types and their values;
* `Value.ReadsIntegers`: what is asked of the reader;
* `Value.convertWith_text`, `Value.convertWith_bodyText`, `Value.convertWith_array`: the three
  sources;
* `Value.convertWith_integer`: all conversions, with any such reader;
* `Value.readsIntegers_jsonOfBytes`, `Value.convert_integer`: the reader of bodies.
-/

namespace RouteAdapter

/-- The integers that an integral type has a value for. -/
def Ty.Holds : Ty → Int → Prop
  | .i32, n => -0x80000000 ≤ n ∧ n < 0x80000000
  | .i64, n => -0x8000000000000000 ≤ n ∧ n < 0x8000000000000000
  | _, _ => False

theorem Ty.Holds.signed {ty : Ty} {n : Int} (holds : ty.Holds n) :
    -0x8000000000000000 ≤ n ∧ n < 0x8000000000000000 := by
  cases ty with
  | i32 | i64 =>
      simp only [Ty.Holds] at holds
      omega
  | _ => exact holds.elim

theorem Number.eq_of_int64? {x : Number} {n : Int} (held : x.int64? = some n) : x = .int n := by
  cases x with
  | int m =>
      obtain ⟨-, same⟩ := Option.ite_none_right_eq_some.mp held
      rw [Option.some.inj same]
  | float => cases held

namespace Value
open Text

/-- The value of an integral type that stands for an integer. -/
inductive IsInteger : Ty → Int → Value → Prop
  | i32 {n : Int} {v : Int32} (value : v.toInt = n) : IsInteger .i32 n (i32 v)
  | i64 {n : Int} {v : Int64} (value : v.toInt = n) : IsInteger .i64 n (i64 v)

/-- An array of one integer is read exactly, if 64 bits with a sign hold the integer. What a larger
one is read as, if it is read, has no such value. -/
structure ReadsIntegers (readJson : Bytes → Except BodyFault Json) : Prop where
  held {n : Int} {text : String} (single : Json.Single n text.toList) (holds : Ty.i64.Holds n) :
    readJson (Bytes.utf8 text) = .ok (.array [.number (.int n)])
  larger {n : Int} {text : String} (single : Json.Single n text.toList)
    (outside : ¬ Ty.i64.Holds n) {j : Json} (read : readJson (Bytes.utf8 text) = .ok j) :
    ∃ x : Number, x.int64? = none ∧ j = .array [.number x]

variable {ty : Ty} {n : Int} {text : String} {readJson : Bytes → Except BodyFault Json}

/-! ## Ranges -/

def ofInt? : Ty → Int → Option Value
  | .i32, n => (int32? n).map i32
  | .i64, n => (int64? n).map i64
  | _, _ => none

theorem ofInt?_of_holds (holds : ty.Holds n) : ∃ v, IsInteger ty n v ∧ ofInt? ty n = some v := by
  cases ty with
  | i32 =>
      obtain ⟨low, high⟩ := holds
      refine ⟨i32 (Int32.ofInt n), .i32 (Int32.toInt_ofInt_of_le low high), ?_⟩
      rw [ofInt?, int32?, if_pos (by omega)]
      rfl
  | i64 =>
      obtain ⟨low, high⟩ := holds
      refine ⟨i64 (Int64.ofInt n), .i64 (Int64.toInt_ofInt_of_le low high), ?_⟩
      rw [ofInt?, int64?, if_pos (by omega)]
      rfl
  | _ => exact holds.elim

theorem ofInt?_of_not_holds (outside : ¬ ty.Holds n) : ofInt? ty n = none := by
  cases ty with
  | i32 =>
      have range : ¬ (-0x80000000 ≤ n ∧ n < 0x80000000) := outside
      rw [ofInt?, int32?, if_neg range]
      rfl
  | i64 =>
      have range : ¬ (-0x8000000000000000 ≤ n ∧ n < 0x8000000000000000) := outside
      rw [ofInt?, int64?, if_neg range]
      rfl
  | _ => rfl

/-- What 64 bits with a sign do not hold, no integral type holds. -/
theorem bind_int64? (ty : Ty) (n : Int) : (Number.int n).int64?.bind (ofInt? ty) = ofInt? ty n := by
  rw [Number.int64?]
  split
  · rfl
  · rename_i range
    exact (ofInt?_of_not_holds fun holds => range holds.signed).symm

/-! ## Texts -/

theorem not_isBlank_of_numeric {c : Char} (numeric : c = '-' ∨ c.isDigit = true) :
    isBlank c = false := by
  obtain rfl | digit := numeric
  · rfl
  · obtain ⟨low, high⟩ : 48 ≤ c.toNat ∧ c.toNat ≤ 57 := Char.isDigit_iff_toNat.mp digit
    simp only [isBlank, Bool.or_eq_false_iff, Bool.and_eq_false_iff, beq_eq_false_iff_ne,
      decide_eq_false_iff_not]
    omega

theorem trim_integer (padded : Padded isBlank (toString n).toList text.toList) :
    trim text.toList = (toString n).toList := by
  obtain ⟨front, back, before, after, split⟩ := padded
  rw [split, trim_padded before _ after]
  refine trim_eq_self (fun c first => ?_) fun c last => ?_
  · exact not_isBlank_of_numeric (Decimal.numeric_toString n (List.mem_of_head? first))
  · exact not_isBlank_of_numeric (Decimal.numeric_toString n (List.mem_of_getLast? last))

theorem not_isBlank_integer (padded : Padded isBlank (toString n).toList text.toList)
    (type : Option String) : Body.isBlank ⟨type, Bytes.utf8 text⟩ = false := by
  obtain ⟨front, back, -, -, split⟩ := padded
  obtain ⟨digits, spelled, numeral⟩ := Decimal.exists_digits n
  obtain ⟨c, member⟩ := List.exists_mem_of_ne_nil digits spelled.ne_nil
  have inside : c ∈ text.toList := by
    rw [split, numeral]
    exact List.mem_append_left _ (List.mem_append_right _ (List.mem_append_right _ member))
  obtain ⟨low, high⟩ := Char.isDigit_iff_toNat.mp (spelled.isDigit c member)
  have visible : ∀ k < 58, 48 ≤ k → isBlankByte (UInt8.ofNat k) = false := by decide
  have byte := Bytes.mem_utf8 inside (high.trans (by decide))
  exact List.all_eq_false.mpr ⟨_, byte, Bool.not_eq_true _ ▸ visible _ (Nat.lt_succ_of_le high) low⟩

section

variable (integral : ty = .i32 ∨ ty = .i64)

include integral

theorem ofScalarText_integer (padded : Padded isBlank (toString n).toList text.toList)
    (name : String) :
    ofScalarText name text ty = (ofInt? ty n).elim (.error (.invalid name text ty)) .ok := by
  have read := Decimal.int?_toString n
  obtain rfl | rfl := integral <;>
    simp only [ofScalarText, trim_integer padded, read, ofInt?, Option.bind_some]

theorem convertWith_text (padded : Padded isBlank (toString n).toList text.toList) (name : String)
    (more : List String) :
    (raw ⟨name, text :: more⟩).convertWith readJson ty =
      (ofInt? ty n).elim (.error (.invalid name text ty)) .ok := by
  have first : (raw ⟨name, text :: more⟩).convertWith readJson ty = ofScalarText name text ty := by
    obtain rfl | rfl := integral <;> rfl
  rw [first, ofScalarText_integer integral padded]

/-! ## Bodies -/

theorem convertWith_bodyText (padded : Padded isBlank (toString n).toList text.toList)
    (type : Option String) :
    (body ⟨type, Bytes.utf8 text⟩).convertWith readJson ty =
      (ofInt? ty n).elim (.error (.invalid "body" text ty)) .ok := by
  have visible := not_isBlank_integer padded type
  have decoded : decodeUtf8 (Bytes.utf8 text) = .ok text := by rw [decodeUtf8, Bytes.utf8?_utf8]
  have whole : (body ⟨type, Bytes.utf8 text⟩).convertWith readJson ty =
      ofScalarText "body" text ty := by
    obtain rfl | rfl := integral
    · show ofBody readJson _ .i32 = _
      simp only [ofBody, Ty.isPrimitive, visible, decoded, if_true, Bool.false_eq_true, if_false]
    · show ofBody readJson _ .i64 = _
      simp only [ofBody, Ty.isPrimitive, visible, decoded, if_true, Bool.false_eq_true, if_false]
  rw [whole, ofScalarText_integer integral padded]

theorem ofJson_number (x : Number) :
    ofJson ty (.number x) = (x.int64?.bind (ofInt? ty)).elim (.error (.outOfRange x ty)) .ok := by
  obtain rfl | rfl := integral
  · have value : x.int64?.bind (ofInt? .i32) = (x.int64?.bind int32?).map i32 :=
      Option.map_bind.symm
    rw [ofJson, value]
    cases x.int64?.bind int32? <;> rfl
  · have value : x.int64?.bind (ofInt? .i64) = (x.int64?.bind int64?).map i64 :=
      Option.map_bind.symm
    rw [ofJson, value]
    cases x.int64?.bind int64? <;> rfl

omit integral in
theorem ofJson_single (ty : Ty) (j : Json) :
    ofJson (.list ty) (.array [j]) = (ofJson ty j).map fun v => list [v] := by
  rw [ofJson, List.mapM_cons, List.mapM_nil]
  cases ofJson ty j <;> rfl

theorem convertWith_array (reads : ReadsIntegers readJson)
    (single : Json.Single n text.toList) (type : Option String) :
    ∃ fault, (body ⟨type, Bytes.utf8 text⟩).convertWith readJson (.list ty) =
      (ofInt? ty n).elim (.error (.body (.list ty) fault)) fun v => .ok (list [v]) := by
  have whole : (body ⟨type, Bytes.utf8 text⟩).convertWith readJson (.list ty) =
      ofJsonBody readJson ⟨type, Bytes.utf8 text⟩ (.list ty) := rfl
  have number (x : Number) (read : readJson (Bytes.utf8 text) = .ok (.array [.number x])) :
      ofJsonBody readJson ⟨type, Bytes.utf8 text⟩ (.list ty) =
        (x.int64?.bind (ofInt? ty)).elim (.error (.body (.list ty) (.outOfRange x ty)))
          fun v => .ok (list [v]) := by
    rw [ofJsonBody, read]
    show (ofJson (.list ty) (.array [.number x])).mapError _ = _
    rw [ofJson_single, ofJson_number integral]
    cases x.int64?.bind (ofInt? ty) <;> rfl
  rw [whole]
  by_cases holds : Ty.i64.Holds n
  · rw [number _ (reads.held single holds), bind_int64?]
    exact ⟨_, rfl⟩
  · rw [ofInt?_of_not_holds fun held => holds held.signed]
    cases read : readJson (Bytes.utf8 text) with
    | error fault =>
        rw [ofJsonBody, read]
        exact ⟨fault, rfl⟩
    | ok j =>
        obtain ⟨x, none, rfl⟩ := reads.larger single holds read
        rw [number x read, none]
        exact ⟨_, rfl⟩

end

/-- An integral type has the same bounds in all conversions to it, with any reader of JSON that is
exact for what 64 bits hold. -/
theorem convertWith_integer (reads : ReadsIntegers readJson) (integral : ty = .i32 ∨ ty = .i64)
    (n : Int) :
    (ty.Holds n → ∃ v, IsInteger ty n v ∧
      (∀ name text more, Padded isBlank (toString n).toList text.toList →
        (raw ⟨name, text :: more⟩).convertWith readJson ty = .ok v) ∧
      (∀ type text, Padded isBlank (toString n).toList text.toList →
        (body ⟨type, Bytes.utf8 text⟩).convertWith readJson ty = .ok v) ∧
      ∀ type text, Json.Single n text.toList →
        (body ⟨type, Bytes.utf8 text⟩).convertWith readJson (.list ty) = .ok (list [v])) ∧
    (¬ ty.Holds n →
      (∀ name text more, Padded isBlank (toString n).toList text.toList →
        (raw ⟨name, text :: more⟩).convertWith readJson ty = .error (.invalid name text ty)) ∧
      (∀ type text, Padded isBlank (toString n).toList text.toList →
        (body ⟨type, Bytes.utf8 text⟩).convertWith readJson ty =
          .error (.invalid "body" text ty)) ∧
      ∀ type text, Json.Single n text.toList → ∃ fault,
        (body ⟨type, Bytes.utf8 text⟩).convertWith readJson (.list ty) =
          .error (.body (.list ty) fault)) := by
  constructor
  · intro holds
    obtain ⟨v, value, found⟩ := ofInt?_of_holds holds
    refine ⟨v, value, fun name text more padded => ?_, fun type text padded => ?_,
      fun type text single => ?_⟩
    · rw [convertWith_text integral padded, found, Option.elim_some]
    · rw [convertWith_bodyText integral padded, found, Option.elim_some]
    · obtain ⟨fault, converted⟩ := convertWith_array integral reads single type
      rw [converted, found, Option.elim_some]
  · intro outside
    have missing := ofInt?_of_not_holds outside
    refine ⟨fun name text more padded => ?_, fun type text padded => ?_, fun type text single => ?_⟩
    · rw [convertWith_text integral padded, missing, Option.elim_none]
    · rw [convertWith_bodyText integral padded, missing, Option.elim_none]
    · obtain ⟨fault, converted⟩ := convertWith_array integral reads single type
      exact ⟨fault, by rw [converted, missing, Option.elim_none]⟩

/-! ## The reader of bodies -/

theorem readsIntegers_jsonOfBytes : ReadsIntegers jsonOfBytes := by
  have document {n : Int} {text : String} (single : Json.Single n text.toList) :
      ∃ number : Option Number, number.bind Number.int64? = (Number.int n).int64? ∧
        jsonOfBytes (Bytes.utf8 text) =
          (number.map fun x => Json.array [.number x]).elim (.error .syntaxError) .ok := by
    obtain ⟨number, exact_, read⟩ := Json.parse?_single single
    refine ⟨number, exact_, ?_⟩
    rw [jsonOfBytes, Bytes.utf8?_utf8, Option.bind_some, read]
    cases number <;> rfl
  constructor
  · intro n text single holds
    obtain ⟨number, exact_, read⟩ := document single
    have held : (Number.int n).int64? = some n := if_pos holds
    obtain ⟨x, rfl, same⟩ := Option.bind_eq_some_iff.mp (exact_.trans held)
    rw [read, Number.eq_of_int64? same]
    rfl
  · intro n text single outside j read
    obtain ⟨number, exact_, document⟩ := document single
    have larger : (Number.int n).int64? = none := if_neg outside
    cases number with
    | none => cases document.symm.trans read
    | some x =>
        cases document.symm.trans read
        exact ⟨x, exact_.trans larger, rfl⟩

/-- An integral type has the same bounds in all conversions to it. -/
theorem convert_integer (integral : ty = .i32 ∨ ty = .i64) (n : Int) :
    (ty.Holds n → ∃ v, IsInteger ty n v ∧
      (∀ name text more, Padded isBlank (toString n).toList text.toList →
        (raw ⟨name, text :: more⟩).convert ty = .ok v) ∧
      (∀ type text, Padded isBlank (toString n).toList text.toList →
        (body ⟨type, Bytes.utf8 text⟩).convert ty = .ok v) ∧
      ∀ type text, Json.Single n text.toList →
        (body ⟨type, Bytes.utf8 text⟩).convert (.list ty) = .ok (list [v])) ∧
    (¬ ty.Holds n →
      (∀ name text more, Padded isBlank (toString n).toList text.toList →
        (raw ⟨name, text :: more⟩).convert ty = .error (.invalid name text ty)) ∧
      (∀ type text, Padded isBlank (toString n).toList text.toList →
        (body ⟨type, Bytes.utf8 text⟩).convert ty = .error (.invalid "body" text ty)) ∧
      ∀ type text, Json.Single n text.toList → ∃ fault,
        (body ⟨type, Bytes.utf8 text⟩).convert (.list ty) = .error (.body (.list ty) fault)) :=
  convertWith_integer readsIntegers_jsonOfBytes integral n

theorem convert_integer_bound :
    let text := "\u00A02147483648\n"
    let document := "[ 2147483648]\n"
    (raw ⟨"id", [text]⟩).convert .i32 = .error (.invalid "id" text .i32) ∧
    (body (Body.ofText text)).convert .i32 = .error (.invalid "body" text .i32) ∧
    (∃ fault, (body (Body.ofJson document)).convert (.list .i32) =
      .error (.body (.list .i32) fault)) ∧
    ∃ v, IsInteger .i64 2147483648 v ∧
      (raw ⟨"id", [text]⟩).convert .i64 = .ok v ∧
      (body (Body.ofText text)).convert .i64 = .ok v ∧
      (body (Body.ofJson document)).convert (.list .i64) = .ok (list [v]) := by
  intro text document
  have padded : Padded isBlank (toString (2147483648 : Int)).toList text.toList :=
    ⟨['\u00A0'], ['\n'], List.forall_mem_singleton.mpr rfl, List.forall_mem_singleton.mpr rfl,
      by decide⟩
  have single : Json.Single 2147483648 document.toList :=
    ⟨" 2147483648".toList, ⟨[' '], [], List.forall_mem_singleton.mpr rfl, nofun, by decide⟩,
      [], ['\n'], nofun, List.forall_mem_singleton.mpr rfl, by decide⟩
  obtain ⟨-, above⟩ := convert_integer (.inl rfl : Ty.i32 = .i32 ∨ _) 2147483648
  obtain ⟨below, -⟩ := convert_integer (.inr rfl : Ty.i64 = .i32 ∨ _) 2147483648
  obtain ⟨raw32, text32, json32⟩ := above (by simp [Ty.Holds])
  obtain ⟨v, value, raw64, text64, json64⟩ := below (by simp [Ty.Holds])
  exact ⟨raw32 _ _ _ padded, text32 _ _ padded, json32 _ _ single, v, value,
    raw64 _ _ _ padded, text64 _ _ padded, json64 _ _ single⟩

end Value
end RouteAdapter
