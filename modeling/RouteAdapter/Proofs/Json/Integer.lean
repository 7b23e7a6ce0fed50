import RouteAdapter.Json.Reader
import RouteAdapter.Proofs.Decimal.Integer
import RouteAdapter.Proofs.Text.Blank
import RouteAdapter.Proofs.Text.Word

/-!
# Integers in JSON documents

An integer in plain decimal is a numeral without a fraction or an exponent. Its number is the
integer itself where 64 bits hold it, signed or not, and otherwise has no signed value of 64 bits.

* `Json.accumulate_fitting`, `Json.accumulate_exceeding`: significands;
* `Json.readNumeral_integer`, `Json.value?_integer`: numerals;
* `Json.parse?_single`: documents that are an array of one integer.
-/

namespace RouteAdapter.Json
open Decimal
open Text (Padded Stops takeWhile_word dropWhile_word)

/-! ## Significands -/

section

variable {digits : List Char} {n : Nat}

theorem le_ofDigitChars (digits : List Char) (n : Nat) : n ≤ Nat.ofDigitChars 10 digits n := by
  rw [Nat.ofDigitChars_eq_ofDigitChars_zero]
  have positive : 0 < 10 ^ digits.length := Nat.pow_pos (by decide)
  exact (Nat.le_mul_of_pos_left n positive).trans (Nat.le_add_right _ _)

theorem accumulate_fitting (taken : Nat) (fits : Nat.ofDigitChars 10 digits n < UInt64.size) :
    accumulate n taken digits = (Nat.ofDigitChars 10 digits n, taken + digits.length, []) := by
  induction digits generalizing n taken with
  | nil => rfl
  | cons c digits ih =>
      -- More digits never make the number smaller, so it fits before the last of them too.
      have next : 10 * n + digitValue c < UInt64.size := (le_ofDigitChars digits _).trans_lt fits
      have rest := ih (n := 10 * n + digitValue c) (taken + 1) fits
      rw [accumulate, if_pos next, rest, List.length_cons, Nat.add_right_comm, Nat.add_assoc]
      rfl

theorem accumulate_exceeding (taken : Nat) (small : n < UInt64.size)
    (exceeds : UInt64.size ≤ Nat.ofDigitChars 10 digits n) :
    (accumulate n taken digits).2.2 ≠ [] := by
  induction digits generalizing n taken with
  | nil => exact absurd small (Nat.not_lt.mpr exceeds)
  | cons c digits ih =>
      rw [accumulate]
      split
      · rename_i next
        exact ih (taken + 1) next exceeds
      · exact List.cons_ne_nil c digits

end

/-! ## Numerals -/

section

variable {digits rest : List Char} {k : Nat}

/-- The text goes on with something that is no part of a number. -/
def Ends (rest : List Char) : Prop :=
  ∀ c, rest.head? = some c → c.isDigit = false ∧ c ≠ '.' ∧ c ≠ 'e' ∧ c ≠ 'E'

theorem readFraction_ends (ends : Ends rest) : readFraction rest = some (none, rest) := by
  unfold readFraction
  split
  · exact absurd rfl (ends '.' rfl).2.1
  · rfl

theorem readExponent_ends (ends : Ends rest) : readExponent rest = some (none, rest) := by
  cases rest with
  | nil => rfl
  | cons c rest =>
      obtain ⟨-, -, small, large⟩ := ends c rfl
      rw [readExponent, if_neg (not_or.mpr ⟨small, large⟩)]

theorem Ends.stops (ends : Ends rest) : Stops Char.isDigit rest :=
  fun c first => (ends c first).1

/-- A minus or none, digits, and nothing that would go on with a fraction or an exponent. -/
theorem readNumeral_integer (negative : Bool) (spelled : Digits digits k) (ends : Ends rest) :
    readNumeral ((if negative then ['-'] else []) ++ digits ++ rest) =
      some (⟨negative, digits, none, none⟩, rest) := by
  have plain : (digits.isEmpty || (digits.head? == some '0' && digits.length ≠ 1)) = false := by
    have present : digits.isEmpty = false := List.isEmpty_eq_false_iff.mpr spelled.ne_nil
    by_cases zero : digits.head? = some '0'
    · simp [present, spelled.leading zero]
    · simp [present, zero]
  have unsigned : ∀ rest', digits ++ rest ≠ '-' :: rest' := by
    intro rest' same
    obtain ⟨c, cs, rfl⟩ := List.exists_cons_of_ne_nil spelled.ne_nil
    cases (List.cons.inj same).1
    exact spelled.head?_ne (c := '-') rfl rfl
  have whole := takeWhile_word spelled.isDigit ends.stops
  have after := dropWhile_word spelled.isDigit ends.stops
  unfold readNumeral
  cases negative with
  | true =>
      simp only [Bool.false_eq_true, if_true, if_false, List.cons_append, List.nil_append, whole,
        after, plain, readFraction_ends ends, readExponent_ends ends, Option.bind_eq_bind,
        Option.bind_some]
      rfl
  | false =>
      simp only [Bool.false_eq_true, if_false, List.nil_append, whole, after, plain,
        readFraction_ends ends, readExponent_ends ends, Option.bind_eq_bind, Option.bind_some]
      rfl

theorem int64?_int_of_large {n : Int}
    (large : n < -0x8000000000000000 ∨ 0x8000000000000000 ≤ n) : (Number.int n).int64? = none := by
  rw [Number.int64?, if_neg (by omega)]

theorem int64?_ofSignificand (n : Int) :
    (ofSignificand (n < 0) n.natAbs).int64? = (Number.int n).int64? := by
  by_cases negative : n < 0
  · have same : -(n.natAbs : Int) = n := by omega
    by_cases fits : 0 < n.natAbs ∧ n.natAbs ≤ 0x8000000000000000
    · simp only [ofSignificand, negative, fits, decide_true, Bool.not_true, Bool.false_eq_true,
        and_self, if_true, if_false, Number.int64?, same]
    · rw [int64?_int_of_large (by omega)]
      simp only [ofSignificand, negative, fits, decide_true, Bool.not_true, Bool.false_eq_true,
        if_false, Number.int64?]
  · have same : (n.natAbs : Int) = n := by omega
    simp only [ofSignificand, negative, decide_false, Bool.not_false, if_true, Number.int64?, same]

theorem value?_integer {n : Int} (spelled : Digits digits n.natAbs) :
    (Numeral.value? ⟨n < 0, digits, none, none⟩).bind Number.int64? = (Number.int n).int64? := by
  have value : Nat.ofDigitChars 10 digits 0 = n.natAbs := spelled.value
  by_cases fits : n.natAbs < UInt64.size
  · have whole := accumulate_fitting 0 (value ▸ fits)
    have integral : Numeral.value? ⟨n < 0, digits, none, none⟩ =
        some (ofSignificand (n < 0) n.natAbs) := by
      rw [Numeral.value?, whole, value]
      rfl
    rw [integral, Option.bind_some, int64?_ofSignificand]
  · -- Digits are left over, so the number is floating-point if there is one.
    have extra : (accumulate 0 0 digits).2.2.isEmpty = false :=
      List.isEmpty_eq_false_iff.mpr
        (accumulate_exceeding 0 (by decide) (value ▸ Nat.le_of_not_lt fits))
    have size : UInt64.size = 18446744073709551616 := rfl
    rw [Numeral.value?, int64?_int_of_large (by omega)]
    simp only [extra, Bool.and_false, Bool.false_eq_true, if_false, Option.bind_map]
    exact Option.bind_eq_none_iff.mpr fun _ _ => rfl

end

/-! ## Documents -/

section

variable {s rest : List Char} {fuel : Nat}

theorem skipBlank_append {front : List Char} (blank : ∀ c ∈ front, isBlank c = true)
    (s : List Char) : skipBlank (front ++ s) = skipBlank s :=
  List.dropWhile_append_of_pos blank

/-- A digit or a minus starts a number. -/
theorem readValue_number {c : Char} (start : skipBlank s = c :: rest)
    (numeric : c = '-' ∨ c.isDigit = true) :
    readValue (fuel + 1) s = readNumber (c :: rest) := by
  rw [readValue, start]
  split
  case h_7 => rfl
  all_goals
    rename_i same
    cases same
    exact absurd numeric (by decide)

theorem readItems_last {item : Draft} {after : List Char}
    (filled : (skipBlank s).head? ≠ some ']') (read : readValue fuel s = (item, after))
    (closes : skipBlank after = ']' :: rest) :
    readItems (fuel + 1) s = ([item], true, rest) := by
  rw [readItems, if_neg filled, read]
  simp only [closes]

theorem readValue_array {after : List Char} {items : List Draft}
    (start : skipBlank s = '[' :: after) (filled : (skipBlank after).head? ≠ some ']')
    (read : readItems fuel (skipBlank after) = (items, true, rest)) :
    readValue (fuel + 1) s = (.array items true, rest) := by
  rw [readValue, start]
  simp only
  split
  · rename_i closed
    exact absurd (by rw [closed]; rfl) filled
  · simp only [read]

theorem parse?_of_readValue {d : Draft} (read : readValue (2 * s.length + 2) s = (d, rest))
    (blank : ∀ c ∈ rest, isBlank c = true) : parse? s = valueOf? maxDepth d := by
  have ended : (skipBlank rest).isEmpty = true :=
    List.isEmpty_iff.mpr (List.dropWhile_eq_nil_iff.mpr blank)
  rw [parse?, draft, read]
  simp only [ended]

variable {n : Int}

theorem isBlank_cases {c : Char} (blank : isBlank c = true) :
    c = ' ' ∨ c = '\t' ∨ c = '\n' ∨ c = '\r' := by
  simpa only [isBlank, Bool.or_eq_true, beq_iff_eq, or_assoc] using blank

theorem not_isBlank_of_numeric {c : Char} (numeric : c = '-' ∨ c.isDigit = true) :
    isBlank c = false := by
  cases blank : isBlank c with
  | false => rfl
  | true => obtain rfl | rfl | rfl | rfl := isBlank_cases blank <;> exact absurd numeric (by decide)

theorem ends_closing {back : List Char} (blank : ∀ c ∈ back, isBlank c = true) :
    Ends (back ++ ']' :: rest) := by
  cases back with
  | nil =>
      rintro _ ⟨⟩
      decide
  | cons c back =>
      rintro _ ⟨⟩
      obtain rfl | rfl | rfl | rfl := isBlank_cases (blank c List.mem_cons_self) <;> decide

theorem skipBlank_numeric {c : Char} (numeric : c = '-' ∨ c.isDigit = true) (rest : List Char) :
    skipBlank (c :: rest) = c :: rest := by
  rw [skipBlank, List.dropWhile_cons, not_isBlank_of_numeric numeric]
  rfl

theorem exists_numeric (n : Int) (rest : List Char) :
    ∃ c cs, (c = '-' ∨ c.isDigit = true) ∧ (toString n).toList ++ rest = c :: cs := by
  obtain ⟨c, cs, text⟩ := List.exists_cons_of_ne_nil (toList_toString_ne_nil n)
  exact ⟨c, cs ++ rest, numeric_toString n (text ▸ List.mem_cons_self), text ▸ rfl⟩

theorem readValue_integer (n : Int) : ∃ number : Option Number,
    number.bind Number.int64? = (Number.int n).int64? ∧
    ∀ fuel rest, Ends rest → readValue (fuel + 1) ((toString n).toList ++ rest) =
      (number.elim .valueless .number, rest) := by
  obtain ⟨digits, spelled, text⟩ := exists_digits n
  refine ⟨Numeral.value? ⟨n < 0, digits, none, none⟩, value?_integer spelled, ?_⟩
  intro fuel rest ends
  obtain ⟨c, cs, numeric, start⟩ := exists_numeric n rest
  have read := readNumeral_integer (n < 0) spelled ends
  simp only [decide_eq_true_eq, ← text] at read
  rw [start, readValue_number (skipBlank_numeric numeric cs) numeric, ← start, readNumber, read]

/-- A document that is an array of one integer, with blanks anywhere between its parts. -/
def Single (n : Int) (s : List Char) : Prop :=
  ∃ inside, Padded isBlank (toString n).toList inside ∧ Padded isBlank ('[' :: inside ++ [']']) s

theorem parse?_single (single : Single n s) : ∃ number : Option Number,
    number.bind Number.int64? = (Number.int n).int64? ∧
    parse? s = number.map fun x => .array [.number x] := by
  obtain ⟨_, ⟨front, back, before, after, rfl⟩, outside, behind, blank, trailing, rfl⟩ := single
  obtain ⟨number, exact, read⟩ := readValue_integer n
  obtain ⟨c, cs, numeric, start⟩ := exists_numeric n (back ++ ']' :: behind)
  have inner : skipBlank (front ++ ((toString n).toList ++ (back ++ ']' :: behind))) = c :: cs := by
    rw [skipBlank_append before, start, skipBlank_numeric numeric]
  have filled : (c :: cs).head? ≠ some ']' := by
    rintro ⟨⟩
    exact absurd numeric (by decide)
  have items (fuel : Nat) :
      readItems (fuel + 2) (c :: cs) = ([number.elim .valueless .number], true, behind) := by
    refine readItems_last ?_ (start ▸ read fuel _ (ends_closing after)) (skipBlank_append after _)
    rw [skipBlank_numeric numeric]
    exact filled
  have text : outside ++ ('[' :: (front ++ (toString n).toList ++ back) ++ [']']) ++ behind =
      outside ++ '[' :: (front ++ ((toString n).toList ++ (back ++ ']' :: behind))) := by simp
  rw [text]
  generalize document : outside ++ '[' :: _ = s
  have whole (fuel : Nat) :
      readValue (fuel + 3) s = (.array [number.elim .valueless .number] true, behind) :=
    document ▸ readValue_array (skipBlank_append blank _) (inner ▸ filled) (inner ▸ items fuel)
  have long : 0 < s.length := by
    rw [← document, List.length_append]
    exact Nat.add_pos_right _ (Nat.succ_pos _)
  obtain ⟨fuel, enough⟩ := Nat.exists_eq_add_of_le' (show 3 ≤ 2 * s.length + 2 by omega)
  refine ⟨number, exact, ?_⟩
  rw [parse?_of_readValue (enough ▸ whole fuel) trailing]
  cases number <;> rfl

end

end RouteAdapter.Json
