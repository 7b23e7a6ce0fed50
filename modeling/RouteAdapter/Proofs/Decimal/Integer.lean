import RouteAdapter.Decimal.Reading

/-!
# Integers in plain decimal

An integer is written as digits, behind a minus if it is negative. The first digit is zero only if
it is the only one. Such a text is read back to its integer.

* `Decimal.Digits`: the digits of a natural number;
* `Decimal.exists_digits`: the text of an integer;
* `Decimal.int?_toString`: reading.
-/

namespace RouteAdapter.Decimal

/-- The digits of a number, with no zeros in front. -/
structure Digits (digits : List Char) (n : Nat) : Prop where
  ne_nil : digits ≠ []
  isDigit : ∀ c ∈ digits, c.isDigit = true
  leading : digits.head? = some '0' → digits.length = 1
  value : ofDigits digits = n

theorem eq_zero_of_head?_toDigits {n : Nat} (first : (Nat.toDigits 10 n).head? = some '0') :
    n = 0 := by
  induction n using Nat.strongRecOn with
  | ind n ih =>
      rw [Nat.toDigits_eq_if (by decide)] at first
      split at first
      · exact Nat.digitChar_eq_zero.mp (Option.some.inj first)
      · obtain ⟨c, rest, more⟩ := List.exists_cons_of_ne_nil (Nat.toDigits_ne_nil (n := n / 10))
        rw [more] at first
        have zero := ih (n / 10) (by omega) (more ▸ first)
        omega

theorem digits_toDigits (n : Nat) : Digits (Nat.toDigits 10 n) n where
  ne_nil := Nat.toDigits_ne_nil
  isDigit _ member := Nat.isDigit_of_mem_toDigits (b := 10) (by decide) (by decide) member
  leading first := by
    rw [eq_zero_of_head?_toDigits first]
    rfl
  value := Nat.ofDigitChars_ten_toDigits

theorem exists_digits (n : Int) :
    ∃ digits, Digits digits n.natAbs ∧
      (toString n).toList = (if n < 0 then ['-'] else []) ++ digits := by
  refine ⟨Nat.toDigits 10 n.natAbs, digits_toDigits n.natAbs, ?_⟩
  cases n with
  | ofNat n => exact Nat.toList_repr
  | negSucc n =>
      show ("-" ++ Nat.repr (n + 1)).toList = _
      rw [String.toList_append, Nat.toList_repr, if_pos (Int.negSucc_lt_zero n)]
      rfl

theorem toList_toString_ne_nil (n : Int) : (toString n).toList ≠ [] := by
  obtain ⟨digits, spelled, text⟩ := exists_digits n
  rw [text]
  exact List.append_ne_nil_of_right_ne_nil _ spelled.ne_nil

theorem numeric_toString (n : Int) {c : Char} (member : c ∈ (toString n).toList) :
    c = '-' ∨ c.isDigit = true := by
  obtain ⟨digits, spelled, text⟩ := exists_digits n
  rw [text] at member
  obtain sign | digit := List.mem_append.mp member
  · split at sign
    · exact .inl (List.mem_singleton.mp sign)
    · cases sign
  · exact .inr (spelled.isDigit c digit)

variable {digits : List Char} {n : Nat}

theorem Digits.nat? (spelled : Digits digits n) : nat? digits = some n := by
  have digit : digits.all Char.isDigit = true := List.all_eq_true.mpr spelled.isDigit
  have present : digits.isEmpty = false := List.isEmpty_eq_false_iff.mpr spelled.ne_nil
  simp only [Decimal.nat?, digit, present, spelled.value]
  rfl

/-- A character that is no digit, such as a sign, does not come first. -/
theorem Digits.head?_ne (spelled : Digits digits n) {c : Char} (other : c.isDigit = false) :
    digits.head? ≠ some c := by
  intro first
  rw [spelled.isDigit c (List.mem_of_head? first)] at other
  cases other

theorem Digits.sign (spelled : Digits digits n) : sign digits = (false, digits) := by
  unfold Decimal.sign
  split
  · exact absurd rfl (spelled.head?_ne (c := '-') rfl)
  · exact absurd rfl (spelled.head?_ne (c := '+') rfl)
  · rfl

theorem int?_toString (n : Int) : int? (toString n).toList = some n := by
  obtain ⟨digits, spelled, text⟩ := exists_digits n
  rw [text, int?]
  by_cases negative : n < 0
  · have value : -(n.natAbs : Int) = n := by omega
    have signed : sign (['-'] ++ digits) = (true, digits) := rfl
    simp only [if_pos negative, signed, spelled.nat?]
    exact congrArg some value
  · have value : (n.natAbs : Int) = n := by omega
    simp only [if_neg negative, List.nil_append, spelled.sign, spelled.nat?]
    exact congrArg some value

end RouteAdapter.Decimal
