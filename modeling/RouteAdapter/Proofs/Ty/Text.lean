import RouteAdapter.Proofs.Outcome
import RouteAdapter.Proofs.Text.Blank
import RouteAdapter.Proofs.Text.Word
import RouteAdapter.Ty.Text

/-!
# Types and their texts

A type that was read from some text is read again from the text that is written for it. What is
written has no blanks at its ends and as many opening brackets as the type has wrappers.

* `Ty.Readable`: names that are neither keywords nor broken;
* `Ty.readable_of_ofText`: what reading answers is readable;
* `Ty.ofText_text`: what is readable is read from its own text;
* `Ty.text_injective`: well-formed types have different texts.
-/

namespace RouteAdapter
open Text

/-- A type that is read from what is written for it. -/
def Ty.WellFormed (ty : Ty) : Prop :=
  Ty.ofText ty.text = .ok ty

instance : DecidablePred Ty.WellFormed := fun ty =>
  match read : Ty.ofText ty.text with
  | .ok found =>
    decidable_of_iff (found = ty) (by rw [Ty.WellFormed, read, Except.ok.injEq])
  | .error _ => isFalse (by rw [Ty.WellFormed, read]; nofun)

namespace Ty

theorem code_of_isAlphanum {c : Char} (letter : c.isAlphanum = true) :
    48 ≤ c.toNat ∧ c.toNat ≤ 122 := by
  rcases Bool.or_eq_true_iff.mp letter with alpha | digit
  · rcases Bool.or_eq_true_iff.mp alpha with upper | lower
    · have bounds : 65 ≤ c.toNat ∧ c.toNat ≤ 90 := of_decide_eq_true upper
      omega
    · obtain ⟨above, below⟩ := Bool.and_eq_true_iff.mp lower
      have least : 97 ≤ c.toNat := of_decide_eq_true above
      have most : c.toNat ≤ 122 := of_decide_eq_true below
      omega
  · obtain ⟨above, below⟩ := Bool.and_eq_true_iff.mp digit
    have least : 48 ≤ c.toNat := of_decide_eq_true above
    have most : c.toNat ≤ 57 := of_decide_eq_true below
    omega

theorem isBlank_of_isNameChar {c : Char} (name : isNameChar c = true) : isBlank c = false := by
  have code : c.toNat ≤ 122 ∧ c.toNat ≠ 32 ∧ ¬(9 ≤ c.toNat ∧ c.toNat ≤ 13) := by
    simp only [isNameChar, Bool.or_eq_true, beq_iff_eq] at name
    rcases name with ((letter | rfl) | rfl) | rfl
    · obtain ⟨least, most⟩ := code_of_isAlphanum letter
      omega
    all_goals decide
  simp only [isBlank, Bool.or_eq_false_iff, Bool.and_eq_false_iff, decide_eq_false_iff_not,
    beq_eq_false_iff_ne]
  omega

/-- The names in the type are names and not keywords. -/
def Readable : Ty → Prop
  | option inner | list inner => inner.Readable
  | named name => ofWord name.toList = .ok (named name) ∧ name.toList ≠ []
  | _ => True

theorem readable_of_ofWord {s : List Char} {ty : Ty} (nonempty : s ≠ [])
    (read : ofWord s = .ok ty) :
    ty.Readable := by
  have whole := read
  unfold ofWord at read
  split at read
  · rename_i keyword found
    cases read
    have known : ty ∈ keywords := List.mem_of_find?_eq_some found
    cases ty with
    | option inner => simp [keywords] at known
    | list inner => simp [keywords] at known
    | named name => simp [keywords] at known
    | _ => trivial
  · split at read
    · cases read
      refine ⟨?_, ?_⟩
      · rw [String.toList_ofList]
        exact whole
      · rw [String.toList_ofList]
        exact nonempty
    · cases read

theorem readable_of_ofCharsWith {brackets : Nat} {s : List Char} {ty : Ty}
    (read : ofCharsWith brackets s = .ok ty) : ty.Readable := by
  induction brackets generalizing s ty with
  | zero =>
      unfold ofCharsWith at read
      dsimp only at read
      split at read
      · cases read
      · rename_i nonempty
        split at read
        · cases read
        · refine readable_of_ofWord (fun empty => nonempty ?_) read
          rw [empty]
          rfl
  | succ brackets ih =>
      unfold ofCharsWith at read
      dsimp only at read
      split at read
      · obtain ⟨inner, nested, wrapped⟩ := bind_eq_ok.mp read
        unfold wrap at wrapped
        split at wrapped
        · cases wrapped
          have readable : inner.Readable := ih nested
          exact readable
        · split at wrapped
          · cases wrapped
            have readable : inner.Readable := ih nested
            exact readable
          · cases wrapped
      · cases read

theorem all_isNameChar_of_ofWord {s : List Char} {name : String}
    (read : ofWord s = .ok (named name)) : s.all isNameChar = true := by
  unfold ofWord at read
  split at read
  · rename_i keyword found
    cases read
    have known : named name ∈ keywords := List.mem_of_find?_eq_some found
    simp [keywords] at known
  · split at read
    · rename_i valid
      exact (Bool.and_eq_true_iff.mp valid).1
    · cases read

/-! ## Reading what is written -/

theorem trim_wrapped {head : List Char} (first : ∀ c, head.head? = some c → isBlank c = false)
    (inside : List Char) :
    trim (head ++ '<' :: (inside ++ ['>'])) = head ++ '<' :: (inside ++ ['>']) := by
  refine trim_eq_self (fun c h => ?_) (fun c h => ?_)
  · cases head with
    | nil =>
        cases h
        decide
    | cons d head => exact first c h
  · rw [← List.cons_append, ← List.append_assoc, List.getLast?_append] at h
    cases h
    decide

theorem ofCharsWith_wrapped {head inside : List Char} {brackets : Nat} {ty : Ty}
    (first : ∀ c, head.head? = some c → isBlank c = false) (plain : '<' ∉ head)
    (read : ofCharsWith brackets inside = .ok ty) :
    ofCharsWith (brackets + 1) (head ++ '<' :: (inside ++ ['>'])) = wrap (trim head) ty := by
  have before : ∀ c ∈ head, (c != '<') = true := by
    intro c member
    rw [bne_iff_ne]
    exact fun bracket => plain (bracket ▸ member)
  have last : (head ++ '<' :: (inside ++ ['>'])).getLast? = some '>' := by
    rw [← List.cons_append, ← List.append_assoc, List.getLast?_append]
    rfl
  have bracket : Stops (· != '<') ('<' :: (inside ++ ['>'])) := .cons rfl _
  have content : inner (head ++ '<' :: (inside ++ ['>'])) = inside := by
    rw [inner, dropWhile_word before bracket, List.drop_one, List.tail_cons, List.dropLast_concat]
  have name : (head ++ '<' :: (inside ++ ['>'])).takeWhile (· != '<') = head :=
    takeWhile_word before bracket
  -- The first bracket is the one of this wrapper, since its head has none.
  rw [ofCharsWith, trim_wrapped first]
  simp only [last, ↓reduceIte, content, read, name, bind, Except.bind]

theorem wellFormed_of_keyword : ∀ ty ∈ keywords, ty.WellFormed := by
  decide +kernel

theorem ofCharsWith_name {name : String} (word : ofWord name.toList = .ok (named name))
    (nonempty : name.toList ≠ []) :
    ofCharsWith (name.toList.count '<') name.toList = .ok (named name) := by
  have names := List.all_eq_true.mp (all_isNameChar_of_ofWord word)
  have none (c : Char) (other : isNameChar c = false) : c ∉ name.toList :=
    fun member => Bool.noConfusion ((names c member).symm.trans other)
  have trimmed : trim name.toList = name.toList := trim_eq_self
    (fun c h => isBlank_of_isNameChar (names c (List.mem_of_head? h)))
    (fun c h => isBlank_of_isNameChar (names c (List.mem_of_getLast? h)))
  have brackets : name.toList.count '<' = 0 := List.count_eq_zero.mpr (none '<' (by decide))
  have closed : name.toList.contains '>' = false := by
    rw [List.contains_eq_mem]
    exact decide_eq_false (none '>' (by decide))
  have empty : name.toList.isEmpty = false := by
    rw [List.isEmpty_eq_false_iff]
    exact nonempty
  -- Without brackets and blanks only the word itself is left to read.
  rw [brackets, ofCharsWith, trimmed]
  simp only [empty, Bool.false_eq_true, ↓reduceIte, closed, word]

theorem ofCharsWith_keyword (ty : Ty) (known : ty ∈ keywords) :
    ofCharsWith (ty.chars.count '<') ty.chars = .ok ty := by
  have read : ofChars (String.ofList ty.chars).toList = .ok ty := wellFormed_of_keyword ty known
  rwa [String.toList_ofList] at read

theorem count_wrapped {head : List Char} (plain : '<' ∉ head) (inside : List Char) :
    (head ++ '<' :: (inside ++ ['>'])).count '<' = inside.count '<' + 1 := by
  have none : ['>'].count '<' = 0 := rfl
  rw [List.count_append, List.count_eq_zero.mpr plain, List.count_cons_self, List.count_append,
    none, Nat.zero_add, Nat.add_zero]

theorem notBlank_of_head {head : List Char} {c : Char} (first : head.head? = some c)
    (letter : isBlank c = false) : ∀ d, head.head? = some d → isBlank d = false := by
  intro d second
  rw [first] at second
  cases second
  exact letter

theorem chars_option (inner : Ty) :
    (option inner).chars = "Option".toList ++ '<' :: (inner.chars ++ ['>']) := by
  have head : "Option<".toList = "Option".toList ++ ['<'] := rfl
  show "Option<".toList ++ inner.chars ++ ['>'] = _
  rw [head, List.append_assoc, List.append_assoc, List.singleton_append]

theorem chars_list (inner : Ty) :
    (list inner).chars = "List".toList ++ '<' :: (inner.chars ++ ['>']) := by
  have head : "List<".toList = "List".toList ++ ['<'] := rfl
  show "List<".toList ++ inner.chars ++ ['>'] = _
  rw [head, List.append_assoc, List.append_assoc, List.singleton_append]

theorem ofCharsWith_chars {ty : Ty} (readable : ty.Readable) :
    ofCharsWith (ty.chars.count '<') ty.chars = .ok ty := by
  induction ty with
  | named name => exact ofCharsWith_name readable.1 readable.2
  | option inner ih =>
      have plain : '<' ∉ "Option".toList := by simp
      have first : "Option".toList.head? = some 'O' := rfl
      have wrapped : wrap (trim "Option".toList) inner = .ok (option inner) := by
        rw [wrap, if_pos (by decide)]
      have notBlank := notBlank_of_head first (by decide)
      rw [chars_option, count_wrapped plain, ofCharsWith_wrapped notBlank plain (ih readable),
        wrapped]
  | list inner ih =>
      have plain : '<' ∉ "List".toList := by simp
      have first : "List".toList.head? = some 'L' := rfl
      have wrapped : wrap (trim "List".toList) inner = .ok (list inner) := by
        rw [wrap, if_neg (by decide), if_pos (by decide)]
      have notBlank := notBlank_of_head first (by decide)
      rw [chars_list, count_wrapped plain, ofCharsWith_wrapped notBlank plain (ih readable),
        wrapped]
  | void | bool | i32 | i64 | f64 | str | value | map | body | context =>
      exact ofCharsWith_keyword _ (by decide)

/-- What was read from any text is read again from its own. -/
theorem ofText_text {s : String} {ty : Ty} (read : ofText s = .ok ty) : ty.WellFormed := by
  have readable : ty.Readable := readable_of_ofCharsWith read
  rw [WellFormed, ofText, ofChars, text, String.toList_ofList]
  exact ofCharsWith_chars readable

theorem text_injective {ty other : Ty} (wellFormed : ty.WellFormed)
    (wellFormed' : other.WellFormed) (same : ty.text = other.text) : ty = other := by
  rw [WellFormed] at wellFormed wellFormed'
  rw [same, wellFormed'] at wellFormed
  exact (Except.ok.inj wellFormed).symm

end Ty

end RouteAdapter
