import RouteAdapter.Proofs.Ty.Spacing

/-!
# The grammar of type texts

The texts that are read as types are those of a grammar: keywords, names, and `Option` and `List`
around the text of another type in angle brackets. Blanks may stand around a type and in front of
an opening bracket, and nowhere else. What is written for a type is one of its texts.

* `Ty.Derives`: the grammar;
* `Ty.derives_of_ofWord`, `Ty.ofWord_of_isName`: texts without brackets;
* `Ty.derives_of_ofCharsWith`, `Ty.ofChars_of_derives`: what is read is derived, and conversely;
* `Ty.ofText_grammar`: the reader and the writer against the grammar.
-/

namespace RouteAdapter

namespace Ty
open Text

/-! ## The grammar -/

def keywordTexts : List (String × Ty) :=
  [("void", void), ("bool", bool), ("i32", i32), ("i64", i64), ("f64", f64), ("str", str),
    ("value", value), ("map", map), ("body", body), ("ctx", context)]

def IsDigit (c : Char) : Prop :=
  '0' ≤ c ∧ c ≤ '9'

def IsNameLetter (c : Char) : Prop :=
  ('A' ≤ c ∧ c ≤ 'Z') ∨ ('a' ≤ c ∧ c ≤ 'z') ∨ IsDigit c ∨ c = '_' ∨ c = '.' ∨ c = '$'

instance : DecidablePred IsDigit := fun c =>
  inferInstanceAs (Decidable ('0' ≤ c ∧ c ≤ '9'))

instance : DecidablePred IsNameLetter := fun c =>
  inferInstanceAs (Decidable (_ ∨ _ ∨ IsDigit c ∨ _))

/-- A name of a composite type. -/
structure IsName (name : String) : Prop where
  nonempty : name ≠ ""
  letters : ∀ c ∈ name.toList, IsNameLetter c
  start : ∀ c ∈ name.toList.head?, ¬IsDigit c
  fresh : ∀ entry ∈ keywordTexts, entry.1 ≠ name

instance : DecidablePred IsName := fun name =>
  decidable_of_iff (name ≠ "" ∧ name.toList.all (decide <| IsNameLetter ·) ∧
      name.toList.head?.all (decide ¬IsDigit ·) ∧ ∀ entry ∈ keywordTexts, entry.1 ≠ name) <| by
    simp only [List.all_eq_true, Option.all_eq_true, decide_eq_true_eq]
    exact ⟨fun ⟨nonempty, letters, start, fresh⟩ => ⟨nonempty, letters, start, fresh⟩,
      fun ⟨nonempty, letters, start, fresh⟩ => ⟨nonempty, letters, start, fresh⟩⟩

/-- The texts of a type. -/
inductive Derives : Ty → List Char → Prop
  | keyword {word : String} {ty : Ty} (known : (word, ty) ∈ keywordTexts) : Derives ty word.toList
  | name {name : String} (valid : IsName name) : Derives (named name) name.toList
  | option {ty : Ty} {gap inside : List Char} (blank : Blank gap) (nested : Derives ty inside) :
      Derives (option ty) ("Option".toList ++ gap ++ '<' :: (inside ++ ['>']))
  | list {ty : Ty} {gap inside : List Char} (blank : Blank gap) (nested : Derives ty inside) :
      Derives (list ty) ("List".toList ++ gap ++ '<' :: (inside ++ ['>']))
  | padded {ty : Ty} {front text back : List Char} (before : Blank front) (after : Blank back)
      (core : Derives ty text) : Derives ty (front ++ text ++ back)

/-! ## Words -/

theorem isDigit_iff {c : Char} : c.isDigit = true ↔ IsDigit c := by
  rw [Char.isDigit, Bool.and_eq_true, decide_eq_true_iff, decide_eq_true_iff]
  exact Iff.rfl

theorem isNameChar_iff {c : Char} : isNameChar c = true ↔ IsNameLetter c := by
  have upper : c.isUpper = true ↔ 'A' ≤ c ∧ c ≤ 'Z' := decide_eq_true_iff
  have lower : c.isLower = true ↔ 'a' ≤ c ∧ c ≤ 'z' :=
    Bool.and_eq_true_iff.trans (and_congr decide_eq_true_iff decide_eq_true_iff)
  have alpha : c.isAlpha = (c.isUpper || c.isLower) := rfl
  simp only [isNameChar, Char.isAlphanum, alpha, Bool.or_eq_true, beq_iff_eq, lower, upper,
    isDigit_iff, IsNameLetter, or_assoc]

theorem keyword?_eq_some {s : List Char} {ty : Ty} :
    keyword? s = some ty ↔ ∃ word, (word, ty) ∈ keywordTexts ∧ word.toList = s := by
  have spelled : ∀ ty ∈ keywords, (String.ofList ty.chars, ty) ∈ keywordTexts := by decide +kernel
  have found : ∀ entry ∈ keywordTexts, keyword? entry.1.toList = some entry.2 := by decide +kernel
  constructor
  · intro known
    have same := List.find?_some known
    refine ⟨_, spelled ty (List.mem_of_find?_eq_some known), ?_⟩
    rw [String.toList_ofList]
    exact beq_iff_eq.mp same
  · rintro ⟨word, known, rfl⟩
    exact found (word, ty) known

theorem isName_ofList {s : List Char} (nonempty : s ≠ []) (letters : s.all isNameChar = true)
    (start : (!s.head?.any Char.isDigit) = true) (other : keyword? s = none) :
    IsName (String.ofList s) := by
  refine ⟨fun empty => nonempty ?_, ?_, ?_, fun entry known same => ?_⟩
  · rw [← String.toList_ofList (l := s), empty, String.toList_empty]
  · rw [String.toList_ofList]
    exact fun c member => isNameChar_iff.mp (List.all_eq_true.mp letters c member)
  · rw [String.toList_ofList]
    intro c first digit
    rw [Option.mem_def.mp first, Option.any_some, isDigit_iff.mpr digit] at start
    cases start
  · have found : keyword? s = some entry.2 := by
      refine keyword?_eq_some.mpr ⟨entry.1, known, ?_⟩
      rw [same, String.toList_ofList]
    rw [found] at other
    cases other

theorem derives_of_ofWord {s : List Char} {ty : Ty} (nonempty : s ≠ []) (read : ofWord s = .ok ty) :
    Derives ty s := by
  unfold ofWord at read
  split at read
  · rename_i found
    cases read
    obtain ⟨word, known, rfl⟩ := keyword?_eq_some.mp found
    exact .keyword known
  · rename_i other
    split at read
    · rename_i valid
      cases read
      obtain ⟨letters, start⟩ := Bool.and_eq_true_iff.mp valid
      have derived := Derives.name (isName_ofList nonempty letters start other)
      rwa [String.toList_ofList] at derived
    · cases read

theorem ofWord_of_isName {name : String} (valid : IsName name) :
    ofWord name.toList = .ok (named name) := by
  have other : keyword? name.toList = none := by
    refine Option.eq_none_iff_forall_ne_some.mpr fun ty found => ?_
    obtain ⟨word, known, same⟩ := keyword?_eq_some.mp found
    exact valid.fresh _ known (String.toList_inj.mp same)
  have letters : name.toList.all isNameChar = true :=
    List.all_eq_true.mpr fun c member => isNameChar_iff.mpr (valid.letters c member)
  have start : name.toList.head?.any Char.isDigit = false := by
    cases first : name.toList.head? with
    | none => rfl
    | some c =>
        have letter := valid.start c first
        rw [Option.any_some]
        exact Bool.eq_false_iff.mpr (mt isDigit_iff.mp letter)
  simp only [ofWord, other, letters, start, Bool.not_false, Bool.and_self, ↓reduceIte,
    String.ofList_toList]

/-! ## What is read is derived -/

theorem Derives.of_trim {ty : Ty} {s : List Char} (core : Derives ty (trim s)) : Derives ty s := by
  obtain ⟨front, back, before, after, split⟩ := exists_trim s
  rw [split]
  exact .padded before after core

theorem derives_of_wrap {head text : List Char} {inside ty : Ty}
    (visible : ∀ c, head.head? = some c → isBlank c = false) (nested : Derives inside text)
    (wrapped : wrap (trim head) inside = .ok ty) : Derives ty (head ++ '<' :: (text ++ ['>'])) := by
  unfold wrap at wrapped
  split at wrapped
  · rename_i word
    obtain ⟨gap, blank, rfl⟩ := exists_of_trim visible (beq_iff_eq.mp word)
    cases wrapped
    exact .option blank nested
  · split at wrapped
    · rename_i word
      obtain ⟨gap, blank, rfl⟩ := exists_of_trim visible (beq_iff_eq.mp word)
      cases wrapped
      exact .list blank nested
    · cases wrapped

theorem derives_of_ofCharsWith {brackets : Nat} {s : List Char} {ty : Ty}
    (read : ofCharsWith brackets s = .ok ty) : Derives ty s := by
  -- As the reader recurses, whatever the number of brackets it is given.
  induction brackets generalizing s ty with
  | zero =>
      refine .of_trim ?_
      unfold ofCharsWith at read
      dsimp only at read
      split at read
      · cases read
      · rename_i visible
        split at read
        · cases read
        · exact derives_of_ofWord (fun empty => visible (List.isEmpty_iff.mpr empty)) read
  | succ brackets ih =>
      refine .of_trim ?_
      unfold ofCharsWith at read
      dsimp only at read
      split at read
      · rename_i last
        obtain ⟨inside, nested, wrapped⟩ := bind_eq_ok.mp read
        have nonempty : inner (trim s) ≠ [] := by
          intro empty
          rw [empty] at nested
          exact ofCharsWith_nil brackets inside nested
        have visible : ∀ c, ((trim s).takeWhile (· != '<')).head? = some c → isBlank c = false := by
          intro c first
          refine isBlank_of_head?_trim (s := s) ?_
          rw [← List.takeWhile_append_dropWhile (p := (· != '<')) (l := trim s), List.head?_append,
            first]
          rfl
        rw [eq_wrapped last nonempty]
        exact derives_of_wrap visible (ih nested) wrapped
      · cases read

/-! ## What is derived is read -/

theorem ofCharsWith_padded {front back : List Char} (before : Blank front) (after : Blank back)
    (brackets : Nat) (s : List Char) :
    ofCharsWith brackets (front ++ s ++ back) = ofCharsWith brackets s := by
  cases brackets <;> simp only [ofCharsWith, trim_padded before s after]

theorem count_padded {front back : List Char} (before : Blank front) (after : Blank back)
    (s : List Char) : (front ++ s ++ back).count '<' = s.count '<' := by
  have visible : isBlank '<' = false := by decide
  rw [List.count_append, List.count_append, List.count_eq_zero.mpr (before.not_mem visible),
    List.count_eq_zero.mpr (after.not_mem visible), Nat.zero_add, Nat.add_zero]

/-- Blanks in front of a bracket are the end of what stands there. -/
theorem ofCharsWith_spaced {word gap inside : List Char} {c : Char} {ty : Ty}
    (first : word.head? = some c) (visible : isBlank c = false) (plain : '<' ∉ word)
    (blank : Blank gap) (read : ofCharsWith (inside.count '<') inside = .ok ty) :
    ofCharsWith ((word ++ gap ++ '<' :: (inside ++ ['>'])).count '<')
      (word ++ gap ++ '<' :: (inside ++ ['>'])) = wrap (trim word) ty := by
  have start : (word ++ gap).head? = some c := by
    rw [List.head?_append, first]
    rfl
  have head : '<' ∉ word ++ gap := by
    rw [List.mem_append]
    exact not_or_intro plain (blank.not_mem (by decide))
  have trimmed : trim (word ++ gap) = trim word := by
    have nothing : Blank [] := by decide
    exact trim_padded nothing word blank
  rw [count_wrapped head, ofCharsWith_wrapped (notBlank_of_head start visible) head read, trimmed]

theorem ofChars_of_derives {ty : Ty} {s : List Char} (derives : Derives ty s) :
    ofChars s = .ok ty := by
  have spelled : ∀ entry ∈ keywordTexts, entry.2 ∈ keywords ∧ entry.2.chars = entry.1.toList := by
    decide +kernel
  unfold ofChars
  induction derives with
  | @keyword word ty known =>
      obtain ⟨listed, chars⟩ := spelled _ known
      have read := ofCharsWith_keyword ty listed
      rwa [chars] at read
  | name valid =>
      exact ofCharsWith_name (ofWord_of_isName valid)
        (mt String.toList_eq_nil_iff.mp valid.nonempty)
  | @option ty gap inside blank nested ih =>
      have first : "Option".toList.head? = some 'O' := rfl
      rw [ofCharsWith_spaced first (by decide) (by simp) blank ih]
      rfl
  | @list ty gap inside blank nested ih =>
      have first : "List".toList.head? = some 'L' := rfl
      rw [ofCharsWith_spaced first (by decide) (by simp) blank ih]
      rfl
  | padded before after core ih => rwa [count_padded before after, ofCharsWith_padded before after]

/-! ## Texts and types -/

/-- A text is read as a type exactly if it is derived for it, and any other is an error. A type that
was read is read again from its own text, and no other type that is read has this text. -/
theorem ofText_grammar :
    (∀ s ty, ofText s = .ok ty ↔ Derives ty s.toList) ∧
    (∀ s ty, ofText s = .ok ty → ofText ty.text = .ok ty) ∧
    (∀ s s' ty ty', ofText s = .ok ty → ofText s' = .ok ty' → ty.text = ty'.text → ty = ty') ∧
    ∀ s, (∀ ty, ¬Derives ty s.toList) → ∃ e, ofText s = .error e := by
  refine ⟨fun s ty => ⟨derives_of_ofCharsWith, ofChars_of_derives⟩, fun s ty => ofText_text, ?_, ?_⟩
  · exact fun s s' ty ty' read read' => text_injective (ofText_text read) (ofText_text read')
  · intro s none
    cases read : ofText s with
    | error e => exact ⟨e, rfl⟩
    | ok ty => exact absurd (derives_of_ofCharsWith read) (none ty)

theorem ofText_grammar_spaced :
    let ty := option (list (named "app.User$"))
    ofText "Option\u00a0< List<app.User$>\t>" = .ok ty ∧
      ofText "Option<List<app.User$>>" = .ok ty ∧
      ∃ e, ofText "Option<<app.User$>>" = .error e := by
  intro ty
  obtain ⟨reads, again, -, others⟩ := ofText_grammar
  have name : Derives (named "app.User$") "app.User$".toList := .name (by decide +kernel)
  have users : Derives (list (named "app.User$")) "List<app.User$>".toList :=
    .list (show Blank [] by decide) name
  have spaced : Derives (list (named "app.User$")) " List<app.User$>\t".toList :=
    .padded (show Blank [' '] by decide) (show Blank ['\t'] by decide) users
  have split : "Option\u00a0< List<app.User$>\t>".toList =
      "Option".toList ++ ['\u00a0'] ++ '<' :: (" List<app.User$>\t".toList ++ ['>']) := by
    decide +kernel
  have derives : Derives ty "Option\u00a0< List<app.User$>\t>".toList := by
    rw [split]
    exact .option (by decide) spaced
  have read := (reads "Option\u00a0< List<app.User$>\t>" ty).mpr derives
  have refused : (ofText "Option<<app.User$>>").toOption = none := by decide +kernel
  have text : ty.text = "Option<List<app.User$>>" := by decide +kernel
  have canonical := again _ _ read
  rw [text] at canonical
  refine ⟨read, canonical, others "Option<<app.User$>>" fun other wrong => ?_⟩
  rw [(reads _ other).mpr wrong] at refused
  cases refused

end Ty
end RouteAdapter
