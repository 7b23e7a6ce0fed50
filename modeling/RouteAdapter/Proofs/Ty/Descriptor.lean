import Mathlib.Data.List.Basic
import RouteAdapter.Proofs.Ty.Text

/-!
# Method descriptors

A method descriptor determines the parameter types and the result type it is written for, if they
are well formed: their texts have neither commas nor parentheses.

* `Ty.chars_plain`: the letters of a readable type;
* `methodDescriptor_injective`: descriptors of well-formed types.
-/

namespace RouteAdapter

namespace Ty

/-- Not a letter that separates the types of a descriptor. -/
def isPlain (c : Char) : Bool :=
  c != ',' && c != ')'

theorem isPlain_of_isNameChar {c : Char} (name : isNameChar c = true) : isPlain c = true := by
  rw [isPlain, Bool.and_eq_true, bne_iff_ne, bne_iff_ne]
  constructor
  · rintro rfl
    cases name
  · rintro rfl
    cases name

theorem all_isPlain_wrapped {head inside : List Char} (first : head.all isPlain = true)
    (rest : inside.all isPlain = true) : (head ++ '<' :: (inside ++ ['>'])).all isPlain = true := by
  rw [List.all_append, List.all_cons, List.all_append, first, rest]
  rfl

theorem chars_plain {ty : Ty} (readable : ty.Readable) :
    ty.chars ≠ [] ∧ ty.chars.all isPlain = true := by
  induction ty with
  | named name =>
      obtain ⟨word, nonempty⟩ := readable
      have names := List.all_eq_true.mp (all_isNameChar_of_ofWord word)
      refine ⟨nonempty, List.all_eq_true.mpr fun c member => ?_⟩
      exact isPlain_of_isNameChar (names c member)
  | option inner ih =>
      rw [chars_option]
      exact ⟨by simp, all_isPlain_wrapped (by simp [isPlain]) (ih readable).2⟩
  | list inner ih =>
      rw [chars_list]
      exact ⟨by simp, all_isPlain_wrapped (by simp [isPlain]) (ih readable).2⟩
  | void | bool | i32 | i64 | f64 | str | value | map | body | context => decide

theorem WellFormed.chars_ne_nil {ty : Ty} (wellFormed : ty.WellFormed) : ty.chars ≠ [] :=
  (chars_plain (readable_of_ofCharsWith wellFormed)).1

theorem WellFormed.not_mem_chars {ty : Ty} (wellFormed : ty.WellFormed) {c : Char}
    (separates : isPlain c = false) : c ∉ ty.chars := by
  intro member
  have plain := (chars_plain (readable_of_ofCharsWith wellFormed)).2
  rw [List.all_eq_true.mp plain c member] at separates
  cases separates

theorem chars_injective {ty other : Ty} (wellFormed : ty.WellFormed)
    (wellFormed' : other.WellFormed) (same : ty.chars = other.chars) : ty = other :=
  text_injective wellFormed wellFormed' (congrArg String.ofList same)

theorem map_chars_injective {tys others : List Ty} (wellFormed : ∀ ty ∈ tys, ty.WellFormed)
    (wellFormed' : ∀ ty ∈ others, ty.WellFormed) (same : tys.map chars = others.map chars) :
    tys = others := by
  induction tys generalizing others with
  | nil => exact (List.map_eq_nil_iff.mp same.symm).symm
  | cons ty tys ih =>
      cases others with
      | nil => cases same
      | cons other others =>
          obtain ⟨first, rest⟩ := List.cons.inj same
          obtain ⟨here, later⟩ := List.forall_mem_cons.mp wellFormed
          obtain ⟨here', later'⟩ := List.forall_mem_cons.mp wellFormed'
          rw [chars_injective here here' first, ih later later' rest]

/-! ## Parameters -/

/-- What stands between the parentheses of a descriptor. -/
def paramChars (params : List Ty) : List Char :=
  [','].intercalate (params.map chars)

theorem paramChars_plain {params : List Ty} (wellFormed : ∀ ty ∈ params, ty.WellFormed) :
    ')' ∉ paramChars params := by
  induction params with
  | nil => exact List.not_mem_nil
  | cons ty params ih =>
      obtain ⟨first, others⟩ := List.forall_mem_cons.mp wellFormed
      have here : ')' ∉ ty.chars := first.not_mem_chars rfl
      cases params with
      | nil => simpa [paramChars] using here
      | cons next params =>
          have whole : paramChars (ty :: next :: params) =
              ty.chars ++ [','] ++ paramChars (next :: params) := List.intercalate_cons_cons
          rw [whole, List.mem_append, List.mem_append]
          rintro ((inside | comma) | later)
          · exact here inside
          · exact absurd comma (by decide)
          · exact ih others later

theorem splitOn_paramChars {params : List Ty} (wellFormed : ∀ ty ∈ params, ty.WellFormed)
    (some_ : params ≠ []) : (paramChars params).splitOn ',' = params.map chars := by
  refine List.splitOn_intercalate ',' (fun s member comma => ?_) (by simpa using some_)
  obtain ⟨ty, known, rfl⟩ := List.mem_map.mp member
  exact (wellFormed ty known).not_mem_chars rfl comma

theorem paramChars_ne_nil {params : List Ty} (wellFormed : ∀ ty ∈ params, ty.WellFormed)
    (some_ : params ≠ []) : paramChars params ≠ [] := by
  intro none
  have split := splitOn_paramChars wellFormed some_
  rw [none] at split
  cases params with
  | nil => exact some_ rfl
  | cons ty params =>
      obtain ⟨first, -⟩ := List.forall_mem_cons.mp wellFormed
      exact first.chars_ne_nil (List.cons.inj split).1.symm

theorem paramChars_injective {params others : List Ty} (wellFormed : ∀ ty ∈ params, ty.WellFormed)
    (wellFormed' : ∀ ty ∈ others, ty.WellFormed) (same : paramChars params = paramChars others) :
    params = others := by
  by_cases none : params = []
  · subst none
    refine Decidable.byContradiction fun other => ?_
    exact paramChars_ne_nil wellFormed' (Ne.symm other) same.symm
  · by_cases none' : others = []
    · subst none'
      exact absurd same (paramChars_ne_nil wellFormed none)
    · refine map_chars_injective wellFormed wellFormed' ?_
      rw [← splitOn_paramChars wellFormed none, ← splitOn_paramChars wellFormed' none', same]

end Ty

/-! ## Descriptors -/

theorem toList_methodDescriptor (params : List Ty) (returns : Ty) :
    (methodDescriptor params returns).toList =
      '(' :: (Ty.paramChars params ++ ')' :: '-' :: '>' :: returns.chars) := by
  have texts : (params.map Ty.text).map String.toList = params.map Ty.chars := by
    simp [Ty.text, Function.comp_def]
  have left : "(".toList = ['('] := rfl
  have right : ")->".toList = [')', '-', '>'] := rfl
  have comma : ",".toList = [','] := rfl
  simp only [methodDescriptor, String.toList_append, String.toList_intercalate, texts, left, right,
    comma, Ty.text, String.toList_ofList, Ty.paramChars, List.append_assoc, List.cons_append,
    List.nil_append]

theorem methodDescriptor_injective {params others : List Ty} {returns other : Ty}
    (wellFormed : ∀ ty ∈ params, ty.WellFormed) (wellFormed' : ∀ ty ∈ others, ty.WellFormed)
    (result : returns.WellFormed) (result' : other.WellFormed)
    (same : methodDescriptor params returns = methodDescriptor others other) :
    params = others ∧ returns = other := by
  have letters := congrArg String.toList same
  rw [toList_methodDescriptor, toList_methodDescriptor, List.cons_inj_right] at letters
  -- The first closing parenthesis ends the parameters, and no other follows.
  have last : ')' ∉ '-' :: '>' :: returns.chars := by
    have none : ')' ∉ returns.chars := result.not_mem_chars rfl
    simpa using none
  obtain ⟨first, -, rest⟩ :=
    (List.append_cons_inj_of_notMem (Ty.paramChars_plain wellFormed) last).mp letters
  simp only [List.cons.injEq, true_and] at rest
  exact ⟨Ty.paramChars_injective wellFormed wellFormed' first,
    Ty.chars_injective result result' rest⟩

end RouteAdapter
