import Mathlib.Data.List.Flatten
import RouteAdapter.Proofs.Text.Utf8
import RouteAdapter.Proofs.Ty.Text

/-!
# Spacing of type texts

The text that is written for a type is any text it was read from with blanks left out, so no other
text of the type is shorter.

* `Ty.chars_sublist`: the characters of a type, in the text it was read from;
* `Ty.length_utf8_text_le`: the same in bytes.
-/

namespace RouteAdapter
open Text

namespace Ty

theorem chars_of_ofWord {s : List Char} {ty : Ty} (read : ofWord s = .ok ty) : ty.chars = s := by
  unfold ofWord at read
  split at read
  · rename_i keyword found
    cases read
    unfold keyword? at found
    have known := List.find?_some found
    exact beq_iff_eq.mp known
  · split at read
    · cases read
      exact String.toList_ofList
    · cases read

/-- A text that ends like a wrapper has its brackets around what `inner` finds. -/
theorem eq_wrapped {t : List Char} (last : t.getLast? = some '>') (nonempty : inner t ≠ []) :
    t = t.takeWhile (· != '<') ++ '<' :: (inner t ++ ['>']) := by
  unfold inner at nonempty ⊢
  cases tail : t.dropWhile (· != '<') with
  | nil => simp [tail] at nonempty
  | cons c rest =>
      have bracket : c = '<' := by
        have stopped := List.head?_dropWhile_not (· != '<') t
        simpa [tail] using stopped
      have whole : t = t.takeWhile (· != '<') ++ c :: rest := by
        rw [← tail, List.takeWhile_append_dropWhile]
      rw [tail, List.drop_one, List.tail_cons] at nonempty
      have present : rest ≠ [] := by
        rintro rfl
        exact nonempty rfl
      have closing : rest.getLast present = '>' := by
        rw [whole, List.getLast?_append, List.getLast?_cons, List.getLast?_eq_some_getLast present]
          at last
        simpa using last
      have parts : rest.dropLast ++ ['>'] = rest := by
        rw [← closing, List.dropLast_append_getLast]
      rw [List.drop_one, List.tail_cons, parts]
      rwa [bracket] at whole

theorem chars_of_wrap {head : List Char} {inside ty : Ty} (wrapped : wrap head inside = .ok ty) :
    ty.chars = head ++ '<' :: (inside.chars ++ ['>']) := by
  unfold wrap at wrapped
  split at wrapped
  · rename_i option
    cases wrapped
    rw [chars_option, beq_iff_eq.mp option]
  · split at wrapped
    · rename_i list
      cases wrapped
      rw [chars_list, beq_iff_eq.mp list]
    · cases wrapped

theorem ofCharsWith_nil (brackets : Nat) (ty : Ty) : ofCharsWith brackets [] ≠ .ok ty := by
  cases brackets <;> simp [ofCharsWith, trim, trimStart, trimEnd]

theorem chars_sublist {brackets : Nat} {s : List Char} {ty : Ty}
    (read : ofCharsWith brackets s = .ok ty) : ty.chars.Sublist s := by
  -- As the reader recurses: each wrapper uses up a bracket, and blanks go at every level.
  induction brackets generalizing s ty with
  | zero =>
      unfold ofCharsWith at read
      dsimp only at read
      split at read
      · cases read
      · split at read
        · cases read
        · rw [chars_of_ofWord read]
          exact trim_sublist s
  | succ brackets ih =>
      unfold ofCharsWith at read
      dsimp only at read
      split at read
      · rename_i last
        obtain ⟨inside, nested, wrapped⟩ := bind_eq_ok.mp read
        have nonempty : inner (trim s) ≠ [] := by
          intro empty
          rw [empty] at nested
          exact ofCharsWith_nil brackets inside nested
        have brackets : ty.chars.Sublist
            ((trim s).takeWhile (· != '<') ++ '<' :: (inner (trim s) ++ ['>'])) := by
          rw [chars_of_wrap wrapped]
          refine (trim_sublist _).append (List.Sublist.cons_cons '<' ?_)
          exact (ih nested).append (List.Sublist.refl ['>'])
        rw [← eq_wrapped last nonempty] at brackets
        exact brackets.trans (trim_sublist s)
      · cases read

theorem length_utf8_text_le {s : String} {ty : Ty} (read : ofText s = .ok ty) :
    (Bytes.utf8 ty.text).length ≤ (Bytes.utf8 s).length := by
  rw [Bytes.utf8_eq_flatMap, Bytes.utf8_eq_flatMap, text, String.toList_ofList]
  exact ((chars_sublist read).flatMap String.utf8EncodeChar).length_le

end Ty
end RouteAdapter
