import RouteAdapter.Listing
import RouteAdapter.Proofs.Decimal.Integer
import RouteAdapter.Proofs.Format.Code
import RouteAdapter.Proofs.Text.Word
import RouteAdapter.Proofs.Ty.Descriptor

/-!
# Listings determine code

A line of a listing tells its instruction, and ends where the next line begins, whatever stands in
the tables of the module: the name of the opcode and the index are read off first, and they decide
what the tables have to add.

* `Decimal.toDigits_unique`: numbers in front of something else;
* `Listing.entry_unique`: an index and what is shown for it;
* `Listing.locatedText_unique`: lines, whatever follows them;
* `Function.listing_eq_iff`: bodies.
-/

namespace RouteAdapter
open Text (Stops quoted word_unique)

theorem Decimal.toDigits_unique {n k : Nat} {rest rest' : List Char}
    (stops : Stops Char.isDigit rest) (stops' : Stops Char.isDigit rest')
    (same : Nat.toDigits 10 n ++ rest = Nat.toDigits 10 k ++ rest') : n = k ∧ rest = rest' := by
  have left := digits_toDigits n
  have right := digits_toDigits k
  obtain ⟨digits, others⟩ := word_unique left.isDigit right.isDigit stops stops' same
  refine ⟨?_, others⟩
  rw [← left.value, digits, right.value]

namespace Opcode

def isNameChar (c : Char) : Bool :=
  c.isUpper || c == '_'

theorem isNameChar_of_mem_name {op : Opcode} : ∀ c ∈ op.name.toList, isNameChar c = true := by
  rw [← List.all_eq_true]
  cases op <;> decide +kernel

theorem name_injective {op other : Opcode} (same : op.name.toList = other.name.toList) :
    op = other := by
  cases op <;> cases other <;> first | rfl | exact absurd same (by decide +kernel)

end Opcode

theorem Ty.primitiveTag?_of_ofPrimitiveTag? {ty : Ty} {tag : UInt8}
    (known : ofPrimitiveTag? tag = some ty) : ty.primitiveTag? = some tag := by
  unfold ofPrimitiveTag? at known
  split at known <;> cases known <;> rfl

namespace Listing

variable {m : Module} {i j : Instruction} {rest rest' : List Char}

/-! ## Operands -/

theorem toList_entry (index : UInt32) (shown : Option String) :
    (entry index shown).toList =
      [' ', '#'] ++ Nat.toDigits 10 index.toNat ++ (shown.elim [] fun s => ' ' :: s.toList) := by
  cases shown <;> simp [entry]

/-- What is shown is decided by the index, so it may be any text. -/
theorem entry_unique (shown : UInt32 → Option String) (index index' : UInt32)
    (stops : Stops Char.isDigit rest) (stops' : Stops Char.isDigit rest')
    (same : (entry index (shown index)).toList ++ rest =
      (entry index' (shown index')).toList ++ rest') : index = index' ∧ rest = rest' := by
  have after {rest : List Char} (s : Option String) (stops : Stops Char.isDigit rest) :
      Stops Char.isDigit ((s.elim [] fun s => ' ' :: s.toList) ++ rest) := by
    cases s with
    | none => exact stops
    | some s => exact .cons rfl _
  simp only [toList_entry, List.append_assoc, List.append_cancel_left_eq] at same
  obtain ⟨number, others⟩ := Decimal.toDigits_unique (after _ stops) (after _ stops') same
  obtain rfl := UInt32.toNat_inj.mp number
  exact ⟨rfl, List.append_cancel_left others⟩

/-- A call ends with the number of its arguments. -/
theorem call_unique (shown : UInt32 → Option String) (index index' : UInt32) {argc argc' : UInt8}
    (same : (entry index (shown index) ++ " argc=" ++ toString argc.toNat).toList ++ '\n' :: rest =
      (entry index' (shown index') ++ " argc=" ++ toString argc'.toNat).toList ++ '\n' :: rest') :
    index = index' ∧ argc = argc' ∧ rest = rest' := by
  have label : " argc=".toList = [' ', 'a', 'r', 'g', 'c', '='] := rfl
  simp only [String.toList_append, List.append_assoc, label, Nat.toString_eq_repr,
    Nat.toList_repr] at same
  have apart (count : List Char) : Stops Char.isDigit ([' ', 'a', 'r', 'g', 'c', '='] ++ count) :=
    .cons rfl _
  obtain ⟨first, others⟩ := entry_unique shown index index' (apart _) (apart _) same
  obtain ⟨count, line⟩ := Decimal.toDigits_unique (.cons rfl _) (.cons rfl _)
    (List.append_cancel_left others)
  exact ⟨first, UInt8.toNat_inj.mp count, (List.cons.inj line).2⟩

/-- The text of a tag is the name of a type, or a number that is marked as unknown. -/
theorem operandText_box (m : Module) (tag : UInt8) :
    ∃ word, (operandText m (.box tag)).toList = ' ' :: word ∧ (∀ c ∈ word, (c != '\n') = true) ∧
      ((∃ ty : Ty, ty.primitiveTag? = some tag ∧ word = ty.chars) ∨
        word = '?' :: Nat.toDigits 10 tag.toNat) := by
  rw [operandText]
  cases known : Ty.ofPrimitiveTag? tag with
  | none =>
      refine ⟨'?' :: Nat.toDigits 10 tag.toNat, ?_, ?_, .inr rfl⟩
      · rw [String.toList_append, Nat.toString_eq_repr, Nat.toList_repr]
        rfl
      · refine List.forall_mem_cons.mpr ⟨rfl, fun c member => ?_⟩
        have digit := (Decimal.digits_toDigits tag.toNat).isDigit c member
        rw [bne_iff_ne]
        rintro rfl
        cases digit
  | some ty =>
      refine ⟨ty.chars, ?_, ?_, .inl ⟨ty, Ty.primitiveTag?_of_ofPrimitiveTag? known, rfl⟩⟩
      · simp only [String.toList_append, Ty.text, String.toList_ofList]
        rfl
      · rw [← List.all_eq_true (p := (· != '\n'))]
        cases ty <;> first | rfl | cases Ty.primitiveTag?_of_ofPrimitiveTag? known

theorem box_unique {tag tag' : UInt8}
    (same : (operandText m (.box tag)).toList ++ '\n' :: rest =
      (operandText m (.box tag')).toList ++ '\n' :: rest') : tag = tag' ∧ rest = rest' := by
  obtain ⟨word, text, within, meaning⟩ := operandText_box m tag
  obtain ⟨word', text', within', meaning'⟩ := operandText_box m tag'
  rw [text, text'] at same
  obtain ⟨rfl, line⟩ := word_unique within within' (.cons rfl _) (.cons rfl _)
    (List.cons.inj same).2
  refine ⟨?_, (List.cons.inj line).2⟩
  have readable {ty : Ty} {tag : UInt8} (known : ty.primitiveTag? = some tag) :
      ty.WellFormed ∧ ty.chars.head? ≠ some '?' := by
    cases ty <;> first | exact ⟨rfl, by decide⟩ | cases known
  rcases meaning with ⟨ty, known, rfl⟩ | rfl <;> rcases meaning' with ⟨ty', known', same⟩ | same
  · obtain rfl := Ty.chars_injective (readable known).1 (readable known').1 same
    exact Option.some.inj (known.symm.trans known')
  · exact absurd (congrArg List.head? same) (readable known).2
  · exact absurd (congrArg List.head? same.symm) (readable known').2
  · have ended : Nat.toDigits 10 tag.toNat ++ [] = Nat.toDigits 10 tag'.toNat ++ [] :=
      congrArg (· ++ []) (List.cons.inj same).2
    obtain ⟨digits, -⟩ := Decimal.toDigits_unique .nil .nil ended
    exact UInt8.toNat_inj.mp digits

/-! ## Lines -/

theorem operands_unique (opcode : i.opcode = j.opcode)
    (same : (operandText m i).toList ++ '\n' :: rest = (operandText m j).toList ++ '\n' :: rest') :
    i = j ∧ rest = rest' := by
  have newline (rest : List Char) : Stops Char.isDigit ('\n' :: rest) := .cons rfl rest
  cases i with
  | loadCtx | noContent | ret =>
      cases j <;> try cases opcode
      exact ⟨rfl, (List.cons.inj same).2⟩
  | box tag =>
      cases j with
      | box tag' =>
          obtain ⟨rfl, others⟩ := box_unique same
          exact ⟨rfl, others⟩
      | _ => cases opcode
  | constStr index =>
      cases j with
      | constStr index' =>
          obtain ⟨rfl, others⟩ := entry_unique (fun index => (m.constants.get? index).map quoted)
            index index' (newline rest) (newline rest') same
          exact ⟨rfl, (List.cons.inj others).2⟩
      | _ => cases opcode
  | convert index =>
      cases j with
      | convert index' =>
          have unique := entry_unique
            (fun index => (m.types[index.toNat]?).map fun ty => "-> " ++ ty.text)
            index index' (newline rest) (newline rest')
          obtain ⟨rfl, others⟩ := unique same
          exact ⟨rfl, (List.cons.inj others).2⟩
      | _ => cases opcode
  | invokeAccessor index argc =>
      cases j with
      | invokeAccessor index' argc' =>
          obtain ⟨rfl, rfl, others⟩ := call_unique
            (fun index => (m.accessors[index.toNat]?).map AccessorRef.name) index index' same
          exact ⟨rfl, others⟩
      | _ => cases opcode
  | invokeController index argc =>
      cases j with
      | invokeController index' argc' =>
          obtain ⟨rfl, rfl, others⟩ := call_unique
            (fun index => (m.methods[index.toNat]?).map MethodRef.symbol) index index' same
          exact ⟨rfl, others⟩
      | _ => cases opcode

theorem stops_operandText (m : Module) (i : Instruction) (rest : List Char) :
    Stops Opcode.isNameChar ((operandText m i).toList ++ '\n' :: rest) := by
  cases i with
  | loadCtx | noContent | ret => exact .cons rfl _
  | box tag =>
      obtain ⟨word, text, -⟩ := operandText_box m tag
      exact text ▸ .cons rfl _
  | constStr index | convert index =>
      rw [operandText, toList_entry]
      exact .cons rfl _
  | invokeAccessor index argc | invokeController index argc =>
      rw [operandText, String.toList_append, String.toList_append, toList_entry]
      exact .cons rfl _

theorem instructionText_unique
    (same : (instructionText m i).toList ++ '\n' :: rest =
      (instructionText m j).toList ++ '\n' :: rest') : i = j ∧ rest = rest' := by
  simp only [instructionText, String.toList_append, List.append_assoc] at same
  obtain ⟨name, operands⟩ := word_unique Opcode.isNameChar_of_mem_name Opcode.isNameChar_of_mem_name
    (stops_operandText m i rest) (stops_operandText m j rest') same
  exact operands_unique (Opcode.name_injective name) operands

/-- Lines at one offset are those of one instruction, if any text follows either of them. -/
theorem locatedText_unique {offset : Nat} {text text' : String}
    (same : locatedText m ⟨offset, i⟩ ++ text = locatedText m ⟨offset, j⟩ ++ text') :
    i = j ∧ text = text' := by
  have chars := congrArg String.toList same
  have newline : "\n".toList = ['\n'] := rfl
  simp only [locatedText, line, String.toList_append, List.append_assoc, newline,
    List.append_cancel_left_eq] at chars
  obtain ⟨instruction, others⟩ := instructionText_unique chars
  exact ⟨instruction, String.toList_inj.mp others⟩

/-! ## Bodies -/

theorem bodyText_cons (m : Module) (l : Located) (body : List Located) :
    bodyText m (l :: body) = locatedText m l ++ bodyText m body := by
  simp [bodyText, String.join_cons]

theorem bodyText_cons_ne_nil (m : Module) (l : Located) (body : List Located) :
    bodyText m (l :: body) ≠ bodyText m [] := by
  intro same
  have chars := congrArg String.toList same
  simp [locatedText, line, bodyText] at chars

theorem bodyText_injective {offset : Nat} {body body' : List Instruction}
    (same : bodyText m (Code.locate offset body) = bodyText m (Code.locate offset body')) :
    body = body' := by
  induction body generalizing offset body' with
  | nil =>
      cases body' with
      | nil => rfl
      | cons j body' => exact absurd same.symm (bodyText_cons_ne_nil m _ _)
  | cons i body ih =>
      cases body' with
      | nil => exact absurd same (bodyText_cons_ne_nil m _ _)
      | cons j body' =>
          rw [Code.locate, Code.locate, bodyText_cons, bodyText_cons] at same
          obtain ⟨rfl, others⟩ := locatedText_unique same
          rw [ih others]

end Listing

namespace Function
open Listing

variable {m : Module} {f g : Function} {body : List Located}

/-- The listings of two functions of a module are the same only if their code is. -/
theorem listing_eq_iff (decoded : Code.decode f.code = .ok body) :
    f.listing m = g.listing m ↔ f.code = g.code := by
  constructor
  · intro same
    obtain ⟨instructions, code, rfl⟩ := Code.decode_ok.mp decoded
    rw [listing, listing, decoded] at same
    obtain ⟨body', decoded', text⟩ := map_eq_ok.mp same.symm
    obtain ⟨instructions', code', rfl⟩ := Code.decode_ok.mp decoded'
    rw [code, code', bodyText_injective text]
  · intro same
    rw [listing, listing, same]

/-- A module with one accessor of this name. -/
def accessing (accessor : String) : Module :=
  { Module.named "C" with accessors := [⟨accessor, "(str)->value", 1⟩] }

/-- An accessor whose name looks like lines of a listing. What is listed with it is listed of
another body too, but not in the same module. -/
theorem listing_eq_iff_forged :
    let forged := accessing "path argc=1\n  0006  RETURN\n  0007  INVOKE_ACCESSOR #0 path"
    let f : Function := ⟨"f", 1, 1, Code.encode [.invokeAccessor 0 1]⟩
    let g : Function := ⟨"g", 1, 1, Code.encode [.invokeAccessor 0 1, .ret, .invokeAccessor 0 1]⟩
    f.listing forged = g.listing (accessing "path") ∧ f.listing forged ≠ g.listing forged := by
  intro forged f g
  constructor
  · have text : bodyText forged (Code.locate 0 [.invokeAccessor 0 1]) =
        bodyText (accessing "path")
          (Code.locate 0 [.invokeAccessor 0 1, .ret, .invokeAccessor 0 1]) := by
      decide +kernel
    simp only [listing, f, g, Code.decode_encode]
    exact congrArg Except.ok text
  · intro same
    have code := (listing_eq_iff (Code.decode_encode _)).mp same
    exact absurd code (by decide)

end Function
end RouteAdapter
