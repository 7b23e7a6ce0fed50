import RouteAdapter.Proofs.Outcome
import RouteAdapter.Value.Convert

/-!
# Conversion to options and lists

An option or a list of a type is converted to as the type is. What counts as absent depends on the
source: a raw value without values, a blank body, and for a structured type also the JSON document
`null`. A list takes one item from each raw value.

* `Value.convertWith_raw`, `Value.convertWith_body`: conversions of a source that does not conform;
* `Value.convertWith_option_raw`, `Value.convertWith_list_raw`: wrapped types of raw values;
* `Value.convertWith_option_body`, `Value.convertWith_option_structured`: wrapped types of bodies;
* `Value.convertWith_wrapped`: all of them.
-/

namespace RouteAdapter

/-- The same error, except that a malformed body is reported for this type. -/
def ConvertError.reportedFor (ty : Ty) : ConvertError → ConvertError
  | body _ fault => body ty fault
  | e => e

namespace Value

variable {ty inner : Ty} {r : RawValue} {b : Body} {readJson : Bytes → Except BodyFault Json}

theorem convertWith_raw (other : conforms ty (raw r) = false) :
    (raw r).convertWith readJson ty = ofRaw r ty := by
  simp only [convertWith, other, Bool.false_eq_true, ↓reduceIte]

theorem convertWith_body (other : conforms ty (body b) = false) :
    (body b).convertWith readJson ty = ofBody readJson b ty := by
  simp only [convertWith, other, Bool.false_eq_true, ↓reduceIte]

/-! ## Raw values -/

theorem ofRaw_option_present (present : r.isMissing = false) :
    ofRaw r (.option inner) = ofRaw r inner := by
  rw [ofRaw, present]
  rfl

theorem convertWith_option_raw (readJson : Bytes → Except BodyFault Json) (r : RawValue)
    (inner : Ty) :
    (raw r).convertWith readJson (.option inner) =
      if r.isMissing then .ok null else (raw r).convertWith readJson inner := by
  cases missing : r.isMissing with
  | true =>
      have other : conforms (.option inner) (raw r) = false := by simp [conforms, missing]
      rw [convertWith_raw other, ofRaw, missing]
      rfl
  | false =>
      have same : conforms (.option inner) (raw r) = conforms inner (raw r) := by
        simp [conforms, missing]
      simp only [convertWith, same, ofRaw_option_present missing, Bool.false_eq_true, ↓reduceIte]

/-- A scalar of a single raw value is read from its text. -/
theorem convertWith_single (scalar : ty.isScalar = true) (name text : String) :
    (raw ⟨name, [text]⟩).convertWith readJson ty = ofScalarText name text ty := by
  cases ty with
  | value => rfl
  | bool | i32 | i64 | f64 | str => rfl
  | _ => cases scalar

theorem convertWith_list_raw (readJson : Bytes → Except BodyFault Json) (r : RawValue)
    (scalar : inner.isScalar = true) :
    (raw r).convertWith readJson (.list inner) =
      (r.values.mapM fun text => (raw ⟨r.name, [text]⟩).convertWith readJson inner).map list := by
  have other : conforms (.list inner) (raw r) = false := rfl
  simp only [convertWith_raw other, ofRaw, convertWith_single scalar]
  rfl

/-! ## Bodies -/

theorem conforms_body (decoded : ty.isScalar = true ∧ ty ≠ .value ∨ isStructured ty = true) :
    conforms ty (body b) = false := by
  cases ty <;> simp_all [conforms, isStructured, Ty.isScalar]

theorem convertWith_option_body (readJson : Bytes → Except BodyFault Json) (b : Body)
    (scalar : inner.isScalar = true) (read : inner ≠ .value) :
    (body b).convertWith readJson (.option inner) =
      if b.isBlank then .ok null else (body b).convertWith readJson inner := by
  have other : conforms inner (body b) = false := conforms_body (.inl ⟨scalar, read⟩)
  have option : conforms (.option inner) (body b) = false := other
  have text : isStructured inner = false := by cases inner <;> simp_all [isStructured, Ty.isScalar]
  rw [convertWith_body other, convertWith_body option, ofBody, text]
  rfl

theorem ofJson_option {j : Json} (present : j ≠ .null) :
    ofJson (.option inner) j = ofJson inner j := by
  cases j <;> first | rfl | exact absurd rfl present

theorem ofJsonBody_option (present : readJson b.bytes ≠ .ok .null) :
    ofJsonBody readJson b (.option inner) =
      (ofJsonBody readJson b inner).mapError (.reportedFor (.option inner)) := by
  unfold ofJsonBody
  cases read : readJson b.bytes with
  | error fault => rfl
  | ok j =>
      have other : j ≠ .null := fun null => present (null ▸ read)
      show (ofJson (.option inner) j).mapError _ = ((ofJson inner j).mapError _).mapError _
      rw [ofJson_option other]
      cases ofJson inner j <;> rfl

theorem convertWith_option_structured (readJson : Bytes → Except BodyFault Json) (b : Body)
    (structured : isStructured inner = true) :
    (body b).convertWith readJson (.option inner) =
      if b.isBlank then .ok null
      else
        match readJson b.bytes with
        | .ok .null => .ok null
        | _ => ((body b).convertWith readJson inner).mapError (.reportedFor (.option inner)) := by
  have other : conforms inner (body b) = false := conforms_body (.inr structured)
  have option : conforms (.option inner) (body b) = false := other
  have whole : ofBody readJson b inner = ofJsonBody readJson b inner := by
    cases inner <;> first | rfl | cases structured
  rw [convertWith_body other, convertWith_body option, ofBody, structured,
    whole]
  cases b.isBlank with
  | true => rfl
  | false =>
      simp only [Bool.false_eq_true, ↓reduceIte]
      split
      · rename_i null
        rw [ofJsonBody, null]
        rfl
      · rename_i present
        exact ofJsonBody_option fun null => present null

/-- Options and lists lift the conversions to the types that they wrap. -/
theorem convertWith_wrapped (readJson : Bytes → Except BodyFault Json) :
    (∀ r ty, (raw r).convertWith readJson (.option ty) =
      if r.isMissing then .ok null else (raw r).convertWith readJson ty) ∧
    (∀ r ty, ty.isScalar = true → (raw r).convertWith readJson (.list ty) =
      (r.values.mapM fun text => (raw ⟨r.name, [text]⟩).convertWith readJson ty).map list) ∧
    (∀ b ty, ty.isScalar = true → ty ≠ .value → (body b).convertWith readJson (.option ty) =
      if b.isBlank then .ok null else (body b).convertWith readJson ty) ∧
    (∀ b ty, isStructured ty = true → (body b).convertWith readJson (.option ty) =
      if b.isBlank then .ok null
      else
        match readJson b.bytes with
        | .ok .null => .ok null
        | _ => ((body b).convertWith readJson ty).mapError (.reportedFor (.option ty))) :=
  ⟨convertWith_option_raw readJson, fun r _ scalar => convertWith_list_raw readJson r scalar,
    fun b _ scalar read => convertWith_option_body readJson b scalar read,
    fun b _ structured => convertWith_option_structured readJson b structured⟩

theorem convertWith_wrapped_ids :
    let readJson : Bytes → Except BodyFault Json := fun _ => .ok (.array [.number (.int 7), .null])
    let ids : Body := Body.ofJson "[7, null]"
    (raw ⟨"ids", ["1", "x", "y"]⟩).convertWith readJson (.list .i64) =
      .error (.invalid "ids" "x" .i64) ∧
    (raw ⟨"page", []⟩).convertWith readJson (.option .i32) = .ok null ∧
    (body (Body.ofText " \n")).convertWith readJson (.option .bool) = .ok null ∧
    (body ids).convertWith readJson (.list .i32) =
      .error (.body (.list .i32) (.mismatch .i32 .null)) ∧
    (body ids).convertWith readJson (.option (.list .i32)) =
      .error (.body (.option (.list .i32)) (.mismatch .i32 .null)) := by
  intro readJson ids
  obtain ⟨option, list, text, structured⟩ := convertWith_wrapped readJson
  refine ⟨(list _ _ rfl).trans rfl, (option _ _).trans rfl,
    (text _ .bool rfl (by decide)).trans rfl, rfl, ?_⟩
  exact (structured ids (.list .i32) rfl).trans rfl

end Value
end RouteAdapter
