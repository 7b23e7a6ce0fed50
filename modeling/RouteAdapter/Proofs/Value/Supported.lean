import RouteAdapter.Emission.Chain
import RouteAdapter.Proofs.Value.Conversion

/-!
# Supported conversions

A conversion that the table of conversions has is never refused for what it is. If it fails, the
request is at fault: a value is missing, invalid or malformed.

* `Ty.convertsTo_cases`: the table, source by source;
* `Value.ofRaw_error`, `Value.ofBody_error`: what can go wrong with each source;
* `Value.blames_of_convertWith`: all supported conversions.
-/

namespace RouteAdapter
open Text

namespace Ty

/-- Types that a body as a whole is read as. -/
def IsDecodable (ty : Ty) : Prop :=
  (ty.isScalar = true ∧ ty ≠ .value) ∨ ty.isComposite = true

theorem convertsTo_cases {source target : Ty} (supported : source.convertsTo target = true) :
    source = target ∨ (source = .value ∧ target.isScalarLike = true) ∨
      (source = .map ∧ target.isComposite = true) ∨
        (source = .body ∧ (target.IsDecodable ∨
          ∃ inner, IsDecodable inner ∧ (target = .option inner ∨ target = .list inner))) := by
  by_cases same : source = target
  · exact .inl same
  cases source with
  | value => exact .inr (.inl ⟨rfl, by simpa [convertsTo, same] using supported⟩)
  | map => exact .inr (.inr (.inl ⟨rfl, by simpa [convertsTo, same] using supported⟩))
  | body =>
      refine .inr (.inr (.inr ⟨rfl, ?_⟩))
      cases target with
      | option inner =>
          exact .inr ⟨inner, by simpa [convertsTo, IsDecodable] using supported, .inl rfl⟩
      | list inner =>
          exact .inr ⟨inner, by simpa [convertsTo, IsDecodable] using supported, .inr rfl⟩
      | body => exact absurd rfl same
      | _ => exact .inl (by simpa [convertsTo, IsDecodable] using supported)
  | _ => simp [convertsTo, same] at supported

end Ty

/-- The fault lies with the value, which is called by its name on the wire, and a body `body`. -/
def ConvertError.Blames : ConvertError → Value → Prop
  | missing name _, .raw r | invalid name _ _, .raw r => name = r.name
  | missing name _, .body _ | invalid name _ _, .body _ => name = "body"
  | body _ _, .body _ => True
  | _, _ => False

namespace Value

variable {ty source target : Ty} {v : Value} {e : ConvertError}
  {readJson : Bytes → Except BodyFault Json}

/-! ## Raw values and maps -/

theorem ofScalarText_error {name text : String} (scalar : ty.isScalar = true)
    (failed : ofScalarText name text ty = .error e) : e = .invalid name text ty := by
  have parsed {found : Option Value}
      (failed : found.elim (.error (.invalid name text ty)) Except.ok = .error e) :
      e = .invalid name text ty := by
    cases found with
    | none => exact (Except.error.inj failed).symm
    | some w => cases failed
  cases ty with
  | bool | i32 | i64 | f64 => exact parsed failed
  | str | value => cases failed
  | _ => cases scalar

theorem ofRaw_scalar_error {r : RawValue} (scalar : ty.isScalar = true)
    (failed : ofRaw r ty = .error e) : e.Blames (.raw r) := by
  obtain ⟨name, values⟩ := r
  cases values with
  | nil =>
      have missing : ofRaw ⟨name, []⟩ ty = .error (.missing name ty) := by
        cases ty <;> first | rfl | cases scalar
      cases missing.symm.trans failed
      rfl
  | cons text values =>
      have first : ofRaw ⟨name, text :: values⟩ ty = ofScalarText name text ty := by
        cases ty <;> first | rfl | cases scalar
      rw [ofScalarText_error scalar (first.symm.trans failed)]
      rfl

theorem ofRaw_error {r : RawValue} (scalar : target.isScalarLike = true)
    (failed : ofRaw r target = .error e) : e.Blames (.raw r) := by
  cases target with
  | option inner =>
      rw [ofRaw] at failed
      split at failed
      · cases failed
      · exact ofRaw_scalar_error scalar failed
  | list inner =>
      rw [ofRaw] at failed
      cases read : r.values.mapM fun text => ofScalarText r.name text inner with
      | ok items =>
          rw [read] at failed
          cases failed
      | error e' =>
          rw [read] at failed
          cases failed
          obtain ⟨text, -, invalid⟩ := exists_of_mapM_error read
          rw [ofScalarText_error scalar invalid]
          rfl
  | _ =>
      refine ofRaw_scalar_error ?_ failed
      exact scalar

theorem ofMap_composite {m : ValueMap} (composite : target.isComposite = true) :
    ofMap m target ≠ .error e := by
  cases target with
  | named name => nofun
  | _ => cases composite

/-! ## Bodies -/

theorem ofJsonBody_error {b : Body} (failed : ofJsonBody readJson b ty = .error e) :
    e.Blames (.body b) := by
  rw [ofJsonBody] at failed
  cases read : readJson b.bytes >>= ofJson ty with
  | ok w =>
      rw [read] at failed
      cases failed
  | error fault =>
      rw [read] at failed
      cases failed
      trivial

theorem ofBody_decodable_error {b : Body} (decodable : ty.IsDecodable)
    (failed : ofBody readJson b ty = .error e) : e.Blames (.body b) := by
  cases ty with
  | bool | i32 | i64 | f64 =>
      simp only [ofBody, Ty.isPrimitive, ↓reduceIte] at failed
      split at failed
      · cases failed
        rfl
      · split at failed
        · rw [ofScalarText_error rfl failed]
          rfl
        · cases failed
          trivial
  | str =>
      rw [ofBody] at failed
      cases decoded : decodeUtf8 b.bytes with
      | ok text =>
          rw [decoded] at failed
          cases failed
      | error fault =>
          rw [decoded] at failed
          cases failed
          trivial
  | named name => exact ofJsonBody_error failed
  | value => simp [Ty.IsDecodable, Ty.isComposite] at decodable
  | _ => simp [Ty.IsDecodable, Ty.isScalar, Ty.isComposite] at decodable

theorem ofBody_error {b : Body}
    (decodable : target.IsDecodable ∨
      ∃ inner, Ty.IsDecodable inner ∧ (target = .option inner ∨ target = .list inner))
    (failed : ofBody readJson b target = .error e) : e.Blames (.body b) := by
  rcases decodable with whole | ⟨inner, part, rfl | rfl⟩
  · exact ofBody_decodable_error whole failed
  · rw [ofBody] at failed
    split at failed
    · cases failed
    · split at failed
      · exact ofJsonBody_error failed
      · exact ofBody_decodable_error part failed
  · exact ofJsonBody_error failed

/-! ## All conversions -/

theorem blames_of_convertWith (supported : source.convertsTo target = true)
    (conforms : v.conforms source = true) (failed : v.convertWith readJson target = .error e) :
    e.Blames v := by
  unfold convertWith at failed
  split at failed
  · cases failed
  · rename_i other
    rcases Ty.convertsTo_cases supported with
      rfl | ⟨rfl, scalar⟩ | ⟨rfl, composite⟩ | ⟨rfl, decodable⟩
    · exact absurd conforms other
    · cases v with
      | raw r => exact ofRaw_error scalar failed
      | _ => cases conforms
    · cases v with
      | map m => exact absurd failed (ofMap_composite composite)
      | _ => cases conforms
    · cases v with
      | body b => exact ofBody_error decodable failed
      | _ => cases conforms

end Value
end RouteAdapter
