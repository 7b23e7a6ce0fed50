import RouteAdapter.Proofs.Outcome
import RouteAdapter.Value.Convert

/-!
# Converted values

A conversion that succeeds answers a value of the type. Options are where this takes care: a raw
value that is missing belongs to its type but not to the option of it, so a reader also has to
answer a value that is present.

* `Value.ofRaw_ok`, `Value.ofMap_ok`, `Value.ofBody_ok`: one reader for each kind of source;
* `Value.conforms_of_convert`: all conversions;
* `Value.convertWith_settles`: what was converted stays as it is.
-/

namespace RouteAdapter.Value

/-- The value belongs to the type, and is not a raw value that is missing. -/
structure Fits (ty : Ty) (v : Value) : Prop where
  conforms : v.conforms ty = true
  present : ∀ r, v = .raw r → r.isMissing = false

variable {ty inner : Ty} {v : Value} {readJson : Bytes → Except BodyFault Json}

theorem Fits.option (fits : v.Fits inner) : v.Fits (.option inner) := by
  refine ⟨?_, fits.present⟩
  cases v with
  | null => rfl
  | raw r => exact Bool.and_eq_true_iff.mpr ⟨by rw [fits.present r rfl]; rfl, fits.conforms⟩
  | _ => exact fits.conforms

theorem fits_items {α ε : Type} {read : α → Except ε Value} {as : List α} {items : List Value}
    (each : ∀ a v, read a = .ok v → v.Fits inner) (all : as.mapM read = .ok items) :
    (list items).Fits (.list inner) := by
  refine ⟨List.all_eq_true.mpr fun v member => ?_, nofun⟩
  obtain ⟨a, -, answered⟩ := exists_of_mem_forall₂_right (mapM_eq_ok.mp all) member
  exact (each a v answered).conforms

theorem conforms_context : v.conforms .context = true ↔ v = .context := by
  cases v <;> simp [conforms]

/-! ## Raw values and maps -/

theorem ofScalarText_ok {name text : String} (read : ofScalarText name text ty = .ok v) :
    v.Fits ty := by
  have parsed {α : Type} {f : α → Value} {e : ConvertError} {found : Option α}
      (read : (found.map f).elim (Except.error e) Except.ok = .ok v) : ∃ a, v = f a := by
    cases found with
    | none => cases read
    | some a => exact ⟨a, (Except.ok.inj read).symm⟩
  cases ty with
  | str =>
      cases read
      exact ⟨rfl, nofun⟩
  | value =>
      cases read
      exact ⟨rfl, by rintro _ ⟨⟩; rfl⟩
  | bool | i32 | i64 | f64 =>
      obtain ⟨a, rfl⟩ := parsed read
      exact ⟨rfl, nofun⟩
  | _ => cases read

theorem ofRaw_ok {r : RawValue} (read : ofRaw r ty = .ok v) : v.Fits ty := by
  fun_induction ofRaw r ty with
  | case1 inner missing =>
      cases read
      exact ⟨rfl, nofun⟩
  | case2 inner present ih => exact (ih read).option
  | case3 inner =>
      obtain ⟨items, all, whole⟩ := bind_eq_ok.mp read
      cases whole
      exact fits_items (fun _ _ => ofScalarText_ok) all
  | case4 ty _ _ scalar first rest values => exact ofScalarText_ok read
  | case5 | case6 => cases read

theorem ofMap_ok {m : ValueMap} (read : ofMap m ty = .ok v) : v.Fits ty := by
  cases ty with
  | named name =>
      cases read
      exact ⟨beq_self_eq_true name, nofun⟩
  | _ => cases read

/-! ## Bodies -/

theorem ofJson_ok {j : Json} (read : ofJson ty j = .ok v) : v.Fits ty := by
  induction ty generalizing j v with
  | option inner ih =>
      cases j with
      | null =>
          cases read
          exact ⟨rfl, nofun⟩
      | _ => exact (ih read).option
  | list inner ih =>
      cases j with
      | array items =>
          obtain ⟨values, all, whole⟩ := bind_eq_ok.mp read
          cases whole
          exact fits_items (fun _ _ => ih) all
      | _ => cases read
  | named name =>
      cases j with
      | object members =>
          cases read
          exact ⟨beq_self_eq_true name, nofun⟩
      | _ => cases read
  | i32 | i64 =>
      cases j with
      | number n =>
          simp only [ofJson] at read
          split at read
          · cases read
            exact ⟨rfl, nofun⟩
          · cases read
      | _ => cases read
  | bool | str | f64 =>
      cases j <;> cases read
      exact ⟨rfl, nofun⟩
  | _ => cases j <;> cases read

theorem ofJsonBody_ok {b : Body} (read : ofJsonBody readJson b ty = .ok v) : v.Fits ty := by
  obtain ⟨j, -, converted⟩ := bind_eq_ok.mp (mapError_eq_ok.mp read)
  exact ofJson_ok converted

theorem ofBody_ok {b : Body} (read : ofBody readJson b ty = .ok v) : v.Fits ty := by
  fun_induction ofBody readJson b ty with
  | case1 inner blank =>
      cases read
      exact ⟨rfl, nofun⟩
  | case2 inner _ structured => exact ofJsonBody_ok read
  | case3 inner _ _ ih => exact (ih read).option
  | case4 =>
      obtain ⟨text, -, rfl⟩ := map_eq_ok.mp (mapError_eq_ok.mp read)
      exact ⟨rfl, nofun⟩
  | case6 ty _ _ primitive filled text decoded => exact ofScalarText_ok read
  | case8 ty _ _ _ structured => exact ofJsonBody_ok read
  | case5 | case7 | case9 => cases read

/-! ## All conversions -/

theorem conforms_of_convertWith {w : Value} (converted : v.convertWith readJson ty = .ok w) :
    w.conforms ty = true := by
  unfold convertWith at converted
  split at converted
  · rename_i already
    cases converted
    exact already
  · split at converted
    · exact (ofRaw_ok converted).conforms
    · exact (ofMap_ok converted).conforms
    · exact (ofBody_ok converted).conforms
    · cases converted

theorem conforms_of_convert {w : Value} (converted : v.convert ty = .ok w) :
    w.conforms ty = true :=
  conforms_of_convertWith converted

/-- However bodies are read as JSON, a converted value belongs to the type and is not converted any
further. -/
theorem convertWith_settles {w : Value} (converted : v.convertWith readJson ty = .ok w) :
    w.conforms ty = true ∧ w.convertWith readJson ty = .ok w := by
  have conforms := conforms_of_convertWith converted
  exact ⟨conforms, if_pos conforms⟩

theorem convertWith_settles_nested :
    let readJson : Bytes → Except BodyFault Json := fun _ =>
      .ok (.array [.null, .array [.number (.int 7), .null]])
    let ty : Ty := .option (.list (.option (.list (.option .i64))))
    let w := list [null, list [i64 7, null]]
    (body (Body.ofJson "[null, [7, null]]")).convertWith readJson ty = .ok w ∧
      w.conforms ty = true ∧ w.convertWith readJson ty = .ok w := by
  intro readJson ty w
  have converted : (body (Body.ofJson "[null, [7, null]]")).convertWith readJson ty = .ok w := by
    rfl
  exact ⟨converted, convertWith_settles converted⟩

end RouteAdapter.Value
