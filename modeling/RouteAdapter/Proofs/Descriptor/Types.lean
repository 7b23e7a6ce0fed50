import RouteAdapter.Descriptor.Reader
import RouteAdapter.Proofs.Outcome

/-!
# Types of descriptors

A record is decoded field by field, so what every field keeps holds of all that was gathered. The
types of parameters are decoded from texts; whatever the format of a descriptor file, there are no
others in it.

* `Record.decode_ok`: invariants of decoded records;
* `ControllerSet.described_of_ofFile`: the declared types of a descriptor file.
-/

namespace RouteAdapter

theorem Field.at_read {σ α : Type} {required : Bool} {name : String} {item : Decoder α}
    {get : σ → Option α} {set : σ → α → σ} {s s' : σ} {f : DocumentFormat} {d : Draft} :
    (Field.at required name item get set).read s f d = .ok s' ↔
      ∃ a, item f d = .ok a ∧ set s a = s' :=
  map_eq_ok

theorem Decoder.list_ok {α : Type} {item : Decoder α} {f : DocumentFormat} {d : Draft} {as : List α}
    (decoded : list item f d = .ok as) {a : α} (member : a ∈ as) : ∃ d, item f d = .ok a := by
  unfold list at decoded
  split at decoded
  · obtain ⟨values, items, closed⟩ := bind_eq_ok.mp decoded
    split at closed
    · cases closed
      obtain ⟨d, -, decoded⟩ := exists_of_mem_forall₂_right (mapM_eq_ok.mp items) member
      exact ⟨d, decoded⟩
    · cases closed
  · cases decoded

theorem forall_mem_getD {α : Type} {o : Option (List α)} {p : α → Prop}
    (each : ∀ as ∈ o, ∀ a ∈ as, p a) : ∀ a ∈ o.getD [], p a := by
  cases o with
  | none => simp
  | some as => exact each as rfl

namespace Record

variable {σ α : Type} {r : Record σ α} {f : DocumentFormat} {P : σ → Prop} {s s' : σ}

/-- Reading any field keeps the property. -/
def Keeps (r : Record σ α) (P : σ → Prop) : Prop :=
  ∀ field ∈ r.fields, ∀ f d s s', P s → field.read s f d = .ok s' → P s'

theorem gatherMembers_ok (keeps : r.Keeps P) {closed : Bool}
    {members : List (Option String × Draft)}
    (start : P s) (gathered : r.gatherMembers f closed s members = .ok s') : P s' := by
  induction members generalizing s with
  | nil =>
      rw [gatherMembers] at gathered
      split at gathered
      · cases gathered
        exact start
      · cases gathered
  | cons entry members ih =>
      obtain ⟨key, d⟩ := entry
      cases key with
      | none => cases gathered
      | some key =>
          rw [gatherMembers] at gathered
          split at gathered
          · rename_i field found
            split at gathered
            · cases gathered
            · obtain ⟨next, read, rest⟩ := bind_eq_ok.mp gathered
              exact ih (keeps field (List.mem_of_find?_eq_some found) f d s next start read) rest
          · split at gathered
            · cases gathered
            · split at gathered
              · exact ih start gathered
              · cases gathered

theorem gatherItems_ok (keeps : r.Keeps P) {closed : Bool} {index : Nat} {fields : List (Field σ)}
    {items : List Draft} (known : ∀ field ∈ fields, field ∈ r.fields) (start : P s)
    (gathered : r.gatherItems f closed s index fields items = .ok s') : P s' := by
  induction fields generalizing s index items with
  | nil =>
      cases items
      all_goals
        rw [gatherItems] at gathered
        split at gathered
        · cases gathered
          exact start
        · cases gathered
  | cons field fields ih =>
      obtain ⟨first, others⟩ := List.forall_mem_cons.mp known
      cases items with
      | nil =>
          rw [gatherItems] at gathered
          split at gathered
          · cases gathered
          · split at gathered
            · cases gathered
            · exact ih others start gathered
      | cons d items =>
          obtain ⟨next, read, rest⟩ := bind_eq_ok.mp gathered
          exact ih others (keeps field first f d s next start read) rest

theorem finish_ok {a : α} (finished : r.finish s = .ok a) : r.value? s = some a := by
  unfold finish at finished
  split at finished
  · cases finished
  · rename_i value
    cases finished
    exact value
  · cases finished

/-- What was decoded is the value of something that has every property that the fields keep. -/
theorem decode_ok {d : Draft} {a : α} (keeps : r.Keeps P) (blank : P r.blank)
    (decoded : r.decode f d = .ok a) : ∃ s, P s ∧ r.value? s = some a := by
  unfold decode at decoded
  split at decoded
  · obtain ⟨s, gathered, finished⟩ := bind_eq_ok.mp decoded
    exact ⟨s, gatherMembers_ok keeps blank gathered, finish_ok finished⟩
  · obtain ⟨s, gathered, finished⟩ := bind_eq_ok.mp decoded
    exact ⟨s, gatherItems_ok keeps (fun _ known => known) blank gathered, finish_ok finished⟩
  · cases decoded

end Record

/-! ## Descriptors -/

/-- The declared type is what some text describes. -/
def DeclaredParam.Described (p : DeclaredParam) : Prop :=
  ∃ text, Ty.ofText text = .ok p.ty

def DeclaredMethod.Described (m : DeclaredMethod) : Prop :=
  ∀ p ∈ m.params, p.Described

def Controller.Described (c : Controller) : Prop :=
  ∀ m ∈ c.methods, m.Described

variable {f : DocumentFormat} {d : Draft}

theorem Decoder.ty_ok {ty : Ty} (decoded : Decoder.ty f d = .ok ty) :
    ∃ text, Ty.ofText text = .ok ty := by
  obtain ⟨text, -, read⟩ := bind_eq_ok.mp decoded
  exact ⟨text, mapError_eq_ok.mp read⟩

theorem DeclaredParam.described_of_decode {p : DeclaredParam}
    (decoded : record.decode f d = .ok p) : p.Described := by
  have keeps : record.Keeps fun s => ∀ ty ∈ s.ty, ∃ text, Ty.ofText text = .ok ty := by
    simp only [Record.Keeps, record, List.forall_mem_cons, Field.at_read]
    refine ⟨?_, ?_, ?_, nofun⟩
    · rintro f d s _ before ⟨name, -, rfl⟩
      exact before
    · rintro f d s _ - ⟨ty, read, rfl⟩ _ ⟨⟩
      exact Decoder.ty_ok read
    · rintro f d s _ before ⟨annotations, -, rfl⟩
      exact before
  obtain ⟨s, types, value⟩ := Record.decode_ok keeps nofun decoded
  simp only [record, bind, Option.bind_eq_some_iff, pure] at value
  obtain ⟨name, -, ty, declared, whole⟩ := value
  cases whole
  exact types ty declared

theorem DeclaredMethod.described_of_decode {m : DeclaredMethod}
    (decoded : record.decode f d = .ok m) : m.Described := by
  have keeps : record.Keeps fun s => ∀ params ∈ s.params, ∀ p ∈ params, p.Described := by
    simp only [Record.Keeps, record, List.forall_mem_cons, Field.at_read]
    refine ⟨?_, ?_, ?_, nofun⟩
    · rintro f d s _ before ⟨name, -, rfl⟩
      exact before
    · rintro f d s _ - ⟨params, read, rfl⟩ _ ⟨⟩ p member
      obtain ⟨d, decoded⟩ := Decoder.list_ok read member
      exact DeclaredParam.described_of_decode decoded
    · rintro f d s _ before ⟨returns, -, rfl⟩
      exact before
  obtain ⟨s, params, value⟩ := Record.decode_ok keeps nofun decoded
  simp only [record, bind, Option.bind_eq_some_iff, pure] at value
  obtain ⟨name, -, whole⟩ := value
  cases whole
  exact forall_mem_getD params

theorem Controller.described_of_decode {c : Controller} (decoded : record.decode f d = .ok c) :
    c.Described := by
  have keeps : record.Keeps fun s => ∀ methods ∈ s.methods, ∀ m ∈ methods, m.Described := by
    simp only [Record.Keeps, record, List.forall_mem_cons, Field.at_read]
    refine ⟨?_, ?_, nofun⟩
    · rintro f d s _ before ⟨name, -, rfl⟩
      exact before
    · rintro f d s _ - ⟨methods, read, rfl⟩ _ ⟨⟩ m member
      obtain ⟨d, decoded⟩ := Decoder.list_ok read member
      exact DeclaredMethod.described_of_decode decoded
  obtain ⟨s, methods, value⟩ := Record.decode_ok keeps nofun decoded
  simp only [record, bind, Option.bind_eq_some_iff, pure] at value
  obtain ⟨name, -, whole⟩ := value
  cases whole
  exact forall_mem_getD methods

namespace ControllerSet

theorem described_of_decode {set : ControllerSet} (decoded : record.decode f d = .ok set) :
    ∀ c ∈ set.controllers, c.Described := by
  have keeps : record.Keeps fun s => ∀ controllers ∈ s, ∀ c ∈ controllers, c.Described := by
    simp only [Record.Keeps, record, List.forall_mem_cons, Field.at_read]
    refine ⟨?_, nofun⟩
    rintro f d s _ - ⟨controllers, read, rfl⟩ _ ⟨⟩ c member
    obtain ⟨d, decoded⟩ := Decoder.list_ok read member
    exact Controller.described_of_decode decoded
  obtain ⟨s, controllers, value⟩ := Record.decode_ok keeps nofun decoded
  cases value
  exact forall_mem_getD controllers

theorem described_of_ofToml {text : String} {set : ControllerSet} (read : ofToml text = .ok set) :
    ∀ c ∈ set.controllers, c.Described := by
  rw [ofToml, mapError_eq_ok, Toml.decode] at read
  split at read
  · exact described_of_decode read
  · cases read

theorem described_of_ofJson {text : String} {set : ControllerSet} (read : ofJson text = .ok set) :
    ∀ c ∈ set.controllers, c.Described := by
  rw [ofJson, mapError_eq_ok, Json.decode] at read
  generalize Json.draft text.toList = document at read
  obtain ⟨d, atEnd⟩ := document
  obtain ⟨decoded, first, ended⟩ := bind_eq_ok.mp read
  split at ended
  · cases ended
    exact described_of_decode first
  · cases ended

/-- Descriptor files declare types by their texts, in either format. -/
theorem described_of_ofFile {files : Files} {path : String} {set : ControllerSet}
    (read : ofFile files path = .ok set) : ∀ c ∈ set.controllers, c.Described := by
  obtain ⟨text, -, decoded⟩ := bind_eq_ok.mp read
  split at decoded
  · exact described_of_ofToml decoded
  · exact described_of_ofJson decoded
  · cases decoded

end ControllerSet
end RouteAdapter
