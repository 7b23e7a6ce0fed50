import Mathlib.Data.List.Forall2

/-!
# Outcomes

When a computation that may fail, and a pass over a list of such computations, succeed, and what
they fail with.
-/

namespace RouteAdapter

variable {ε δ α β : Type}

theorem bind_eq_ok {x : Except ε α} {f : α → Except ε β} {b : β} :
    x >>= f = .ok b ↔ ∃ a, x = .ok a ∧ f a = .ok b := by
  cases x with
  | error e => simp [bind, Except.bind]
  | ok a => simp [bind, Except.bind]

theorem bind_eq_error {x : Except ε α} {f : α → Except ε β} {e : ε} :
    x >>= f = .error e ↔ x = .error e ∨ ∃ a, x = .ok a ∧ f a = .error e := by
  cases x with
  | error e => simp [bind, Except.bind]
  | ok a => simp [bind, Except.bind]

theorem mapError_eq_ok {x : Except ε α} {f : ε → δ} {a : α} :
    x.mapError f = .ok a ↔ x = .ok a := by
  cases x <;> simp [Except.mapError]

theorem mapError_eq_error {x : Except ε α} {f : ε → δ} {e : δ} :
    x.mapError f = .error e ↔ ∃ fault, x = .error fault ∧ f fault = e := by
  cases x <;> simp [Except.mapError]

theorem map_eq_ok {x : Except ε α} {f : α → β} {b : β} :
    x.map f = .ok b ↔ ∃ a, x = .ok a ∧ f a = b := by
  cases x <;> simp [Except.map]

theorem toOption_eq_some {x : Except ε α} {a : α} : x.toOption = some a ↔ x = .ok a := by
  cases x <;> simp [Except.toOption]

theorem exists_ok_of_toOption {x : Except ε α} {p : α → Prop} (answered : x.toOption.isSome)
    (all : ∀ a ∈ x.toOption, p a) : ∃ a, x = .ok a ∧ p a := by
  cases x with
  | error e => cases answered
  | ok a => exact ⟨a, rfl, all a rfl⟩

theorem mapM_eq_ok {f : α → Except ε β} {as : List α} {bs : List β} :
    as.mapM f = .ok bs ↔ List.Forall₂ (fun a b => f a = .ok b) as bs := by
  induction as generalizing bs with
  | nil => simp [pure, Except.pure, eq_comm]
  | cons a as ih =>
      simp only [List.mapM_cons, bind_eq_ok, List.forall₂_cons_left_iff, ih]
      constructor
      · rintro ⟨b, head, bs, tail, whole⟩
        cases whole
        exact ⟨b, bs, head, tail, rfl⟩
      · rintro ⟨b, bs, head, tail, rfl⟩
        exact ⟨b, head, bs, tail, rfl⟩

/-- A pass over a list fails with the fault of the first entry that has one. -/
theorem mapM_eq_error {f : α → Except ε β} {as : List α} {e : ε} :
    as.mapM f = .error e ↔ ∃ before a after, as = before ++ a :: after ∧
      (∀ b ∈ before, ∃ answer, f b = .ok answer) ∧ f a = .error e := by
  constructor
  · intro failed
    induction as with
    | nil => cases failed
    | cons a as ih =>
        rw [List.mapM_cons, bind_eq_error] at failed
        rcases failed with here | ⟨answer, first, rest⟩
        · exact ⟨[], a, as, rfl, nofun, here⟩
        · rcases bind_eq_error.mp rest with later | ⟨answers, -, whole⟩
          · obtain ⟨before, b, after, rfl, passed, fault⟩ := ih later
            exact ⟨a :: before, b, after, rfl, List.forall_mem_cons.mpr ⟨⟨answer, first⟩, passed⟩,
              fault⟩
          · cases whole
  · rintro ⟨before, a, after, rfl, passed, fault⟩
    induction before with
    | nil => rw [List.nil_append, List.mapM_cons, fault]; rfl
    | cons b before ih =>
        obtain ⟨⟨answer, first⟩, others⟩ := List.forall_mem_cons.mp passed
        rw [List.cons_append, List.mapM_cons, first]
        exact bind_eq_error.mpr (.inr ⟨answer, rfl, bind_eq_error.mpr (.inl (ih others))⟩)

theorem exists_of_mapM_error {f : α → Except ε β} {as : List α} {e : ε}
    (failed : as.mapM f = .error e) : ∃ a ∈ as, f a = .error e := by
  obtain ⟨before, a, after, rfl, -, fault⟩ := mapM_eq_error.mp failed
  exact ⟨a, List.mem_append_right before List.mem_cons_self, fault⟩

theorem exists_forall₂ {r : α → β → Prop} {as : List α} (each : ∀ a ∈ as, ∃ b, r a b) :
    ∃ bs, List.Forall₂ r as bs := by
  induction as with
  | nil => exact ⟨[], .nil⟩
  | cons a as ih =>
      obtain ⟨b, head⟩ := each a List.mem_cons_self
      obtain ⟨bs, tail⟩ := ih fun a' member => each a' (List.mem_cons_of_mem a member)
      exact ⟨b :: bs, .cons head tail⟩

theorem getElem?_of_forall₂ {r : α → β → Prop} {as : List α} {bs : List β}
    (related : List.Forall₂ r as bs) {i : Nat} {a : α} (entry : as[i]? = some a) :
    ∃ b, bs[i]? = some b ∧ r a b := by
  induction related generalizing i with
  | nil => simp at entry
  | @cons a' b as bs head tail ih =>
      cases i with
      | zero =>
          rw [List.getElem?_cons_zero, Option.some.injEq] at entry
          exact ⟨b, rfl, entry ▸ head⟩
      | succ i => exact ih entry

theorem exists_of_mem_forall₂ {r : α → β → Prop} {as : List α} {bs : List β}
    (related : List.Forall₂ r as bs) {a : α} (member : a ∈ as) : ∃ b ∈ bs, r a b := by
  obtain ⟨i, entry⟩ := List.mem_iff_getElem?.mp member
  obtain ⟨b, other, holds⟩ := getElem?_of_forall₂ related entry
  exact ⟨b, List.mem_of_getElem? other, holds⟩

theorem exists_of_mem_forall₂_right {r : α → β → Prop} {as : List α} {bs : List β}
    (related : List.Forall₂ r as bs) {b : β} (member : b ∈ bs) : ∃ a ∈ as, r a b := by
  have flipped : List.Forall₂ (flip r) bs as := List.Forall₂.flip related
  exact exists_of_mem_forall₂ flipped member

theorem forall₂_trans {γ : Type} {r : α → β → Prop} {s : β → γ → Prop} {as : List α} {bs : List β}
    {cs : List γ} (first : List.Forall₂ r as bs) (second : List.Forall₂ s bs cs) :
    List.Forall₂ (fun a c => ∃ b, r a b ∧ s b c) as cs := by
  induction first generalizing cs with
  | nil =>
      cases second
      exact .nil
  | cons head _ ih =>
      cases second with
      | cons head' tail' => exact .cons ⟨_, head, head'⟩ (ih tail')

theorem map_mapIdx {γ : Type} (f : Nat → α → β) (g : β → γ) (as : List α) :
    (as.mapIdx f).map g = as.mapIdx fun i a => g (f i a) := by
  refine List.ext_getElem? fun i => ?_
  rw [List.getElem?_map, List.getElem?_mapIdx, List.getElem?_mapIdx, Option.map_map]
  rfl

theorem exists_append_of_forall₂ {r : α → β → Prop} {front back : List α} {bs : List β}
    (related : List.Forall₂ r (front ++ back) bs) :
    ∃ first second, bs = first ++ second ∧ List.Forall₂ r front first ∧
      List.Forall₂ r back second := by
  induction front generalizing bs with
  | nil => exact ⟨[], bs, rfl, .nil, related⟩
  | cons a front ih =>
      cases related with
      | cons head tail =>
          obtain ⟨first, second, rfl, left, right⟩ := ih tail
          exact ⟨_ :: first, second, rfl, .cons head left, right⟩

/-- A pass over a list passes over where the list starts, with the first of its answers. -/
theorem mapM_of_prefix {f : α → Except ε β} {as more : List α} {bs : List β} (within : as <+: more)
    (all : more.mapM f = .ok bs) : ∃ front, as.mapM f = .ok front ∧ front <+: bs := by
  obtain ⟨rest, rfl⟩ := within
  obtain ⟨front, back, rfl, before, -⟩ := exists_append_of_forall₂ (mapM_eq_ok.mp all)
  exact ⟨front, mapM_eq_ok.mpr before, List.prefix_append front back⟩

end RouteAdapter
