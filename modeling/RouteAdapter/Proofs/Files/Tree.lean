import RouteAdapter.Proofs.Files.Path

/-!
# What writing changes

A directory is made where nothing was, and a file is written where no directory is. Directories
stay, so that paths lead where they led.

* `FileTree.makeDirectories_grows`: making directories, successful or not;
* `FileTree.write_ok`: writing a file.
-/

namespace RouteAdapter

theorem Path.unsplit_concat_injective (dir : Location) {name other : Name}
    (same : unsplit (dir ++ [name]) = unsplit (dir ++ [other])) : name = other := by
  induction dir with
  | nil => simpa [unsplit] using same
  | cons first dir ih =>
      have after (last : Name) :
          unsplit (first :: dir ++ [last]) = first ++ ['/'] ++ unsplit (dir ++ [last]) :=
        List.intercalate_cons_of_ne_nil (List.concat_ne_nil last dir)
      rw [after, after] at same
      exact ih (List.append_cancel_left same)

theorem Location.text_concat_injective {dir : Location} {name other : Path.Name}
    (same : text (dir ++ [name]) = text (dir ++ [other])) : name = other :=
  Path.unsplit_concat_injective dir (String.ofList_injective same)

namespace FileTree

variable {t t' t'' : FileTree} {l l' : Location} {node : FileNode} {path : String} {bytes : Bytes}

theorem node?_of_text (text : l'.text = l.text) (within : l'.isAbove = false)
    (within' : l.isAbove = false) : t.node? l' = t.node? l := by
  rw [node?, node?, within, within', text]

theorem node?_put (within : l.isAbove = false) : (t.put l node).node? l = some node := by
  rw [node?, within]
  exact Dict.get?_insert_self ..

theorem node?_put_of_ne (other : l'.text ≠ l.text) : (t.put l node).node? l' = t.node? l' := by
  rw [node?, node?]
  split
  · rfl
  · exact Dict.get?_insert_of_ne _ _ other

theorem node?_above (above : l.isAbove = true) : t.node? l = some .directory := by
  rw [node?, above, if_pos rfl]

/-! ## Directories stay -/

def Keeps (t t' : FileTree) : Prop :=
  ∀ l, t.node? l = some .directory → t'.node? l = some .directory

theorem Keeps.refl (t : FileTree) : t.Keeps t :=
  fun _ => id

theorem Keeps.trans (first : t.Keeps t') (second : t'.Keeps t'') : t.Keeps t'' :=
  fun l directory => second l (first l directory)

theorem Keeps.walk {names : List Path.Name} (keeps : t.Keeps t')
    (walked : t.walk l names = .ok l') : t'.walk l names = .ok l' := by
  induction names generalizing l with
  | nil => exact walked
  | cons name names ih =>
      obtain ⟨directory, next, went, rest⟩ := walk_cons.mp walked
      exact walk_cons.mpr ⟨keeps l directory, next, went, ih rest⟩

theorem Keeps.locate (keeps : t.Keeps t') (located : t.locate path = .ok l) :
    t'.locate path = .ok l := by
  obtain ⟨checked, named, walked⟩ := locate_eq_ok.mp located
  exact locate_eq_ok.mpr ⟨checked, named, keeps.walk walked⟩

def Grows (t t' : FileTree) : Prop :=
  ∀ l, t'.node? l = t.node? l ∨ t.node? l = none ∧ t'.node? l = some .directory

theorem Grows.refl (t : FileTree) : t.Grows t :=
  fun _ => .inl rfl

theorem Grows.trans (first : t.Grows t') (second : t'.Grows t'') : t.Grows t'' := by
  intro l
  rcases second l with same | ⟨none, new⟩
  · rw [same]
    exact first l
  · rcases first l with same | ⟨-, directory⟩
    · exact .inr ⟨same ▸ none, new⟩
    · cases none.symm.trans directory

/-! ## Making directories -/

theorem makeDirectory_grows (made : t.makeDirectory path = .ok t') : t.Grows t' := by
  obtain ⟨-, -, made⟩ := bind_eq_ok.mp made
  obtain ⟨dir, -, made⟩ := bind_eq_ok.mp made
  split at made
  · cases made
  · next none =>
      cases made
      rw [Option.not_isSome_iff_eq_none] at none
      intro l
      by_cases same : l.text = dir.text
      · cases above : l.isAbove with
        | true => exact .inl (by rw [node?_above above, node?_above above])
        | false =>
            have within : dir.isAbove = false := by
              by_contra above'
              rw [node?_above (Bool.not_eq_false _ ▸ above')] at none
              cases none
            refine .inr ⟨?_, ?_⟩
            · rw [node?_of_text same above within, none]
            · rw [node?_of_text same above within, node?_put within]
      · exact .inl (node?_put_of_ne same)

theorem orPresent_grows {made : Except FileError FileTree}
    (grows : ∀ t', made = .ok t' → t.Grows t') : t.Grows (t.orPresent path made).2 := by
  unfold orPresent
  split
  · exact grows _ rfl
  · split <;> exact Grows.refl t

theorem makeParents_grows (fuel : Nat) (t : FileTree) (path : String) :
    t.Grows (makeParents fuel t path).2 := by
  have one (t : FileTree) (path : String) : t.Grows (t.orPresent path (t.makeDirectory path)).2 :=
    orPresent_grows fun _ => makeDirectory_grows
  induction fuel generalizing t path with
  | zero => exact Grows.refl t
  | succ fuel ih =>
      rw [makeParents]
      split
      · exact Grows.refl t
      · split
        · split
          · exact Grows.refl t
          · next parent _ =>
              have above := ih t parent
              split
              · next failed =>
                  rw [failed] at above
                  exact above
              · next made =>
                  rw [made] at above
                  exact above.trans (one _ path)
        · exact one t path

theorem makeDirectories_grows (t : FileTree) (path : String) :
    t.Grows (t.makeDirectories path).2 :=
  makeParents_grows _ t path

/-! ## Writing files -/

theorem write_ok (wrote : t.write path bytes = .ok t') :
    ∃ l, t.locate path = .ok l ∧ l.isAbove = false ∧ t' = t.put l (.file bytes) ∧ t.Keeps t' := by
  obtain ⟨l, located, wrote⟩ := bind_eq_ok.mp wrote
  split at wrote
  · cases wrote
  · next other =>
      cases wrote
      have within : l.isAbove = false := by
        by_contra above
        exact other (node?_above (Bool.not_eq_false _ ▸ above))
      refine ⟨l, located, within, rfl, fun dir directory => ?_⟩
      cases above : dir.isAbove with
      | true => exact node?_above above
      | false =>
          by_cases same : dir.text = l.text
          · exact absurd (node?_of_text same above within ▸ directory) other
          · rw [node?_put_of_ne same, directory]

theorem read_ok (located : t.locate path = .ok l) (file : t.node? l = some (.file bytes)) :
    t.read path = .ok bytes := by
  refine bind_eq_ok.mpr ⟨l, located, ?_⟩
  rw [file]
  rfl

end FileTree

end RouteAdapter
