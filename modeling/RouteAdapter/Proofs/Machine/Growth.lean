import RouteAdapter.Proofs.Lowering.Operations
import RouteAdapter.Proofs.Machine.Balance

/-!
# Grown tables

Instructions refer to entries by position, so entries that are appended to the tables of a module
change nothing for the functions that it already has.

* `Function.verify_of_extends`: they stay verified;
* `LoadedFunction.load_of_extends`: they are resolved to the same code;
* `Machine.runFrom_of_prefix`: the code makes the same calls, with the same result;
* `LoadedFunction.stable_of_extends`: all three, from verification over the shorter tables alone.
-/

namespace RouteAdapter
open Verify

variable {f : Function} {m n : Module}

theorem getElem?_of_prefix {α : Type} {table longer : List α} (within : table <+: longer) {i : Nat}
    {a : α} (entry : table[i]? = some a) : longer[i]? = some a := by
  obtain ⟨known, rfl⟩ := List.getElem?_eq_some_iff.mp entry
  exact List.prefix_iff_getElem?.mp within i known

/-! ## Verification -/

theorem Instruction.Refers.of_extends {i : Instruction} (grown : m.tables.Extends n.tables)
    (refers : i.Refers f m) : i.Refers f n := by
  cases i with
  | loadCtx => exact refers
  | constStr index => exact Nat.lt_of_lt_of_le refers grown.constants.length_le
  | convert index => exact Nat.lt_of_lt_of_le refers grown.types.length_le
  | box tag => exact refers
  | invokeAccessor index argc =>
      obtain ⟨a, entry, count⟩ := refers
      exact ⟨a, getElem?_of_prefix grown.accessors entry, count⟩
  | invokeController index argc =>
      obtain ⟨r, entry, count⟩ := refers
      exact ⟨r, getElem?_of_prefix grown.methods entry, count⟩
  | noContent => trivial
  | ret => trivial

theorem Verify.pops_of_extends {i : Instruction} (grown : m.tables.Extends n.tables)
    (refers : i.Refers f m) : pops n i = pops m i := by
  cases i with
  | invokeAccessor index argc =>
      -- The depth check looks the accessor up once more.
      obtain ⟨a, entry, -⟩ := refers
      have same : n.accessors[index.toNat]? = some a := getElem?_of_prefix grown.accessors entry
      simp only [pops, entry, same]
  | _ => rfl

theorem Function.verify_of_extends (grown : m.tables.Extends n.tables)
    (verified : f.verify m = .ok ()) : f.verify n = .ok () := by
  obtain ⟨body, decoded, refs, depths, returns⟩ := verify_ok.mp verified
  have refers : ∀ i ∈ body, i.instruction.Refers f m :=
    fun i member => Instruction.refers_iff.mp (refs i member)
  refine verify_ok.mpr ⟨body, decoded, fun i member => ?_, ?_, returns⟩
  · exact Instruction.refers_iff.mpr ((refers i member).of_extends grown)
  · rw [checkDepth_eq_of_pops fun i member => pops_of_extends grown (refers i member), depths]

/-! ## Loading -/

theorem Resolved.ofInstruction_of_extends {accessors more : List Accessor} {i : Located}
    {r : Resolved} (grown : m.tables.Extends n.tables) (within : accessors <+: more)
    (resolved : ofInstruction m accessors i = .ok r) : ofInstruction n more i = .ok r := by
  obtain ⟨offset, instruction⟩ := i
  cases instruction with
  | loadCtx => exact resolved
  | constStr index =>
      obtain ⟨s, found, rfl⟩ := entry_ok.mp resolved
      exact entry_ok.mpr ⟨s, getElem?_of_prefix grown.constants found, rfl⟩
  | convert index =>
      obtain ⟨ty, found, rfl⟩ := entry_ok.mp resolved
      exact entry_ok.mpr ⟨ty, getElem?_of_prefix grown.types found, rfl⟩
  | box tag => exact resolved
  | invokeAccessor index argc =>
      obtain ⟨accessor, found, rfl⟩ := entry_ok.mp resolved
      exact entry_ok.mpr ⟨accessor, getElem?_of_prefix within found, rfl⟩
  | invokeController index argc =>
      simp only [ofInstruction] at resolved
      split at resolved
      · rename_i known
        cases resolved
        exact if_pos (Nat.lt_of_lt_of_le known grown.methods.length_le)
      · cases resolved
  | noContent => exact resolved
  | ret => exact resolved

theorem LoadedFunction.load_of_extends {accessors more : List Accessor} {loaded : LoadedFunction}
    (grown : m.tables.Extends n.tables) (within : accessors <+: more)
    (shorter : load f m accessors = .ok loaded) : load f n more = .ok loaded := by
  obtain ⟨body, decoded, name, resolved⟩ := load_ok.mp shorter
  refine load_ok.mpr ⟨body, decoded, name, resolved.imp fun i r same => ?_⟩
  exact Resolved.ofInstruction_of_extends grown within same

/-! ## Runs -/

namespace Machine

variable {ctx : Context} {methods more : List Linked} {stack : Stack}

theorem step_of_prefix {r : Resolved} (within : methods <+: more) (bound : r.Bound methods) :
    step ctx more stack r = step ctx methods stack r := by
  cases r with
  | invokeController method argc =>
      have entry : methods[method]? = some methods[method] := List.getElem?_eq_getElem bound
      simp only [step, callController, entry, getElem?_of_prefix within entry]
  | _ => rfl

theorem runFrom_of_prefix {code : List Resolved} (within : methods <+: more)
    (bound : ∀ r ∈ code, r.Bound methods) :
    runFrom ctx more stack code = runFrom ctx methods stack code := by
  induction code generalizing stack with
  | nil => rfl
  | cons r code ih =>
      obtain ⟨first, rest⟩ := List.forall_mem_cons.mp bound
      simp only [runFrom, step_of_prefix within first, ih rest]

end Machine

namespace LoadedFunction

/-- A function that is verified over the tables of a module is verified over all tables that start
with these. Where the longer tables can be bound, so can the shorter ones, and the function is
resolved to the same code, which runs in the same way. -/
theorem stable_of_extends (grown : m.tables.Extends n.tables) (verified : f.verify m = .ok ()) :
    f.verify n = .ok () ∧
      ∀ more, Accessor.ofTable n.accessors = .ok more →
        ∃ accessors loaded, Accessor.ofTable m.accessors = .ok accessors ∧
          load f m accessors = .ok loaded ∧ load f n more = .ok loaded ∧
          ∀ h linked, Linked.ofTable h n.methods = .ok linked →
            ∃ methods, Linked.ofTable h m.methods = .ok methods ∧
              ∀ ctx, loaded.execute ctx linked = loaded.execute ctx methods := by
  refine ⟨Function.verify_of_extends grown verified, fun more all => ?_⟩
  -- Entries are bound one by one, so the shorter table is bound to where the longer list starts.
  rw [Accessor.ofTable_eq_mapM] at all
  obtain ⟨accessors, bound, within⟩ := mapM_of_prefix grown.accessors all
  rw [← Accessor.ofTable_eq_mapM] at bound
  obtain ⟨loaded, load⟩ :=
    exists_load_of_length verified (Accessor.ofTable_ok.mp bound).length_eq.symm
  refine ⟨accessors, loaded, bound, load, load_of_extends grown within load, fun h linked all => ?_⟩
  rw [Linked.ofTable_eq_mapM] at all
  obtain ⟨methods, link, front⟩ := mapM_of_prefix grown.methods all
  rw [← Linked.ofTable_eq_mapM] at link
  have table := (Linked.ofTable_ok.mp link).length_eq
  exact ⟨methods, link, fun ctx => Machine.runFrom_of_prefix front (bound_of_load load table.symm)⟩

/-- The tables of `showModule` with one entry more each. -/
def findModule : Module :=
  { Module.named "Find$Adapter" with
    constants := Pool.ofStrings ["id", "q"]
    accessors := showModule.accessors ++ [⟨"query", "(str)->value", 1⟩]
    methods := showModule.methods ++ [⟨"Users.find", "(str)->str", 1⟩]
    types := [.i32, .str] }

def findHandlers : HandlerRegistry :=
  showHandlers.register "Users.find" "(str)->str" fun _ args => .ok (args.headD .noContent)

theorem stable_of_extends_showId :
    showModule.tables.Extends findModule.tables ∧ showId.verify showModule = .ok () ∧
      showId.verify findModule = .ok () ∧
      ∃ loaded linked methods, load showId findModule [.single .path, .single .query] = .ok loaded ∧
        load showId showModule [.single .path] = .ok loaded ∧
        Linked.ofTable findHandlers findModule.methods = .ok linked ∧
        Linked.ofTable findHandlers showModule.methods = .ok methods ∧
        ∀ ctx, loaded.execute ctx linked = loaded.execute ctx methods := by
  have grown : showModule.tables.Extends findModule.tables :=
    ⟨⟨["q"], rfl⟩, ⟨_, rfl⟩, ⟨_, rfl⟩, ⟨[.str], rfl⟩⟩
  have verified : showId.verify showModule = .ok () := rfl
  have bound : Accessor.ofTable findModule.accessors = .ok [.single .path, .single .query] := rfl
  have linked : Linked.ofTable findHandlers findModule.methods = .ok _ := rfl
  obtain ⟨stays, alike⟩ := stable_of_extends grown verified
  obtain ⟨accessors, loaded, shorter, load, same, runs⟩ := alike _ bound
  obtain ⟨methods, link, executes⟩ := runs findHandlers _ linked
  cases shorter
  exact ⟨grown, verified, stays, loaded, _, methods, same, load, linked, link, executes⟩

end LoadedFunction
end RouteAdapter
