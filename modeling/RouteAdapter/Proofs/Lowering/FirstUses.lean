import Mathlib.Data.List.Nodup
import RouteAdapter.Proofs.Lowering.Totality

/-!
# Order of first use

The four tables of a module are lists of first uses: what all operations of the class refer to, in
their order, without repetitions. Options decide whether the module is verified and what is written
beside the tables, but neither the tables nor the code.

* `Tables.firstUses_eq`: a table after a list of uses, without its recursion;
* `Tables.Lists`: a table that lists uses;
* `Module.verify_assemble_congr`: verification does not see the options;
* `EmittedClass.lists_uses`: the tables of a class under any options;
* `EmittedClass.lower_idle`: a class that verification refuses.
-/

namespace RouteAdapter
open Verify

/-! ## Lists of first uses -/

namespace Tables

variable {α : Type} [DecidableEq α]

/-- New uses come after the table, each at its first occurrence. -/
theorem firstUses_eq (table uses : List α) :
    firstUses table uses = table ++ (uses.removeAll table).eraseDups := by
  induction uses generalizing table with
  | nil => simp [firstUses, List.removeAll]
  | cons a uses ih =>
      rw [firstUses_cons, ih]
      by_cases known : a ∈ table
      · simp [known, List.removeAll]
      · have later : uses.removeAll (table ++ [a]) =
            (uses.removeAll table).filter fun b => !b == a := by
          simp only [List.removeAll, List.filter_filter]
          refine List.filter_congr fun b _ => ?_
          by_cases same : b = a <;> simp [same]
        have first : (a :: uses).removeAll table = a :: uses.removeAll table := by
          simp [List.removeAll, known]
        rw [if_neg known, first, List.eraseDups_cons, later, List.append_assoc]
        rfl

theorem nodup_firstUses {table : List α} (distinct : table.Nodup) (uses : List α) :
    (firstUses table uses).Nodup := by
  induction uses generalizing table with
  | nil => exact distinct
  | cons a uses ih =>
      rw [firstUses_cons]
      split
      · exact ih distinct
      · rename_i new
        exact ih (List.concat_eq_append ▸ List.Nodup.concat new distinct)

/-- The table has all uses and nothing else, each once, in the order in which they come first. -/
structure Lists (table uses : List α) : Prop where
  order : table = uses.eraseDups
  once : table.Nodup
  used : ∀ a, a ∈ table ↔ a ∈ uses

theorem lists_firstUses (uses : List α) : Lists (firstUses [] uses) uses := by
  refine ⟨?_, nodup_firstUses List.nodup_nil uses, fun a => ?_⟩
  · rw [firstUses_eq, List.nil_append, List.removeAll]
    simp
  · rw [mem_firstUses]
    simp

end Tables

/-! ## Options -/

theorem AdapterUnit.length_lowerAll {t t' : Tables} {units : List AdapterUnit}
    {functions : List Function} (lowered : lowerAll t units = .ok (t', functions)) :
    units.length = functions.length := by
  induction units generalizing t functions with
  | nil =>
      cases lowered
      rfl
  | cons u units ih =>
      simp only [lowerAll, bind_eq_ok, Prod.exists] at lowered
      obtain ⟨next, f, -, last, rest, others, whole⟩ := lowered
      cases whole
      simp only [List.length_cons, ih others]

namespace Module

variable {m m' : Module}

theorem checkRef_congr (same : m.tables = m'.tables) (f : Function) (i : Located) :
    checkRef f m i = checkRef f m' i := by
  simp only [tables, Tables.mk.injEq] at same
  obtain ⟨constants, accessors, methods, types⟩ := same
  simp only [checkRef, constants, accessors, methods, types]

theorem pops_congr (same : m.tables = m'.tables) (i : Instruction) :
    Verify.pops m i = Verify.pops m' i := by
  simp only [tables, Tables.mk.injEq] at same
  obtain ⟨-, accessors, -, -⟩ := same
  cases i with
  | invokeAccessor index argc => simp only [Verify.pops, accessors]
  | _ => rfl

theorem checkRefs_congr (same : m.tables = m'.tables) (f : Function) (body : List Located) :
    checkRefs f m body = checkRefs f m' body := by
  induction body with
  | nil => rfl
  | cons i body ih => simp only [checkRefs, checkRef_congr same, ih]

theorem checkDepth_congr (same : m.tables = m'.tables) (depth : Nat) (body : List Located) :
    checkDepth m depth body = checkDepth m' depth body :=
  checkDepth_eq_of_pops (fun i _ => pops_congr same i.instruction) depth

/-- The verifier knows a module by its tables. -/
theorem verifyFunctions_congr (same : m.tables = m'.tables) (functions : List Function) :
    m.verifyFunctions functions = m'.verifyFunctions functions := by
  induction functions with
  | nil => rfl
  | cons f functions ih =>
      simp only [verifyFunctions, Function.verify, checkRefs_congr same, checkDepth_congr same, ih]

end Module

namespace EmittedClass

variable {c : EmittedClass} {t : Tables} {functions : List Function}

theorem verify_assemble_congr (count : c.units.length = functions.length)
    (options other : LowerOptions) :
    (c.assemble options t functions).verify = (c.assemble other t functions).verify := by
  have same : (c.assemble options t functions).tables = (c.assemble other t functions).tables := rfl
  rw [Module.verify, Module.verify, validate_assemble count, validate_assemble count,
    Module.verifyFunctions_congr same]
  rfl

/-- Once the units are lowered, only verification can refuse the module. -/
theorem lower_of_units (units : AdapterUnit.lowerAll Tables.empty c.units = .ok (t, functions))
    (options : LowerOptions) :
    c.lower options =
      match options.verify, (c.assemble options t functions).verify with
      | true, .error e => .error (.verification c.name e)
      | _, _ => .ok (c.assemble options t functions) := by
  rw [lower, units]
  cases options.verify with
  | false => rfl
  | true =>
      cases verdict : (c.assemble options t functions).verify <;>
        simp [verdict, bind, Except.bind, pure, Except.pure, Except.mapError]

theorem lists_of_records {t : Tables} (records : Tables.empty.Records c.ops t) :
    Tables.Lists t.constants.strings (c.ops.filterMap Op.literal?) ∧
    Tables.Lists t.accessors (c.ops.filterMap Op.accessor?) ∧
    Tables.Lists t.methods (c.ops.filterMap Op.method?) ∧
    Tables.Lists t.types (c.ops.filterMap Op.target?) := by
  obtain rfl := tables_of_records records
  exact ⟨Tables.lists_firstUses _, Tables.lists_firstUses _, Tables.lists_firstUses _,
    Tables.lists_firstUses _⟩

/-- The tables of a class are the lists of first uses of its operations. Other options yield the
same tables, functions and classes, except that a module that does not verify is refused where they
ask for verification, which it was not lowered with. -/
theorem lists_uses {options : LowerOptions} {m : Module} (lowered : c.lower options = .ok m) :
    Tables.Lists m.constants.strings (c.ops.filterMap Op.literal?) ∧
    Tables.Lists m.accessors (c.ops.filterMap Op.accessor?) ∧
    Tables.Lists m.methods (c.ops.filterMap Op.method?) ∧
    Tables.Lists m.types (c.ops.filterMap Op.target?) ∧
    (∀ other : LowerOptions, other.verify = false ∨ m.verify = .ok () →
      ∃ m', c.lower other = .ok m' ∧ m'.tables = m.tables ∧ m'.functions = m.functions ∧
        m'.classes = m.classes) ∧
    ∀ (other : LowerOptions) (e : VerifyError), other.verify = true → m.verify = .error e →
      options.verify = false ∧ c.lower other = .error (.verification c.name e) := by
  obtain ⟨⟨t, functions⟩, units, -⟩ := bind_eq_ok.mp lowered
  have indexed : Tables.empty.Indexed := rfl
  have records : Tables.empty.Records c.ops t := (AdapterUnit.lowerAll_ok indexed units).1
  have alike (other : LowerOptions) := verify_assemble_congr (t := t)
    (AdapterUnit.length_lowerAll units) other options
  have lowers := lower_of_units units
  rw [lowers options] at lowered
  have whole : m = c.assemble options t functions := by
    split at lowered <;> cases lowered
    rfl
  subst whole
  obtain ⟨literals, accessors, methods, types⟩ := lists_of_records records
  refine ⟨literals, accessors, methods, types, fun other known => ?_,
    fun other e asked refused => ?_⟩
  · refine ⟨c.assemble other t functions, ?_, rfl, rfl, rfl⟩
    rw [lowers other, alike other]
    obtain unasked | verified := known
    · rw [unasked]
    · rw [verified]
      cases other.verify <;> rfl
  · rw [lowers other, alike other, asked, refused]
    refine ⟨?_, rfl⟩
    cases verify : options.verify with
    | false => rfl
    | true =>
        rw [verify, refused] at lowered
        cases lowered

/-- Two routes that both read the number `id` from the path. -/
def orders : EmittedClass :=
  let path : AccessorRef := ⟨"path", "(str)->value", 1⟩
  let query : AccessorRef := ⟨"query", "(str)->value", 1⟩
  let open_ : MethodRef := ⟨"Orders.open", "(i32)->str", 1⟩
  let list : MethodRef := ⟨"Orders.list", "(i32,i32)->str", 2⟩
  let id : List Op := [.loadContext, .literal "id", .accessor path, .convert .value .i32]
  let page : List Op := [.loadContext, .literal "page", .accessor query, .convert .value .i32]
  ⟨"Orders$Adapter", "Orders", Module.dispatchInterface,
    [⟨"open", open_, [], id ++ [.controller open_, .ret], [], .direct⟩,
      ⟨"list", list, [], id ++ page ++ [.controller list, .ret], [], .direct⟩]⟩

theorem lists_uses_orders :
    ∃ m, orders.lower ⟨true, false, none⟩ = .ok m ∧ m.constants.strings = ["id", "page"] ∧
      m.types = [.i32] ∧ Tables.Lists m.constants.strings ["id", "id", "page"] ∧
      Tables.Lists m.types [.i32, .i32, .i32] ∧
      ∃ m', orders.lower ⟨false, true, some "orders.toml"⟩ = .ok m' ∧ m'.tables = m.tables := by
  obtain ⟨m, lowered, strings, types⟩ : ∃ m, orders.lower ⟨true, false, none⟩ = .ok m ∧
      m.constants.strings = ["id", "page"] ∧ m.types = [.i32] := ⟨_, rfl, by rfl, by rfl⟩
  obtain ⟨literals, -, -, targets, others, -⟩ := lists_uses lowered
  obtain ⟨m', again, tables, -⟩ := others ⟨false, true, some "orders.toml"⟩ (.inl rfl)
  exact ⟨m, lowered, strings, types, literals, targets, m', again, tables⟩

/-- One route whose body is empty. -/
def idle : EmittedClass :=
  ⟨"Idle$Adapter", "Idle", Module.dispatchInterface,
    [⟨"wait", ⟨"Idle.wait", "()->void", 0⟩, [], [], [], .noContent⟩]⟩

/-- A body that falls off its end is only lowered without verification. -/
theorem lower_idle :
    (∃ m, idle.lower ⟨false, false, none⟩ = .ok m) ∧
      idle.lower ⟨true, false, none⟩ = .error (.verification "Idle$Adapter" (.fallOffEnd 0)) :=
  ⟨⟨_, rfl⟩, rfl⟩

end EmittedClass
end RouteAdapter
