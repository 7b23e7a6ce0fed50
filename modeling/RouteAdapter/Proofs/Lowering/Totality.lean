import RouteAdapter.Proofs.Lowering.Discipline

/-!
# Lowering succeeds

Only a box of a type without a tag cannot be lowered. The tables of a class depend on nothing but
what its operations refer to; if they are addressable and the units keep the stack discipline, the
class has a module, which passes verification.

* `EmittedClass.tables`: the tables of a class;
* `EmittedClass.exists_lower`: the module of a class, verified or not.
-/

namespace RouteAdapter

/-! ## Operations and units -/

/-- What is boxed has a tag. -/
def Op.Boxable (op : Op) : Prop :=
  ∀ ty, op = .box ty → ty.isPrimitive

theorem Ty.exists_primitiveTag {ty : Ty} (primitive : ty.isPrimitive) :
    ∃ tag, ty.primitiveTag? = some tag := by
  cases ty <;> first | exact ⟨_, rfl⟩ | cases primitive

theorem Op.exists_lower (symbol : String) (t : Tables) {op : Op} (boxable : op.Boxable) :
    ∃ t' i, op.lower symbol t = .ok (t', i) := by
  cases op with
  | box ty =>
      obtain ⟨tag, primitive⟩ := Ty.exists_primitiveTag (boxable ty rfl)
      refine ⟨t, .box tag, ?_⟩
      rw [Op.lower, primitive]
  | _ => exact ⟨_, _, rfl⟩

theorem Op.exists_lowerAll (symbol : String) (t : Tables) {ops : List Op}
    (boxable : ∀ op ∈ ops, op.Boxable) : ∃ t' body, Op.lowerAll symbol t ops = .ok (t', body) := by
  induction ops generalizing t with
  | nil => exact ⟨t, [], rfl⟩
  | cons op ops ih =>
      obtain ⟨here, later⟩ := List.forall_mem_cons.mp boxable
      obtain ⟨next, i, first⟩ := Op.exists_lower symbol t here
      obtain ⟨last, body, rest⟩ := ih next later
      exact ⟨last, i :: body, bind_eq_ok.mpr ⟨_, first, bind_eq_ok.mpr ⟨_, rest, rfl⟩⟩⟩

theorem AdapterUnit.exists_lowerAll (t : Tables) {units : List AdapterUnit}
    (boxable : ∀ u ∈ units, ∀ op ∈ u.ops, op.Boxable) :
    ∃ t' functions, AdapterUnit.lowerAll t units = .ok (t', functions) := by
  induction units generalizing t with
  | nil => exact ⟨t, [], rfl⟩
  | cons u units ih =>
      obtain ⟨here, later⟩ := List.forall_mem_cons.mp boxable
      obtain ⟨next, body, first⟩ := Op.exists_lowerAll u.target.symbol t here
      obtain ⟨last, functions, rest⟩ := ih next later
      have unit : u.lower t = .ok (next, ⟨u.route, 1, 1, Code.encode body⟩) :=
        bind_eq_ok.mpr ⟨_, first, rfl⟩
      exact ⟨last, _ :: functions, bind_eq_ok.mpr ⟨_, unit, bind_eq_ok.mpr ⟨_, rest, rfl⟩⟩⟩

/-! ## Sizes -/

/-- The operations refer to a literal, an accessor and a type at most `n` times each, and to a
method at most `k` times. -/
structure Op.Uses (n k : Nat) (ops : List Op) : Prop where
  literals : (ops.filterMap Op.literal?).length ≤ n
  accessors : (ops.filterMap Op.accessor?).length ≤ n
  types : (ops.filterMap Op.target?).length ≤ n
  methods : (ops.filterMap Op.method?).length ≤ k

theorem Op.Uses.append {n k n' k' : Nat} {ops more : List Op} (first : Uses n k ops)
    (second : Uses n' k' more) : Uses (n + n') (k + k') (ops ++ more) := by
  constructor <;> rw [List.filterMap_append, List.length_append]
  · exact Nat.add_le_add first.literals second.literals
  · exact Nat.add_le_add first.accessors second.accessors
  · exact Nat.add_le_add first.types second.types
  · exact Nat.add_le_add first.methods second.methods

/-! ## Classes -/

namespace EmittedClass

/-- What the operations of a class refer to, each once, in the order of first use. -/
def tables (e : EmittedClass) : Tables where
  constants := Pool.ofStrings (Tables.firstUses [] (e.ops.filterMap Op.literal?))
  accessors := Tables.firstUses [] (e.ops.filterMap Op.accessor?)
  methods := Tables.firstUses [] (e.ops.filterMap Op.method?)
  types := Tables.firstUses [] (e.ops.filterMap Op.target?)

theorem tables_of_records {e : EmittedClass} {t : Tables}
    (records : Tables.empty.Records e.ops t) : t = e.tables := by
  obtain ⟨constants, accessors, methods, types⟩ := t
  cases records.constants
  cases records.accessors
  cases records.methods
  cases records.types
  rfl

theorem addressable_of_uses {e : EmittedClass} {n k : Nat} (uses : Op.Uses n k e.ops)
    (entries : n ≤ UInt32.size) (methods : k ≤ UInt32.size) : e.tables.Addressable := by
  have bounded {α : Type} [DecidableEq α] {uses : List α} {n : Nat} (few : uses.length ≤ n)
      (entries : n ≤ UInt32.size) : (Tables.firstUses [] uses).length ≤ UInt32.size := by
    have length := Tables.length_firstUses_le [] uses
    rw [List.length_nil] at length
    omega
  exact ⟨bounded uses.literals entries, bounded uses.accessors entries,
    bounded uses.methods methods, bounded uses.types entries⟩

theorem exists_lower {e : EmittedClass} (options : LowerOptions)
    (boxable : ∀ u ∈ e.units, ∀ op ∈ u.ops, op.Boxable)
    (disciplined : ∀ u ∈ e.units, u.Disciplined) (addressable : e.tables.Addressable) :
    ∃ functions, e.lower options = .ok (e.assemble options e.tables functions) ∧
      List.Forall₂ (AdapterUnit.Lowered e.tables) e.units functions ∧
      (e.assemble options e.tables functions).verify = .ok () := by
  obtain ⟨t, functions, lowered⟩ := AdapterUnit.exists_lowerAll Tables.empty boxable
  have indexed : Tables.empty.Indexed := rfl
  obtain ⟨records, stand⟩ := AdapterUnit.lowerAll_ok indexed lowered
  obtain rfl := tables_of_records records
  have units := stand e.tables (.refl e.tables) addressable
  have verified : (e.assemble options e.tables functions).verify = .ok () :=
    verify_assemble units disciplined
  refine ⟨functions, bind_eq_ok.mpr ⟨_, lowered, ?_⟩, units, verified⟩
  dsimp only
  cases options.verify with
  | false => rfl
  | true =>
      rw [verified]
      rfl

end EmittedClass
end RouteAdapter
