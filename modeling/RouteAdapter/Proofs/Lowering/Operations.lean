import RouteAdapter.Proofs.Lowering.Tables
import RouteAdapter.Proofs.Outcome

/-!
# Lowered operations

An instruction stands for an operation under tables when its positions hold what the operation
refers to. Lowering yields such an instruction, which keeps standing for its operation while the
tables grow.

* `Op.lower_ok`, `Op.lowerAll_ok`: one operation and a body;
* `AdapterUnit.lowerAll_ok`: the functions of all units, under the final tables;
* `EmittedClass.lower_ok`: the module of a class.
-/

namespace RouteAdapter

/-! ## What operations refer to -/

namespace Op

def literal? : Op → Option String
  | literal s => some s
  | _ => none

def accessor? : Op → Option AccessorRef
  | accessor a => some a
  | _ => none

def method? : Op → Option MethodRef
  | controller m => some m
  | _ => none

def target? : Op → Option Ty
  | convert _ target => some target
  | _ => none

end Op

namespace Tables

/-- The pool has the index of its strings. -/
def Indexed (t : Tables) : Prop :=
  t.constants = Pool.ofStrings t.constants.strings

/-- The tables after the uses of a list of operations. -/
structure Records (t : Tables) (ops : List Op) (t' : Tables) : Prop where
  constants : t'.constants =
    Pool.ofStrings (firstUses t.constants.strings (ops.filterMap Op.literal?))
  accessors : t'.accessors = firstUses t.accessors (ops.filterMap Op.accessor?)
  methods : t'.methods = firstUses t.methods (ops.filterMap Op.method?)
  types : t'.types = firstUses t.types (ops.filterMap Op.target?)

/-- Every table of `t` is where that of `t'` starts. -/
structure Extends (t t' : Tables) : Prop where
  constants : t.constants.strings <+: t'.constants.strings
  accessors : t.accessors <+: t'.accessors
  methods : t.methods <+: t'.methods
  types : t.types <+: t'.types

/-- Every position of the tables is a word. -/
structure Addressable (t : Tables) : Prop where
  constants : t.constants.strings.length ≤ UInt32.size
  accessors : t.accessors.length ≤ UInt32.size
  methods : t.methods.length ≤ UInt32.size
  types : t.types.length ≤ UInt32.size

theorem Extends.refl (t : Tables) : t.Extends t :=
  ⟨List.prefix_rfl, List.prefix_rfl, List.prefix_rfl, List.prefix_rfl⟩

theorem Extends.trans {t t' t'' : Tables} (first : t.Extends t') (second : t'.Extends t'') :
    t.Extends t'' :=
  ⟨first.constants.trans second.constants, first.accessors.trans second.accessors,
    first.methods.trans second.methods, first.types.trans second.types⟩

theorem Records.refl {t : Tables} (indexed : t.Indexed) : t.Records [] t :=
  ⟨indexed, rfl, rfl, rfl⟩

theorem Records.trans {t t' t'' : Tables} {ops more : List Op} (first : t.Records ops t')
    (second : t'.Records more t'') : t.Records (ops ++ more) t'' := by
  have strings : t'.constants.strings = firstUses t.constants.strings (ops.filterMap Op.literal?) :=
    congrArg Pool.strings first.constants
  constructor
  · rw [List.filterMap_append, firstUses_append, ← strings, second.constants]
  · rw [List.filterMap_append, firstUses_append, ← first.accessors, second.accessors]
  · rw [List.filterMap_append, firstUses_append, ← first.methods, second.methods]
  · rw [List.filterMap_append, firstUses_append, ← first.types, second.types]

theorem Records.indexed {t t' : Tables} {ops : List Op} (records : t.Records ops t') :
    t'.Indexed := by
  rw [Indexed, records.constants]
  rfl

theorem Records.extends {t t' : Tables} {ops : List Op} (records : t.Records ops t') :
    t.Extends t' := by
  constructor
  · rw [records.constants]; exact prefix_firstUses _ _
  · rw [records.accessors]; exact prefix_firstUses _ _
  · rw [records.methods]; exact prefix_firstUses _ _
  · rw [records.types]; exact prefix_firstUses _ _

theorem mem_uses {α : Type} [DecidableEq α] {use : Op → Option α} {ops : List Op} {a : α} :
    a ∈ firstUses [] (ops.filterMap use) ↔ ∃ op ∈ ops, use op = some a := by
  simp only [mem_firstUses, List.not_mem_nil, false_or, List.mem_filterMap]

end Tables

def Module.tables (m : Module) : Tables :=
  ⟨m.constants, m.accessors, m.methods, m.types⟩

/-! ## Operations and their instructions -/

theorem Ty.ofPrimitiveTag?_primitiveTag? {ty : Ty} {tag : UInt8}
    (primitive : ty.primitiveTag? = some tag) : Ty.ofPrimitiveTag? tag = some ty := by
  cases ty <;> cases primitive <;> rfl

/-- The instruction stands for the operation under the tables. -/
inductive Op.Lowered (t : Tables) : Op → Instruction → Prop
  | loadContext : Lowered t .loadContext .loadCtx
  | literal {s : String} {index : UInt32} (entry : t.constants.strings[index.toNat]? = some s) :
      Lowered t (.literal s) (.constStr index)
  | accessor {a : AccessorRef} {index : UInt32} (entry : t.accessors[index.toNat]? = some a) :
      Lowered t (.accessor a) (.invokeAccessor index a.arity)
  | convert {source target : Ty} {index : UInt32} (entry : t.types[index.toNat]? = some target) :
      Lowered t (.convert source target) (.convert index)
  | controller {m : MethodRef} {index : UInt32} (entry : t.methods[index.toNat]? = some m) :
      Lowered t (.controller m) (.invokeController index m.argCount)
  | pushNoContent : Lowered t .pushNoContent .noContent
  | box {ty : Ty} {tag : UInt8} (primitive : ty.primitiveTag? = some tag) :
      Lowered t (.box ty) (.box tag)
  | ret : Lowered t .ret .ret

theorem Op.lower_ok {symbol : String} {t t' : Tables} {op : Op} {i : Instruction}
    (indexed : t.Indexed) (lowered : op.lower symbol t = .ok (t', i)) :
    t.Records [op] t' ∧
      ∀ final, t'.Extends final → final.Addressable → op.Lowered final i := by
  cases op with
  | loadContext =>
      cases lowered
      exact ⟨⟨indexed, rfl, rfl, rfl⟩, fun _ _ _ => .loadContext⟩
  | literal s =>
      rw [Op.lower, indexed, Pool.intern_ofStrings] at lowered
      cases lowered
      refine ⟨⟨?_, rfl, rfl, rfl⟩, fun final grown addressable => .literal ?_⟩
      · exact congrArg Pool.ofStrings (Tables.intern_fst _ s)
      · exact Tables.getElem?_intern grown.constants addressable.constants
  | accessor a =>
      cases lowered
      refine ⟨⟨indexed, Tables.intern_fst _ a, rfl, rfl⟩,
        fun final grown addressable => .accessor ?_⟩
      exact Tables.getElem?_intern grown.accessors addressable.accessors
  | convert source target =>
      cases lowered
      refine ⟨⟨indexed, rfl, rfl, Tables.intern_fst _ target⟩,
        fun final grown addressable => .convert ?_⟩
      exact Tables.getElem?_intern grown.types addressable.types
  | controller m =>
      cases lowered
      refine ⟨⟨indexed, rfl, Tables.intern_fst _ m, rfl⟩,
        fun final grown addressable => .controller ?_⟩
      exact Tables.getElem?_intern grown.methods addressable.methods
  | pushNoContent =>
      cases lowered
      exact ⟨⟨indexed, rfl, rfl, rfl⟩, fun _ _ _ => .pushNoContent⟩
  | box ty =>
      rw [Op.lower] at lowered
      split at lowered
      · rename_i tag primitive
        cases lowered
        exact ⟨⟨indexed, rfl, rfl, rfl⟩, fun _ _ _ => .box primitive⟩
      · cases lowered
  | ret =>
      cases lowered
      exact ⟨⟨indexed, rfl, rfl, rfl⟩, fun _ _ _ => .ret⟩

/-- The tables only grow along a body, so its instructions all hold under the last of them. -/
theorem Op.lowerAll_ok {symbol : String} {t t' : Tables} {ops : List Op} {body : List Instruction}
    (indexed : t.Indexed) (lowered : Op.lowerAll symbol t ops = .ok (t', body)) :
    t.Records ops t' ∧
      ∀ final, t'.Extends final → final.Addressable → List.Forall₂ (Op.Lowered final) ops body := by
  induction ops generalizing t body with
  | nil =>
      cases lowered
      exact ⟨.refl indexed, fun _ _ _ => .nil⟩
  | cons op ops ih =>
      simp only [Op.lowerAll, bind_eq_ok, Prod.exists] at lowered
      obtain ⟨next, i, first, last, rest, others, whole⟩ := lowered
      cases whole
      obtain ⟨records, stands⟩ := Op.lower_ok indexed first
      obtain ⟨more, stand⟩ := ih records.indexed others
      refine ⟨records.trans more, fun final grown addressable => .cons ?_ ?_⟩
      · exact stands final (more.extends.trans grown) addressable
      · exact stand final grown addressable

/-! ## Units and classes -/

namespace AdapterUnit

/-- The function holds a body whose instructions stand for the operations of the unit. -/
def Lowered (t : Tables) (u : AdapterUnit) (f : Function) : Prop :=
  ∃ body, f = ⟨u.route, 1, 1, Code.encode body⟩ ∧ List.Forall₂ (Op.Lowered t) u.ops body

theorem lower_ok {t t' : Tables} {u : AdapterUnit} {f : Function} (indexed : t.Indexed)
    (lowered : u.lower t = .ok (t', f)) :
    t.Records u.ops t' ∧ ∀ final, t'.Extends final → final.Addressable → u.Lowered final f := by
  simp only [lower, bind_eq_ok, Prod.exists] at lowered
  obtain ⟨last, body, ops, whole⟩ := lowered
  cases whole
  obtain ⟨records, stand⟩ := Op.lowerAll_ok indexed ops
  exact ⟨records, fun final grown addressable => ⟨body, rfl, stand final grown addressable⟩⟩

theorem lowerAll_ok {t t' : Tables} {units : List AdapterUnit} {functions : List Function}
    (indexed : t.Indexed) (lowered : lowerAll t units = .ok (t', functions)) :
    t.Records (units.flatMap ops) t' ∧
      ∀ final, t'.Extends final → final.Addressable →
        List.Forall₂ (AdapterUnit.Lowered final) units functions := by
  induction units generalizing t functions with
  | nil =>
      cases lowered
      exact ⟨.refl indexed, fun _ _ _ => .nil⟩
  | cons u units ih =>
      simp only [lowerAll, bind_eq_ok, Prod.exists] at lowered
      obtain ⟨next, f, first, last, rest, others, whole⟩ := lowered
      cases whole
      obtain ⟨records, stands⟩ := lower_ok indexed first
      obtain ⟨more, stand⟩ := ih records.indexed others
      refine ⟨records.trans more, fun final grown addressable => .cons ?_ ?_⟩
      · exact stands final (more.extends.trans grown) addressable
      · exact stand final grown addressable

end AdapterUnit

namespace EmittedClass

/-- All operations of a class, unit by unit. -/
def ops (c : EmittedClass) : List Op :=
  c.units.flatMap AdapterUnit.ops

/-- A lowered class is assembled from the tables of its operations and one function per unit. -/
theorem lower_ok {c : EmittedClass} {options : LowerOptions} {m : Module}
    (lowered : c.lower options = .ok m) :
    ∃ t functions, m = c.assemble options t functions ∧ Tables.empty.Records c.ops t ∧
      (t.Addressable → List.Forall₂ (AdapterUnit.Lowered t) c.units functions) ∧
      (options.verify → m.verify = .ok ()) := by
  simp only [lower, bind_eq_ok, Prod.exists] at lowered
  obtain ⟨t, functions, units, checked⟩ := lowered
  have indexed : Tables.empty.Indexed := rfl
  obtain ⟨records, stand⟩ := AdapterUnit.lowerAll_ok indexed units
  have functionsLowered : t.Addressable → List.Forall₂ (AdapterUnit.Lowered t) c.units functions :=
    stand t (.refl t)
  cases verify : options.verify with
  | false =>
      simp only [verify, Bool.false_eq_true, ↓reduceIte] at checked
      cases checked
      exact ⟨t, functions, rfl, records, functionsLowered, fun h => by cases h⟩
  | true =>
      simp only [verify, ↓reduceIte, bind_eq_ok, mapError_eq_ok] at checked
      obtain ⟨⟨⟩, verified, whole⟩ := checked
      cases whole
      exact ⟨t, functions, rfl, records, functionsLowered, fun _ => verified⟩

end EmittedClass
end RouteAdapter
