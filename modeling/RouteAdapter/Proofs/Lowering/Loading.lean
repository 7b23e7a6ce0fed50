import RouteAdapter.Proofs.Format.Code
import RouteAdapter.Proofs.Format.Module
import RouteAdapter.Proofs.Lowering.Operations
import RouteAdapter.Proofs.Machine.Linking

/-!
# Loading what was lowered

A module that lowering produced is stored as it is, and its bodies are resolved to the operations
of the units they come from.

* `EmittedClass.stored_assemble`: the format loses nothing of an assembled module;
* `AdapterUnit.Lowered.load`: a lowered unit is loaded operation for operation;
* `EmittedClass.loads_lowered`: lowering, encoding, decoding and loading together.
-/

namespace RouteAdapter
open Bytes

/-- The loaded instruction does what the operation says, in a module with this method table. -/
inductive Op.LoadsAs (methods : List MethodRef) : Op → Resolved → Prop
  | loadContext : LoadsAs methods .loadContext .loadCtx
  | literal (s : String) : LoadsAs methods (.literal s) (.constStr s)
  | accessor {a : AccessorRef} {accessor : Accessor}
      (resolved : Accessor.resolve a.name a.descriptor = .ok accessor) :
      LoadsAs methods (.accessor a) (.invokeAccessor accessor)
  | convert (source target : Ty) : LoadsAs methods (.convert source target) (.convert target)
  | controller {m : MethodRef} {index : Nat} (entry : methods[index]? = some m) :
      LoadsAs methods (.controller m) (.invokeController index m.argCount.toNat)
  | pushNoContent : LoadsAs methods .pushNoContent .noContent
  | box (ty : Ty) : LoadsAs methods (.box ty) (.box ty)
  | ret : LoadsAs methods .ret .ret

theorem Module.Sized.addressable {m : Module} (sized : m.Sized) : m.tables.Addressable :=
  ⟨Nat.le_of_lt sized.constants.count, Nat.le_of_lt sized.accessors.count,
    Nat.le_of_lt sized.methods.count, Nat.le_of_lt sized.types.count⟩

/-! ## Bodies -/

theorem Op.Lowered.resolve {m : Module} {accessors : List Accessor} {op : Op} {i : Instruction}
    (lowered : op.Lowered m.tables i) (bound : Accessor.ofTable m.accessors = .ok accessors)
    (offset : Nat) :
    ∃ r, Resolved.ofInstruction m accessors ⟨offset, i⟩ = .ok r ∧ op.LoadsAs m.methods r := by
  cases lowered with
  | loadContext => exact ⟨_, rfl, .loadContext⟩
  | @literal s index entry =>
      refine ⟨_, ?_, .literal s⟩
      have found : m.constants.get? index = some s := entry
      simp only [Resolved.ofInstruction, Resolved.entry, found]
  | @accessor a index entry =>
      obtain ⟨accessor, found, resolved⟩ :=
        getElem?_of_forall₂ (Accessor.ofTable_ok.mp bound) entry
      refine ⟨_, ?_, .accessor resolved⟩
      simp only [Resolved.ofInstruction, Resolved.entry, found]
  | @convert source target index entry =>
      refine ⟨_, ?_, .convert source target⟩
      have found : m.types[index.toNat]? = some target := entry
      simp only [Resolved.ofInstruction, Resolved.entry, found]
  | @controller ref index entry =>
      refine ⟨_, ?_, .controller entry⟩
      obtain ⟨bound, -⟩ := List.getElem?_eq_some_iff.mp entry
      exact if_pos bound
  | pushNoContent => exact ⟨_, rfl, .pushNoContent⟩
  | @box ty tag primitive =>
      refine ⟨_, ?_, .box ty⟩
      simp only [Resolved.ofInstruction, Resolved.entry, Ty.ofPrimitiveTag?_primitiveTag? primitive]
  | ret => exact ⟨_, rfl, .ret⟩

theorem Op.Lowered.resolveAll {m : Module} {accessors : List Accessor} {ops : List Op}
    {body : List Instruction} (lowered : List.Forall₂ (Op.Lowered m.tables) ops body)
    (bound : Accessor.ofTable m.accessors = .ok accessors) (offset : Nat) :
    ∃ code, List.Forall₂ (fun i r => Resolved.ofInstruction m accessors i = .ok r)
        (Code.locate offset body) code ∧
      List.Forall₂ (Op.LoadsAs m.methods) ops code := by
  induction lowered generalizing offset with
  | nil => exact ⟨[], .nil, .nil⟩
  | @cons op i ops body first _ ih =>
      obtain ⟨r, resolved, loads⟩ := first.resolve bound offset
      obtain ⟨code, others, load⟩ := ih (offset + i.size)
      exact ⟨r :: code, .cons resolved others, .cons loads load⟩

theorem AdapterUnit.Lowered.load {m : Module} {accessors : List Accessor} {u : AdapterUnit}
    {f : Function} (lowered : u.Lowered m.tables f)
    (bound : Accessor.ofTable m.accessors = .ok accessors) :
    ∃ loaded, LoadedFunction.load f m accessors = .ok loaded ∧ loaded.name = u.route ∧
      List.Forall₂ (Op.LoadsAs m.methods) u.ops loaded.code := by
  obtain ⟨body, rfl, ops⟩ := lowered
  obtain ⟨code, resolved, load⟩ := Op.Lowered.resolveAll ops bound 0
  exact ⟨⟨u.route, code⟩,
    LoadedFunction.load_ok.mpr ⟨_, Code.decode_encode body, rfl, resolved⟩, rfl, load⟩

/-! ## Classes -/

namespace EmittedClass

theorem getElem?_routes {c : EmittedClass} {i : Nat} {u : AdapterUnit}
    (unit : c.units[i]? = some u) : c.classDef.methods[i]? = some ⟨u.route, i⟩ := by
  simp [classDef, unit]

theorem stored_classDef {c : EmittedClass} (count : c.units.length < UInt32.size) :
    c.classDef.stored = c.classDef := by
  have methods : c.classDef.methods.map Route.stored = c.classDef.methods := by
    apply List.ext_getElem?
    intro i
    simp only [classDef, List.getElem?_map, List.getElem?_mapIdx]
    cases entry : c.units[i]? with
    | none => rfl
    | some u =>
        obtain ⟨bound, -⟩ := List.getElem?_eq_some_iff.mp entry
        simp only [Option.map_some, Route.stored, Nat.mod_eq_of_lt (Nat.lt_trans bound count)]
  rw [ClassDef.stored, methods]

theorem stored_assemble {c : EmittedClass} {options : LowerOptions} {t : Tables}
    {functions : List Function} (indexed : t.Indexed)
    (lowered : List.Forall₂ (AdapterUnit.Lowered t) c.units functions)
    (count : functions.length < UInt32.size) :
    (c.assemble options t functions).stored = c.assemble options t functions := by
  have bodies : functions.map Function.stored = functions := by
    refine (List.map_congr_left fun f member => ?_).trans (List.map_id functions)
    obtain ⟨u, -, body, rfl, -⟩ := exists_of_mem_forall₂_right lowered member
    rfl
  have classes : c.classDef.stored = c.classDef := stored_classDef (lowered.length_eq ▸ count)
  have pool : Pool.ofStrings t.constants.strings = t.constants := indexed.symm
  cases flagged : options.emitReflection <;>
    simp [Module.stored, assemble, Module.named, flagged, bodies, classes, pool,
      Module.flagsReflection, Module.reflectionFlag]

theorem mem_types_of_records {c : EmittedClass} {t : Tables}
    (records : Tables.empty.Records c.ops t)
    {ty : Ty} (member : ty ∈ t.types) : ∃ source, .convert source ty ∈ c.ops := by
  rw [records.types] at member
  obtain ⟨op, used, target⟩ := Tables.mem_uses.mp member
  cases op <;> cases target
  exact ⟨_, used⟩

theorem mem_accessors_of_records {c : EmittedClass} {t : Tables}
    (records : Tables.empty.Records c.ops t) {a : AccessorRef} (member : a ∈ t.accessors) :
    .accessor a ∈ c.ops := by
  rw [records.accessors] at member
  obtain ⟨op, used, target⟩ := Tables.mem_uses.mp member
  cases op <;> cases target
  exact used

theorem mem_methods_records {c : EmittedClass} {t : Tables}
    (records : Tables.empty.Records c.ops t) {m : MethodRef} :
    m ∈ t.methods ↔ .controller m ∈ c.ops := by
  have methods : t.methods = Tables.firstUses [] (c.ops.filterMap Op.method?) := records.methods
  rw [methods, Tables.mem_uses]
  constructor
  · rintro ⟨op, used, target⟩
    cases op <;> cases target
    exact used
  · exact fun used => ⟨_, used, rfl⟩

theorem decode_encode_lower {c : EmittedClass} {options : LowerOptions} {m : Module}
    (lowered : c.lower options = .ok m) (sized : m.Sized)
    (types : ∀ source target, .convert source target ∈ c.ops → target.WellFormed) :
    Module.decode m.encode = .ok m := by
  obtain ⟨t, functions, rfl, records, stand, -⟩ := lower_ok lowered
  have wellFormed : ∀ ty ∈ t.types, ty.WellFormed := by
    intro ty member
    obtain ⟨source, used⟩ := mem_types_of_records records member
    exact types source ty used
  have decoded := Module.decode_encode rfl rfl sized wellFormed
  rwa [stored_assemble records.indexed (stand sized.addressable) sized.functions.count] at decoded

theorem bind_accessors {c : EmittedClass} {t : Tables} (records : Tables.empty.Records c.ops t)
    (accessors : ∀ a, .accessor a ∈ c.ops →
      ∃ accessor, Accessor.resolve a.name a.descriptor = .ok accessor) :
    ∃ bound, Accessor.ofTable t.accessors = .ok bound := by
  have each : ∀ a ∈ t.accessors, ∃ accessor, Accessor.resolve a.name a.descriptor = .ok accessor :=
    fun a member => accessors a (mem_accessors_of_records records member)
  obtain ⟨bound, resolved⟩ := exists_forall₂ each
  exact ⟨bound, Accessor.ofTable_ok.mpr resolved⟩

theorem loads_lowered {c : EmittedClass} {options : LowerOptions} {m : Module}
    (lowered : c.lower options = .ok m) (sized : m.Sized)
    (types : ∀ source target, .convert source target ∈ c.ops → target.WellFormed)
    (accessors : ∀ a, .accessor a ∈ c.ops →
      ∃ accessor, Accessor.resolve a.name a.descriptor = .ok accessor) :
    ∃ m' bound cls, Module.decode m.encode = .ok m' ∧ Accessor.ofTable m'.accessors = .ok bound ∧
      m'.classes = [cls] ∧ m'.functions.length = c.units.length ∧
      cls.methods.length = c.units.length ∧
      ∀ (i : Nat) (u : AdapterUnit), c.units[i]? = some u → cls.methods[i]? = some ⟨u.route, i⟩ ∧
        ∃ f loaded, m'.functions[i]? = some f ∧ LoadedFunction.load f m' bound = .ok loaded ∧
          List.Forall₂ (Op.LoadsAs m'.methods) u.ops loaded.code := by
  have decoded := decode_encode_lower lowered sized types
  obtain ⟨t, functions, rfl, records, stand, -⟩ := lower_ok lowered
  obtain ⟨bound, linked⟩ := bind_accessors records accessors
  have units := stand sized.addressable
  refine ⟨_, bound, c.classDef, decoded, linked, rfl, units.length_eq.symm, ?_, ?_⟩
  · simp [classDef]
  · intro i u entry
    refine ⟨getElem?_routes entry, ?_⟩
    obtain ⟨f, found, unit⟩ := getElem?_of_forall₂ units entry
    obtain ⟨loaded, load, -, ops⟩ :=
      AdapterUnit.Lowered.load (m := c.assemble options t functions) unit linked
    exact ⟨f, loaded, found, load, ops⟩

def users : EmittedClass :=
  let show_ : MethodRef := ⟨"Users.show", "(i32)->i32", 1⟩
  let ops : List Op :=
    [.loadContext, .literal "id", .accessor ⟨"path", "(str)->value", 1⟩, .convert .value .i32,
      .controller show_, .box .i32, .ret]
  ⟨"Users$Adapter", "Users", Module.dispatchInterface, [⟨"show", show_, [], ops, [], .boxed .i32⟩]⟩

theorem loads_lowered_users :
    ∃ m m' bound cls, users.lower ⟨true, false, none⟩ = .ok m ∧ Module.decode m.encode = .ok m' ∧
      Accessor.ofTable m'.accessors = .ok bound ∧ m'.classes = [cls] ∧
      cls.methods[0]? = some ⟨"show", 0⟩ ∧
      ∃ f loaded, m'.functions[0]? = some f ∧ LoadedFunction.load f m' bound = .ok loaded ∧
        List.Forall₂ (Op.LoadsAs m'.methods) users.ops loaded.code := by
  obtain ⟨m, lowered, sized⟩ : ∃ m, users.lower ⟨true, false, none⟩ = .ok m ∧ m.Sized :=
    ⟨_, rfl, by decide +kernel⟩
  have types : ∀ source target, .convert source target ∈ users.ops → target.WellFormed := by
    intro source target used
    obtain ⟨rfl, rfl⟩ : source = .value ∧ target = .i32 := by simpa [users, ops] using used
    decide +kernel
  have accessors : ∀ a, .accessor a ∈ users.ops →
      ∃ accessor, Accessor.resolve a.name a.descriptor = .ok accessor := by
    intro a used
    obtain rfl : a = ⟨"path", "(str)->value", 1⟩ := by simpa [users, ops] using used
    exact ⟨.single .path, by rfl⟩
  obtain ⟨m', bound, cls, decoded, linked, classes, -, -, units⟩ :=
    loads_lowered lowered sized types accessors
  obtain ⟨route, f, loaded, function, load, ops⟩ := units 0 _ rfl
  exact ⟨m, m', bound, cls, lowered, decoded, linked, classes, route, f, loaded, function, load,
    ops⟩

end EmittedClass
end RouteAdapter
