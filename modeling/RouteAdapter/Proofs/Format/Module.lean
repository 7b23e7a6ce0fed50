import RouteAdapter.Module.Codec
import RouteAdapter.Proofs.Format.Reading
import RouteAdapter.Proofs.Ty.Text

/-!
# Modules as bytes

Reading what `encode` writes gives the module back up to what the format does not hold:
`Module.stored` has counts and ids modulo `UInt32.size`, the index of the pool rebuilt, and
reflection exactly when it is flagged.

* `Module.Sized`: every text, body and table fits the word in front of it;
* `Module.decode_encode`: a sized module with the current header and well-formed types decodes to
  its stored form.
-/

namespace RouteAdapter
open Bytes Reader

/-! ## Sizes -/

structure AccessorRef.Sized (a : AccessorRef) : Prop where
  name : FitsText a.name
  descriptor : FitsText a.descriptor

structure MethodRef.Sized (m : MethodRef) : Prop where
  symbol : FitsText m.symbol
  descriptor : FitsText m.descriptor

structure Function.Sized (f : Function) : Prop where
  name : FitsText f.name
  code : f.code.length < UInt32.size

def Route.Sized (r : Route) : Prop :=
  FitsText r.name

structure ClassDef.Sized (c : ClassDef) : Prop where
  name : FitsText c.name
  interface : FitsText c.interface
  controller : FitsText c.controller
  methods : FitsTable Route.Sized c.methods

structure Metadata.Sized (m : Metadata) : Prop where
  name : FitsText m.name
  sourceFile : ∀ path ∈ m.sourceFile, FitsText path

structure ParamReflection.Sized (p : ParamReflection) : Prop where
  name : FitsText p.name
  httpName : FitsText p.httpName
  annotation : FitsText p.annotation
  typeName : FitsText p.typeName

structure Module.Sized (m : Module) : Prop where
  constants : FitsTable FitsText m.constants.strings
  accessors : FitsTable AccessorRef.Sized m.accessors
  methods : FitsTable MethodRef.Sized m.methods
  types : FitsTable (fun ty => FitsText ty.text) m.types
  functions : FitsTable Function.Sized m.functions
  classes : FitsTable ClassDef.Sized m.classes
  metadata : m.metadata.Sized
  reflection : ∀ r ∈ m.reflection, FitsTable (FitsTable ParamReflection.Sized) r

instance : DecidablePred AccessorRef.Sized := fun a =>
  decidable_of_iff (FitsText a.name ∧ FitsText a.descriptor)
    ⟨fun ⟨n, d⟩ => ⟨n, d⟩, fun ⟨n, d⟩ => ⟨n, d⟩⟩

instance : DecidablePred MethodRef.Sized := fun m =>
  decidable_of_iff (FitsText m.symbol ∧ FitsText m.descriptor)
    ⟨fun ⟨s, d⟩ => ⟨s, d⟩, fun ⟨s, d⟩ => ⟨s, d⟩⟩

instance : DecidablePred Function.Sized := fun f =>
  decidable_of_iff (FitsText f.name ∧ f.code.length < UInt32.size)
    ⟨fun ⟨n, c⟩ => ⟨n, c⟩, fun ⟨n, c⟩ => ⟨n, c⟩⟩

instance : DecidablePred Route.Sized := fun r =>
  inferInstanceAs (Decidable (FitsText r.name))

instance : DecidablePred ClassDef.Sized := fun c =>
  decidable_of_iff
    (FitsText c.name ∧ FitsText c.interface ∧ FitsText c.controller ∧
      FitsTable Route.Sized c.methods)
    ⟨fun ⟨n, i, c, m⟩ => ⟨n, i, c, m⟩, fun ⟨n, i, c, m⟩ => ⟨n, i, c, m⟩⟩

instance : DecidablePred Metadata.Sized := fun m =>
  decidable_of_iff (FitsText m.name ∧ ∀ path ∈ m.sourceFile, FitsText path)
    ⟨fun ⟨n, s⟩ => ⟨n, s⟩, fun ⟨n, s⟩ => ⟨n, s⟩⟩

instance : DecidablePred ParamReflection.Sized := fun p =>
  decidable_of_iff
    (FitsText p.name ∧ FitsText p.httpName ∧ FitsText p.annotation ∧ FitsText p.typeName)
    ⟨fun ⟨n, h, a, t⟩ => ⟨n, h, a, t⟩, fun ⟨n, h, a, t⟩ => ⟨n, h, a, t⟩⟩

instance : DecidablePred Module.Sized := fun m =>
  decidable_of_iff
    (FitsTable FitsText m.constants.strings ∧ FitsTable AccessorRef.Sized m.accessors ∧
      FitsTable MethodRef.Sized m.methods ∧ FitsTable (fun ty => FitsText ty.text) m.types ∧
      FitsTable Function.Sized m.functions ∧ FitsTable ClassDef.Sized m.classes ∧ m.metadata.Sized ∧
      ∀ r ∈ m.reflection, FitsTable (FitsTable ParamReflection.Sized) r)
    ⟨fun ⟨c, a, m, t, f, k, d, r⟩ => ⟨c, a, m, t, f, k, d, r⟩,
      fun ⟨c, a, m, t, f, k, d, r⟩ => ⟨c, a, m, t, f, k, d, r⟩⟩

/-! ## What the format keeps -/

def Function.stored (f : Function) : Function :=
  { f with paramCount := f.paramCount % UInt32.size, localCount := f.localCount % UInt32.size }

def Route.stored (r : Route) : Route :=
  { r with functionId := r.functionId % UInt32.size }

def ClassDef.stored (c : ClassDef) : ClassDef :=
  { c with methods := c.methods.map Route.stored }

def Module.stored (m : Module) : Module :=
  { m with
    constants := Pool.ofStrings m.constants.strings
    functions := m.functions.map Function.stored
    classes := m.classes.map ClassDef.stored
    reflection := if flagsReflection m.flags then some (m.reflection.getD []) else none }

/-! ## Records -/

theorem AccessorRef.reads {a : AccessorRef} (sized : a.Sized) :
    Reads AccessorRef.read a.bytes a := by
  rw [AccessorRef.bytes, List.append_assoc]
  exact (reads_text sized.name).bind <| (reads_text sized.descriptor).bind <|
    (reads_byte a.arity).map _

theorem MethodRef.reads {m : MethodRef} (sized : m.Sized) : Reads MethodRef.read m.bytes m := by
  rw [MethodRef.bytes, List.append_assoc]
  exact (reads_text sized.symbol).bind <| (reads_text sized.descriptor).bind <|
    (reads_byte m.argCount).map _

theorem flatMap_singleton (bytes : Bytes) : bytes.flatMap (fun b => [b]) = bytes := by
  induction bytes with
  | nil => rfl
  | cons b bytes ih => simp only [List.flatMap_cons, ih, List.cons_append, List.nil_append]

theorem Function.reads {f : Function} (sized : f.Sized) :
    Reads Function.read f.bytes f.stored := by
  rw [Function.bytes, ofTable, flatMap_singleton, List.append_assoc, List.append_assoc]
  exact (reads_text sized.name).bind <| (reads_count f.paramCount).bind <|
    (reads_count f.localCount).bind <| (reads_length sized.code).bind <| (reads_take f.code).map _

theorem Route.reads {r : Route} (sized : r.Sized) : Reads Route.read r.bytes r.stored :=
  (reads_text sized).bind ((reads_count r.functionId).map _)

theorem ClassDef.reads {c : ClassDef} (sized : c.Sized) :
    Reads ClassDef.read c.bytes c.stored := by
  rw [ClassDef.bytes, List.append_assoc, List.append_assoc]
  exact (reads_text sized.name).bind <| (reads_text sized.interface).bind <|
    (reads_text sized.controller).bind <|
    (Reads.table sized.methods fun _ => Route.reads).map _

theorem Metadata.reads {m : Metadata} (sized : m.Sized) : Reads Metadata.read m.bytes m := by
  obtain ⟨name, sourceFile⟩ := m
  refine (reads_text sized.name).bind ?_
  cases sourceFile with
  | none =>
      have absent : Reads (pure ⟨name, none⟩ : Reader ReadError Metadata) [] ⟨name, none⟩ :=
        Reads.pure _
      exact Reads.bind (reads_byte 0) absent
  | some path =>
      have present :=
        (reads_text (sized.sourceFile path rfl)).map fun path => Metadata.mk name (some path)
      exact Reads.bind (reads_byte 1) present

theorem ParamReflection.reads {p : ParamReflection} (sized : p.Sized) :
    Reads ParamReflection.read p.bytes p := by
  rw [ParamReflection.bytes, List.append_assoc, List.append_assoc]
  exact (reads_text sized.name).bind <| (reads_text sized.httpName).bind <|
    (reads_text sized.annotation).bind <| (reads_text sized.typeName).map _

theorem Reflection.reads {r : Reflection}
    (sized : FitsTable (FitsTable ParamReflection.Sized) r) :
    Reads Reflection.read (Reflection.bytes r) r := by
  have params (ps : List ParamReflection) (fits : FitsTable ParamReflection.Sized ps) :
      Reads (table ParamReflection.read) (ofTable ParamReflection.bytes ps) ps := by
    have h := Reads.table fits fun _ => ParamReflection.reads
    rwa [List.map_id'] at h
  have h := Reads.table sized params
  rwa [List.map_id'] at h

theorem Pool.reads {pool : Pool} (sized : FitsTable FitsText pool.strings) :
    Reads Pool.read pool.bytes (Pool.ofStrings pool.strings) := by
  have strings := Reads.table sized fun _ => reads_text
  rw [List.map_id'] at strings
  exact strings.map _

theorem Ty.reads {ty : Ty} (sized : FitsText ty.text) (wellFormed : ty.WellFormed) :
    Reads Ty.read (Bytes.ofText ty.text) ty := by
  intro position rest
  have written := ((reads_text sized).mapError ModuleError.read) position rest
  simp only [Ty.read, bind, Reader.bind, written, show Ty.ofText ty.text = .ok ty from wellFormed]
  rfl

/-! ## Modules -/

namespace Module

/-- What is written in front of the reflection. -/
def body (m : Module) : Bytes :=
  m.constants.bytes
    ++ ofTable AccessorRef.bytes m.accessors
    ++ ofTable MethodRef.bytes m.methods
    ++ ofTable (fun ty => ofText ty.text) m.types
    ++ ofTable Function.bytes m.functions
    ++ ofTable ClassDef.bytes m.classes
    ++ m.metadata.bytes

theorem payload_eq_body (m : Module) :
    m.payload = m.body ++
      if flagsReflection m.flags then Reflection.bytes (m.reflection.getD []) else [] := rfl

/-- The reflection is read where the flags announce it, whether or not it was written. -/
theorem readPayload_body {m : Module} (sized : m.Sized)
    (wellFormed : ∀ ty ∈ m.types, ty.WellFormed) (flags : UInt32) (position : Nat) (rest : Bytes) :
    readPayload m.magic m.version flags ⟨position, m.body ++ rest⟩ =
      (if flagsReflection flags then do
          let r ← mapError ModuleError.read Reflection.read
          pure { m.stored with flags := flags, reflection := some r }
        else pure { m.stored with flags := flags, reflection := none })
        ⟨position + m.body.length, rest⟩ := by
  have accessors := Reads.table sized.accessors fun _ => AccessorRef.reads
  have methods := Reads.table sized.methods fun _ => MethodRef.reads
  have types := Reads.tableWith ModuleError.read sized.types.count
    fun ty member => Ty.reads (sized.types.entry ty member) (wellFormed ty member)
  have functions := Reads.table sized.functions fun _ => Function.reads
  have classes := Reads.table sized.classes fun _ => ClassDef.reads
  rw [List.map_id'] at accessors methods types
  simp only [body, List.append_assoc, readPayload, List.length_append, ← Nat.add_assoc]
  rw [bind_of_run ((Pool.reads sized.constants).mapError ModuleError.read _ _),
    bind_of_run (accessors.mapError ModuleError.read _ _),
    bind_of_run (methods.mapError ModuleError.read _ _), bind_of_run (types _ _),
    bind_of_run (functions.mapError ModuleError.read _ _),
    bind_of_run (classes.mapError ModuleError.read _ _),
    bind_of_run ((Metadata.reads sized.metadata).mapError ModuleError.read _ _)]
  rfl

theorem payload_reads {m : Module} (sized : m.Sized) (wellFormed : ∀ ty ∈ m.types, ty.WellFormed) :
    Reads (readPayload m.magic m.version m.flags) m.payload m.stored := by
  intro position rest
  rw [payload_eq_body, List.append_assoc, readPayload_body sized wellFormed, List.length_append,
    ← Nat.add_assoc]
  cases flagged : flagsReflection m.flags with
  | false =>
      have absent : m.stored = { m.stored with reflection := none } := by
        simp only [stored, flagged, Bool.false_eq_true, ↓reduceIte]
      rw [absent]
      rfl
  | true =>
      have present : m.stored = { m.stored with reflection := some (m.reflection.getD []) } := by
        simp only [stored, flagged, ↓reduceIte]
      have fits : FitsTable (FitsTable ParamReflection.Sized) (m.reflection.getD []) := by
        cases h : m.reflection with
        | none => exact ⟨by decide, by simp⟩
        | some r => exact sized.reflection r h
      rw [present]
      exact bind_of_run ((Reflection.reads fits).mapError ModuleError.read _ rest) _

theorem reads_encode {m : Module} (magic : m.magic = currentMagic)
    (version : m.version = currentVersion) (sized : m.Sized)
    (wellFormed : ∀ ty ∈ m.types, ty.WellFormed) :
    Reads (read m.payload) m.encode m.stored := by
  simp only [encode, List.append_assoc]
  refine ((reads_four m.magic).mapError _).bind ?_
  rw [if_neg (not_not_intro magic)]
  refine ((reads_word m.version).mapError _).bind ?_
  rw [if_neg (not_not_intro version)]
  refine ((reads_word m.flags).mapError _).bind <| ((reads_word _).mapError _).bind ?_
  rw [if_neg (not_not_intro rfl)]
  exact payload_reads sized wellFormed

theorem drop_encode (m : Module) : m.encode.drop headerSize = m.payload := by
  simp only [encode, List.append_assoc]
  rw [← List.append_assoc, ← List.append_assoc, ← List.append_assoc]
  apply List.drop_left'
  simp [length_ofWord, headerSize]

theorem decode_encode {m : Module} (magic : m.magic = currentMagic)
    (version : m.version = currentVersion) (sized : m.Sized)
    (wellFormed : ∀ ty ∈ m.types, ty.WellFormed) : decode m.encode = .ok m.stored := by
  have h := reads_encode magic version sized wellFormed 0 []
  rw [List.append_nil] at h
  rw [decode, drop_encode, Cursor.start, h]

end Module
end RouteAdapter
