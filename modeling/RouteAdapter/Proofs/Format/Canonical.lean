import RouteAdapter.Proofs.Format.Stored
import RouteAdapter.Proofs.Format.Taking
import RouteAdapter.Proofs.Ty.Spacing

/-!
# Canonical files

Different files may decode to one module. They differ in their spelling: the strings of the type
table, the presence byte of the source file, and what follows the last section. What `encode` writes
is the canonical one of them.

* `Module.spell_of_decode`: an accepted file is its module in some spelling;
* `Module.encode_eq_spell`, `Module.spell_injective`: the spelling that `encode` chooses;
* `Module.decode_canonical`: the files of a module.
-/

namespace RouteAdapter
open Bytes Reader

structure Spelling where
  types : List String
  presence : UInt8
  trailing : Bytes
  deriving DecidableEq

namespace Spelling

/-- Nothing trails, presence is a bit, and every type is written as its canonical text. -/
def Canonical (s : Spelling) : Prop :=
  s.trailing = [] ∧ (s.presence = 0 ∨ s.presence = 1) ∧
    ∀ t ∈ s.types, ∃ ty, Ty.ofText t = .ok ty ∧ ty.text = t

/-- The module is read from files in the spelling. -/
structure Spells (s : Spelling) (m : Module) : Prop where
  types : List.Forall₂ (fun t ty => Ty.ofText t = .ok ty) s.types m.types
  fits : FitsTable FitsText s.types
  presence : s.presence = 0 ↔ m.metadata.sourceFile = none

end Spelling

namespace Module

/-! ## The spelling of a file -/

def readHeader : Reader ReadError Unit := do
  let _ ← four
  let _ ← word
  let _ ← word
  let _ ← word
  pure ()

/-- The strings of the type table, past the pool, the accessors and the methods. -/
def readTypes : Reader ReadError (List String) := do
  let _ ← Pool.read
  let _ ← table AccessorRef.read
  let _ ← table MethodRef.read
  table text

/-- The presence byte, past the type table, the functions, the classes and the module's name. -/
def readPresence : Reader ReadError UInt8 := do
  let _ ← readTypes
  let _ ← table Function.read
  let _ ← table ClassDef.read
  let _ ← text
  byte

def spelling (bytes : Bytes) : Except ReadError Spelling := do
  let types ← ((readHeader >>= fun _ => readTypes) (.start bytes)).1
  let presence ← ((readHeader >>= fun _ => readPresence) (.start bytes)).1
  pure ⟨types, presence, (read (bytes.drop headerSize) (.start bytes)).2.rest⟩

/-! ## Modules in a spelling -/

def spellMetadata (m : Metadata) (presence : UInt8) : Bytes :=
  ofText m.name ++ presence :: m.sourceFile.elim [] ofText

def spellPayload (m : Module) (s : Spelling) : Bytes :=
  m.constants.bytes
    ++ ofTable AccessorRef.bytes m.accessors
    ++ ofTable MethodRef.bytes m.methods
    ++ ofTable ofText s.types
    ++ ofTable Function.bytes m.functions
    ++ ofTable ClassDef.bytes m.classes
    ++ spellMetadata m.metadata s.presence
    ++ (if flagsReflection m.flags then Reflection.bytes (m.reflection.getD []) else [])
    ++ s.trailing

def spell (m : Module) (s : Spelling) : Bytes :=
  let payload := m.spellPayload s
  m.magic.toList ++ ofWord m.version ++ ofWord m.flags ++ ofWord (Digest.crc32 payload) ++ payload

def canonical (m : Module) : Spelling :=
  ⟨m.types.map Ty.text, if m.metadata.sourceFile.isSome then 1 else 0, []⟩

theorem payload_eq_spellPayload (m : Module) : m.payload = m.spellPayload m.canonical := by
  have types : ofTable (fun ty => ofText (Ty.text ty)) m.types = ofTable ofText m.canonical.types :=
    (ofTable_map Ty.text ofText m.types).symm
  have metadata : m.metadata.bytes = spellMetadata m.metadata m.canonical.presence := by
    rw [Metadata.bytes, spellMetadata, canonical]
    cases m.metadata.sourceFile <;> rfl
  rw [payload, spellPayload, types, metadata, canonical, List.append_nil]

theorem encode_eq_spell (m : Module) : m.encode = m.spell m.canonical := by
  rw [encode, spell, payload_eq_spellPayload]

/-! ## Reading back -/

theorem run_readTy {c c' : Cursor} {ty : Ty} :
    Ty.read c = (.ok ty, c') ↔ ∃ t, text c = (.ok t, c') ∧ Ty.ofText t = .ok ty := by
  simp only [Ty.read, run_bind, run_mapError]
  constructor
  · rintro ⟨t, mid, taken, parsed⟩
    cases found : Ty.ofText t with
    | error e => simp [found, run_fail] at parsed
    | ok ty' =>
        simp only [found, run_pure] at parsed
        obtain ⟨rfl, rfl⟩ := parsed
        exact ⟨t, taken, found⟩
  · rintro ⟨t, taken, found⟩
    refine ⟨t, c', taken, ?_⟩
    simp only [found, run_pure, and_self]

theorem texts_of_times {n : Nat} {c c' : Cursor} {types : List Ty}
    (read : times Ty.read n c = (.ok types, c')) :
    ∃ texts, times text n c = (.ok texts, c') ∧
      List.Forall₂ (fun t ty => Ty.ofText t = .ok ty) texts types := by
  induction n generalizing c types with
  | zero =>
      obtain ⟨rfl, rfl⟩ := run_pure.mp read
      exact ⟨[], rfl, .nil⟩
  | succ n ih =>
      simp only [times, run_bind, run_pure, run_readTy] at read
      obtain ⟨ty, first, ⟨t, taken, parsed⟩, others, second, tail, rfl, rfl⟩ := read
      obtain ⟨texts, listed, all⟩ := ih tail
      refine ⟨t :: texts, ?_, .cons parsed all⟩
      simp only [times, run_bind, run_pure]
      exact ⟨t, first, taken, texts, second, listed, rfl, rfl⟩

theorem texts_of_table {c c' : Cursor} {types : List Ty}
    (read : tableWith ModuleError.read Ty.read c = (.ok types, c')) :
    ∃ texts, table text c = (.ok texts, c') ∧
      List.Forall₂ (fun t ty => Ty.ofText t = .ok ty) texts types := by
  simp only [tableWith, run_bind, run_mapError] at read
  obtain ⟨n, mid, counted, listed⟩ := read
  obtain ⟨texts, taken, all⟩ := texts_of_times listed
  refine ⟨texts, ?_, all⟩
  simp only [table, tableWith, run_bind, run_mapError]
  exact ⟨n, mid, counted, taken⟩

theorem fits_types {texts : List String} {types : List Ty}
    (parsed : List.Forall₂ (fun t ty => Ty.ofText t = .ok ty) texts types)
    (fits : FitsTable FitsText texts) : FitsTable (fun ty => FitsText ty.text) types := by
  refine ⟨parsed.length_eq ▸ fits.count, fun ty member => ?_⟩
  obtain ⟨t, used, read⟩ := exists_of_mem_forall₂_right parsed member
  exact Nat.lt_of_le_of_lt (Ty.length_utf8_text_le read) (fits.entry t used)

theorem spellMetadata_of_read {c c' : Cursor} {m : Metadata}
    (read : Metadata.read c = (.ok m, c')) :
    ∃ presence first second, text c = (.ok m.name, first) ∧ byte first = (.ok presence, second) ∧
      m.Sized ∧ (presence = 0 ↔ m.sourceFile = none) ∧
        c.rest = spellMetadata m presence ++ c'.rest := by
  simp only [Metadata.read, run_bind] at read
  obtain ⟨name, first, named, presence, second, marked, rest⟩ := read
  obtain ⟨nameFits, nameTaken⟩ := takes_text _ _ _ named
  obtain ⟨-, presenceTaken⟩ := takes_byte _ _ _ marked
  by_cases absent : presence = 0
  · simp only [absent, ne_eq, not_true_eq_false, ↓reduceIte, run_pure] at rest
    obtain ⟨rfl, rfl⟩ := rest
    refine ⟨presence, first, second, named, marked, ⟨nameFits, by simp⟩, by simp [absent], ?_⟩
    simp only [nameTaken, presenceTaken, spellMetadata, Option.elim_none, List.append_assoc,
      List.cons_append, List.nil_append]
  · simp only [absent, ne_eq, not_false_eq_true, ↓reduceIte, run_bind, run_pure] at rest
    obtain ⟨path, third, located, rfl, rfl⟩ := rest
    obtain ⟨pathFits, pathTaken⟩ := takes_text _ _ _ located
    refine ⟨presence, first, second, named, marked, ⟨nameFits, by simpa using pathFits⟩,
      by simp [absent], ?_⟩
    simp only [nameTaken, presenceTaken, pathTaken, spellMetadata, Option.elim_some,
      List.append_assoc, List.cons_append, List.nil_append]

theorem reflection_of_read {flags : UInt32} {rest : Option Reflection → Module} {c c' : Cursor}
    {m : Module}
    (read : (do
      let reflection ←
        if flagsReflection flags then do
          let r ← mapError .read Reflection.read
          pure (some r)
        else pure none
      pure (rest reflection) : Reader ModuleError Module) c = (.ok m, c')) :
    ∃ reflection, m = rest reflection ∧
      (∀ r ∈ reflection, FitsTable (FitsTable ParamReflection.Sized) r) ∧
      (if flagsReflection flags then some (reflection.getD []) else none) = reflection ∧
      c.rest = (if flagsReflection flags then Reflection.bytes (reflection.getD []) else [])
        ++ c'.rest := by
  cases flagged : flagsReflection flags with
  | false =>
      simp only [flagged, Bool.false_eq_true, ↓reduceIte, run_bind, run_pure] at read
      obtain ⟨reflection, mid, ⟨rfl, rfl⟩, rfl, rfl⟩ := read
      exact ⟨none, rfl, by simp, rfl, rfl⟩
  | true =>
      simp only [flagged, ↓reduceIte, run_bind, run_pure, run_mapError] at read
      obtain ⟨r, mid, taken, reflection, mid', ⟨rfl, rfl⟩, rfl, rfl⟩ := read
      obtain ⟨fits, front⟩ := Reflection.takes _ _ _ taken
      exact ⟨some r, rfl, by simpa using fits, rfl, front⟩

theorem spellPayload_of_read {magic : Vector UInt8 4} {version flags : UInt32} {c c' : Cursor}
    {m : Module} (read : readPayload magic version flags c = (.ok m, c')) :
    m.magic = magic ∧ m.version = version ∧ m.flags = flags ∧ m.Sized ∧ m.stored = m ∧
      ∃ s : Spelling, s.Spells m ∧ c.rest = m.spellPayload s ∧ s.trailing = c'.rest ∧
        (readTypes c).1 = .ok s.types ∧ (readPresence c).1 = .ok s.presence := by
  simp only [readPayload, run_bind, run_mapError] at read
  obtain ⟨constants, c₁, first, accessors, c₂, second, methods, c₃, third, types, c₄, fourth,
    functions, c₅, fifth, classes, c₆, sixth, metadata, c₇, seventh, last⟩ := read
  obtain ⟨⟨constantsFit, indexed⟩, constantsTaken⟩ := Pool.takes _ _ _ first
  obtain ⟨accessorsFit, accessorsTaken⟩ := AccessorRef.takes.table _ _ _ second
  obtain ⟨methodsFit, methodsTaken⟩ := MethodRef.takes.table _ _ _ third
  obtain ⟨texts, listed, parsed⟩ := texts_of_table fourth
  obtain ⟨textsFit, textsTaken⟩ := takes_text.table _ _ _ listed
  obtain ⟨functionsFit, functionsTaken⟩ := Function.takes.table _ _ _ fifth
  obtain ⟨classesFit, classesTaken⟩ := ClassDef.takes.table _ _ _ sixth
  obtain ⟨presence, m₁, m₂, named, marked, metadataFits, present, metadataTaken⟩ :=
    spellMetadata_of_read seventh
  obtain ⟨reflection, whole, reflectionFits, flagged, reflectionTaken⟩ := reflection_of_read last
  subst whole
  have typesRead : readTypes c = (.ok texts, c₄) := by
    simp only [readTypes, run_bind]
    exact ⟨constants, c₁, first, accessors, c₂, second, methods, c₃, third, listed⟩
  have presenceRead : readPresence c = (.ok presence, m₂) := by
    simp only [readPresence, run_bind]
    exact ⟨texts, c₄, typesRead, functions, c₅, fifth, classes, c₆, sixth, metadata.name, m₁, named,
      marked⟩
  have functionsSame : functions.map Function.stored = functions :=
    map_eq_self fun f member => (functionsFit.entry f member).2
  have classesSame : classes.map ClassDef.stored = classes :=
    map_eq_self fun cls member => (classesFit.entry cls member).2
  refine ⟨rfl, rfl, rfl, ⟨constantsFit, accessorsFit, methodsFit, fits_types parsed textsFit,
    ⟨functionsFit.count, fun f member => (functionsFit.entry f member).1⟩,
    ⟨classesFit.count, fun cls member => (classesFit.entry cls member).1⟩, metadataFits,
    reflectionFits⟩, ?_, ⟨texts, presence, c'.rest⟩, ⟨parsed, textsFit, present⟩, ?_, rfl,
    congrArg Prod.fst typesRead, congrArg Prod.fst presenceRead⟩
  · simp only [stored, ← indexed, functionsSame, classesSame, flagged]
  · simp only [spellPayload, constantsTaken, accessorsTaken, methodsTaken, textsTaken,
      functionsTaken, classesTaken, metadataTaken, reflectionTaken, List.append_assoc]

theorem drop_spell (m : Module) (s : Spelling) :
    (m.spell s).drop headerSize = m.spellPayload s := by
  simp only [spell, List.append_assoc]
  rw [← List.append_assoc, ← List.append_assoc, ← List.append_assoc]
  apply List.drop_left'
  simp [length_ofWord, headerSize]

/-- What is known of a module that was read from a file. -/
structure Whole (m : Module) : Prop where
  magic : m.magic = currentMagic
  version : m.version = currentVersion
  sized : m.Sized
  stored : m.stored = m

theorem spell_of_decode {bytes : Bytes} {m : Module} (decoded : decode bytes = .ok m) :
    m.Whole ∧ ∃ s : Spelling, spelling bytes = .ok s ∧ s.Spells m ∧ bytes = m.spell s := by
  unfold decode at decoded
  obtain ⟨c', run⟩ : ∃ c', read (bytes.drop headerSize) (.start bytes) = (.ok m, c') :=
    ⟨_, Prod.ext decoded rfl⟩
  have trailing := congrArg (fun answer => answer.2.rest) run
  simp only [read, run_bind, run_mapError, run_guard, ne_eq, not_not] at run
  obtain ⟨magic, c₁, first, rfl, version, c₂, second, rfl, flags, c₃, third, crc, c₄, fourth, rfl,
    last⟩ := run
  obtain ⟨-, magicTaken⟩ := takes_four _ _ _ first
  obtain ⟨-, versionTaken⟩ := takes_word _ _ _ second
  obtain ⟨-, flagsTaken⟩ := takes_word _ _ _ third
  obtain ⟨-, crcTaken⟩ := takes_word _ _ _ fourth
  obtain ⟨sameMagic, sameVersion, rfl, sized, stored, s, spells, payloadTaken, rest, types,
    presence⟩ := spellPayload_of_read last
  -- What was read of the header, put in front of what is left for the payload.
  have whole : bytes = (currentMagic.toList ++ ofWord currentVersion ++ ofWord m.flags ++
      ofWord (Digest.crc32 (bytes.drop headerSize))) ++ c₄.rest := by
    simp only [List.append_assoc, ← crcTaken, ← flagsTaken, ← versionTaken, ← magicTaken]
    rfl
  have payload : bytes.drop headerSize = m.spellPayload s := by
    rw [← payloadTaken]
    exact congrArg (List.drop headerSize) whole
  have headerRead : readHeader (.start bytes) = (.ok (), c₄) := by
    simp only [readHeader, run_bind, run_pure]
    exact ⟨_, c₁, first, _, c₂, second, _, c₃, third, _, c₄, fourth, trivial, rfl⟩
  refine ⟨⟨sameMagic, sameVersion, sized, stored⟩, s, ?_, spells, ?_⟩
  · rw [spelling, bind_of_run headerRead, bind_of_run headerRead, types, presence, trailing]
    exact congrArg Except.ok (congrArg (Spelling.mk s.types s.presence) rest.symm)
  · rw [whole, payload, payloadTaken, spell, sameMagic, sameVersion]

/-! ## One spelling for each file -/

theorem table_injective {texts texts' : List String} (fits : FitsTable FitsText texts)
    (fits' : FitsTable FitsText texts') {back back' : Bytes}
    (same : ofTable ofText texts ++ back = ofTable ofText texts' ++ back') :
    texts = texts' ∧ back = back' := by
  have first := Reads.table fits (fun _ => reads_text) 0 back
  have second := Reads.table fits' (fun _ => reads_text) 0 back'
  rw [same, second, List.map_id', List.map_id', Prod.mk.injEq, Except.ok.injEq,
    Cursor.mk.injEq] at first
  exact ⟨first.1.symm, first.2.2.symm⟩

theorem spell_injective {m : Module} {s s' : Spelling} (fits : FitsTable FitsText s.types)
    (fits' : FitsTable FitsText s'.types) (same : m.spell s = m.spell s') : s = s' := by
  have payload : m.spellPayload s = m.spellPayload s' := by
    rw [← drop_spell, same, drop_spell]
  simp only [spellPayload, spellMetadata, List.append_assoc, List.append_cancel_left_eq] at payload
  obtain ⟨types, rest⟩ := table_injective fits fits' payload
  simp only [List.append_cancel_left_eq, List.cons_append, List.cons.injEq] at rest
  obtain ⟨presence, trailing⟩ := rest
  cases s
  cases s'
  cases types
  cases presence
  cases trailing
  rfl

/-! ## The canonical spelling -/

theorem wellFormed_of_spells {m : Module} {s : Spelling} (spells : s.Spells m) :
    ∀ ty ∈ m.types, ty.WellFormed := by
  intro ty member
  obtain ⟨t, -, read⟩ := exists_of_mem_forall₂_right spells.types member
  exact Ty.ofText_text read

theorem canonical_spells {m : Module} (sized : m.Sized)
    (wellFormed : ∀ ty ∈ m.types, ty.WellFormed) :
    m.canonical.Spells m := by
  refine ⟨?_, ⟨?_, ?_⟩, ?_⟩
  · rw [canonical, List.forall₂_map_left_iff, List.forall₂_same]
    exact wellFormed
  · simpa [canonical] using sized.types.count
  · simpa [canonical] using sized.types.entry
  · cases source : m.metadata.sourceFile <;> simp [canonical, source]

theorem eq_map_text {texts : List String} {types : List Ty}
    (parsed : List.Forall₂ (fun t ty => Ty.ofText t = .ok ty) texts types)
    (canonical : ∀ t ∈ texts, ∃ ty, Ty.ofText t = .ok ty ∧ ty.text = t) :
    texts = types.map Ty.text := by
  induction parsed with
  | nil => rfl
  | @cons t ty texts types first _ ih =>
      obtain ⟨⟨ty', read, same⟩, others⟩ := List.forall_mem_cons.mp canonical
      cases first.symm.trans read
      rw [List.map_cons, same, ← ih others]

theorem canonical_iff {m : Module} {s : Spelling} (spells : s.Spells m) :
    s.Canonical ↔ s = m.canonical := by
  constructor
  · rintro ⟨trailing, bit, texts⟩
    have types := eq_map_text spells.types texts
    have presence : s.presence = if m.metadata.sourceFile.isSome then 1 else 0 := by
      have absent := spells.presence
      cases source : m.metadata.sourceFile with
      | none => simpa [source] using absent
      | some path => rcases bit with zero | one <;> simp_all
    obtain ⟨sTypes, sPresence, sTrailing⟩ := s
    rw [canonical, ← types, ← presence, ← trailing]
  · rintro rfl
    refine ⟨rfl, ?_, ?_⟩
    · cases source : m.metadata.sourceFile <;> simp [canonical, source]
    · intro t used
      obtain ⟨ty, member, rfl⟩ := List.mem_map.mp used
      exact ⟨ty, wellFormed_of_spells spells ty member, rfl⟩

theorem length_table_le {texts : List String} {types : List Ty}
    (parsed : List.Forall₂ (fun t ty => Ty.ofText t = .ok ty) texts types) :
    (ofTable ofText (types.map Ty.text)).length ≤ (ofTable ofText texts).length := by
  have entries : ((types.map Ty.text).flatMap ofText).length ≤ (texts.flatMap ofText).length := by
    induction parsed with
    | nil => simp
    | @cons t ty texts types first _ ih =>
        have shorter := Ty.length_utf8_text_le first
        simp only [List.map_cons, List.flatMap_cons, List.length_append, ofText, ofCount,
          length_ofWord] at ih ⊢
        omega
  simp only [ofTable, ofCount, List.length_append, length_ofWord]
  omega

theorem length_encode_le {m : Module} {s : Spelling} (spells : s.Spells m) :
    m.encode.length ≤ (m.spell s).length := by
  have types := length_table_le spells.types
  rw [encode_eq_spell]
  simp only [spell, spellPayload, spellMetadata, canonical, List.length_append, List.length_cons,
    length_ofWord, List.length_nil] at types ⊢
  omega

theorem decode_encode_of_decode {bytes : Bytes} {m : Module} (decoded : decode bytes = .ok m) :
    decode m.encode = .ok m := by
  obtain ⟨whole, s, -, spells, -⟩ := spell_of_decode decoded
  have again := decode_encode whole.magic whole.version whole.sized (wellFormed_of_spells spells)
  rwa [whole.stored] at again

/-- Every accepted file has a canonical one, which is not longer and is read as the same module; it
is the file itself exactly if the file is canonically spelled. Files of one module differ in
spelling. -/
theorem decode_canonical {bytes : Bytes} {m : Module} (decoded : decode bytes = .ok m) :
    decode m.encode = .ok m ∧ m.encode.length ≤ bytes.length ∧
      ∃ s, spelling bytes = .ok s ∧ (m.encode = bytes ↔ s.Canonical) ∧
        ∀ bytes', decode bytes' = .ok m → spelling bytes' = .ok s → bytes' = bytes := by
  have again := decode_encode_of_decode decoded
  obtain ⟨whole, s, spelled, spells, rfl⟩ := spell_of_decode decoded
  have wellFormed := wellFormed_of_spells spells
  refine ⟨again, length_encode_le spells, s, spelled, ?_, ?_⟩
  · rw [canonical_iff spells, encode_eq_spell]
    constructor
    · exact fun same =>
        (spell_injective (canonical_spells whole.sized wellFormed).fits spells.fits same).symm
    · exact fun same => congrArg m.spell same.symm
  · intro bytes' decoded' spelled'
    obtain ⟨-, s', spelled'', -, rfl⟩ := spell_of_decode decoded'
    cases spelled'.symm.trans spelled''
    rfl

def sourced : Module :=
  { named "m" with
    types := [.list .i32]
    metadata := ⟨"m", some "m.toml"⟩ }

/-- A file of the module with blanks in its type, an odd presence byte and a byte too many. -/
def padded : Bytes :=
  sourced.spell ⟨[" List < i32 >"], 7, [0]⟩

theorem decode_canonical_padded :
    decode padded = .ok sourced ∧ decode sourced.encode = .ok sourced ∧
      sourced.encode.length ≤ padded.length ∧ sourced.encode ≠ padded := by
  have decoded : decode padded = .ok sourced := toOption_eq_some.mp (by decide +kernel)
  have spelled : spelling padded = .ok ⟨[" List < i32 >"], 7, [0]⟩ :=
    toOption_eq_some.mp (by decide +kernel)
  obtain ⟨again, shorter, s, found, canonical, -⟩ := decode_canonical decoded
  cases spelled.symm.trans found
  refine ⟨decoded, again, shorter, fun same => ?_⟩
  obtain ⟨nothing, -, -⟩ := canonical.mp same
  cases nothing

end Module
end RouteAdapter
