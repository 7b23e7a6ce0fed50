import RouteAdapter.Digest.Crc32
import RouteAdapter.Digest.Sha256
import RouteAdapter.Module.Basic

/-!
# The module format

A header of sixteen bytes (magic, version, flags, CRC-32 of the rest) is followed by the payload:
pool, accessors, methods, types, functions, classes, metadata and, when flagged, reflection.
`encode` writes a module, `decode` reads one, and the fingerprint is the SHA-256 of what `encode`
writes.
-/

namespace RouteAdapter
open Text Bytes

/-! ## Writing -/

def AccessorRef.bytes (a : AccessorRef) : Bytes :=
  ofText a.name ++ ofText a.descriptor ++ [a.arity]

def MethodRef.bytes (m : MethodRef) : Bytes :=
  ofText m.symbol ++ ofText m.descriptor ++ [m.argCount]

def Function.bytes (f : Function) : Bytes :=
  ofText f.name ++ ofCount f.paramCount ++ ofCount f.localCount ++ ofTable (fun b => [b]) f.code

def Route.bytes (r : Route) : Bytes :=
  ofText r.name ++ ofCount r.functionId

def ClassDef.bytes (c : ClassDef) : Bytes :=
  ofText c.name ++ ofText c.interface ++ ofText c.controller ++ ofTable Route.bytes c.methods

def Metadata.bytes (m : Metadata) : Bytes :=
  ofText m.name ++
    match m.sourceFile with
    | some path => 1 :: ofText path
    | none => [0]

def ParamReflection.bytes (p : ParamReflection) : Bytes :=
  ofText p.name ++ ofText p.httpName ++ ofText p.annotation ++ ofText p.typeName

def Reflection.bytes (r : Reflection) : Bytes :=
  ofTable (ofTable ParamReflection.bytes) r

namespace Module

/-- Flagged reflection that is absent is written as empty. -/
def payload (m : Module) : Bytes :=
  m.constants.bytes
    ++ ofTable AccessorRef.bytes m.accessors
    ++ ofTable MethodRef.bytes m.methods
    ++ ofTable (fun ty => ofText ty.text) m.types
    ++ ofTable Function.bytes m.functions
    ++ ofTable ClassDef.bytes m.classes
    ++ m.metadata.bytes
    ++ if flagsReflection m.flags then Reflection.bytes (m.reflection.getD []) else []

def encode (m : Module) : Bytes :=
  let payload := m.payload
  m.magic.toList ++ ofWord m.version ++ ofWord m.flags ++ ofWord (Digest.crc32 payload) ++ payload

def fingerprint (m : Module) : Bytes :=
  Digest.sha256 m.encode

def fingerprintHex (m : Module) : String :=
  hexOfBytes m.fingerprint

end Module

/-! ## Reading -/

inductive ModuleError
  | read (e : ReadError)
  | magic (found : Vector UInt8 4)
  | version (found : UInt32)
  | checksum (expected actual : UInt32)
  | type (e : Ty.TextError)
  deriving DecidableEq

def ModuleError.message : ModuleError → String
  | read e => "Decode error: " ++ e.message
  | magic found =>
    "Invalid magic number: expected RGEN, got "
      ++ bracketed (found.toList.map fun b => toString b.toNat)
  | version found =>
    "Unsupported version: " ++ toString found.toNat ++ " (current: "
      ++ toString Module.currentVersion.toNat ++ ")"
  | checksum expected actual =>
    "Checksum mismatch: expected 0x" ++ hexOfNat expected.toNat ++ ", got 0x"
      ++ hexOfNat actual.toNat
  | type e => "Invalid type descriptor in type table: " ++ e.message

open Reader

def AccessorRef.read : Reader ReadError AccessorRef := do
  let name ← text
  let descriptor ← text
  let arity ← byte
  pure ⟨name, descriptor, arity⟩

def MethodRef.read : Reader ReadError MethodRef := do
  let symbol ← text
  let descriptor ← text
  let argCount ← byte
  pure ⟨symbol, descriptor, argCount⟩

def Function.read : Reader ReadError Function := do
  let name ← text
  let paramCount ← count
  let localCount ← count
  let size ← count
  let code ← take size
  pure ⟨name, paramCount, localCount, code⟩

def Route.read : Reader ReadError Route := do
  let name ← text
  let functionId ← count
  pure ⟨name, functionId⟩

def ClassDef.read : Reader ReadError ClassDef := do
  let name ← text
  let interface ← text
  let controller ← text
  let methods ← table Route.read
  pure ⟨name, interface, controller, methods⟩

/-- Any presence byte other than zero announces a source file. -/
def Metadata.read : Reader ReadError Metadata := do
  let name ← text
  let presence ← byte
  if presence ≠ 0 then
    let path ← text
    pure ⟨name, some path⟩
  else pure ⟨name, none⟩

def ParamReflection.read : Reader ReadError ParamReflection := do
  let name ← text
  let httpName ← text
  let annotation ← text
  let typeName ← text
  pure ⟨name, httpName, annotation, typeName⟩

def Reflection.read : Reader ReadError Reflection :=
  table (table ParamReflection.read)

def Ty.read : Reader ModuleError Ty := do
  let s ← mapError .read Reader.text
  match Ty.ofText s with
  | .ok ty => pure ty
  | .error e => fail (.type e)

namespace Module

def readPayload (magic : Vector UInt8 4) (version flags : UInt32) : Reader ModuleError Module := do
  let constants ← mapError .read Pool.read
  let accessors ← mapError .read (table AccessorRef.read)
  let methods ← mapError .read (table MethodRef.read)
  let types ← tableWith .read Ty.read
  let functions ← mapError .read (table Function.read)
  let classes ← mapError .read (table ClassDef.read)
  let metadata ← mapError .read Metadata.read
  let reflection ←
    if flagsReflection flags then do
      let r ← mapError .read Reflection.read
      pure (some r)
    else pure none
  pure ⟨magic, version, flags, constants, accessors, methods, types, functions, classes, metadata,
    reflection⟩

/-- The checksum is compared with that of everything after the header. -/
def read (payload : Bytes) : Reader ModuleError Module := do
  let magic ← mapError .read four
  if magic ≠ currentMagic then fail (.magic magic)
  let version ← mapError .read word
  if version ≠ currentVersion then fail (.version version)
  let flags ← mapError .read word
  let expected ← mapError .read word
  let actual := Digest.crc32 payload
  if expected ≠ actual then fail (.checksum expected actual)
  readPayload magic version flags

def decode (bytes : Bytes) : Except ModuleError Module :=
  (read (bytes.drop headerSize) (.start bytes)).1

end Module
end RouteAdapter
