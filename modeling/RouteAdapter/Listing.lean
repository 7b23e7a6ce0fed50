import RouteAdapter.Code.Instruction
import RouteAdapter.Module.Basic

/-!
# Listings

The text form of bodies and modules, one instruction per line, with operands resolved against the
tables of the module where they are in range.
-/

namespace RouteAdapter.Listing
open Text

def line (s : String) : String :=
  s ++ "\n"

/-- At least four digits. -/
def offsetText (offset : Nat) : String :=
  let digits := toString offset
  String.ofList (List.replicate (4 - digits.length) '0') ++ digits

/-- A table index and what stands there. -/
def entry (index : UInt32) (shown : Option String) : String :=
  " #" ++ toString index.toNat ++ shown.elim "" (" " ++ ·)

def operandText (m : Module) : Instruction → String
  | .constStr index => entry index ((m.constants.get? index).map quoted)
  | .convert index => entry index ((m.types[index.toNat]?).map fun ty => "-> " ++ ty.text)
  | .box tag =>
    match Ty.ofPrimitiveTag? tag with
    | some ty => " " ++ ty.text
    | none => " ?" ++ toString tag.toNat
  | .invokeAccessor index argc =>
    entry index ((m.accessors[index.toNat]?).map AccessorRef.name)
      ++ " argc=" ++ toString argc.toNat
  | .invokeController index argc =>
    entry index ((m.methods[index.toNat]?).map MethodRef.symbol)
      ++ " argc=" ++ toString argc.toNat
  | .loadCtx | .noContent | .ret => ""

def instructionText (m : Module) (i : Instruction) : String :=
  i.opcode.name ++ operandText m i

def locatedText (m : Module) (i : Located) : String :=
  line ("  " ++ offsetText i.offset ++ "  " ++ instructionText m i.instruction)

def bodyText (m : Module) (body : List Located) : String :=
  String.join (body.map (locatedText m))

/-- A numbered table under its title; an empty one is left out. -/
def tableText (title : String) (entries : List String) : String :=
  if entries.isEmpty then ""
  else
    line ("\n" ++ title ++ ":")
      ++ String.join (entries.mapIdx fun i e => line ("  #" ++ toString i ++ " " ++ e))

def headerText (m : Module) : String :=
  line ("module " ++ m.metadata.name)
    ++ m.metadata.sourceFile.elim "" (fun path => line ("  source " ++ path))
    ++ line ("  version " ++ toString m.version.toNat ++ " flags 0x" ++ hexOfNat m.flags.toNat
      ++ " constants " ++ toString m.constants.strings.length)

def classText (c : ClassDef) : String :=
  line ("\nclass " ++ c.name ++ " implements " ++ c.interface ++ " (controller " ++ c.controller
      ++ ")")
    ++ String.join (c.methods.map fun r =>
      line ("  route " ++ r.name ++ " -> function " ++ toString r.functionId))

def paramText (p : ParamReflection) : String :=
  line ("  ; " ++ p.name ++ ": " ++ p.typeName ++ " <- " ++ p.annotation ++ " \"" ++ p.httpName
    ++ "\"")

end RouteAdapter.Listing

namespace RouteAdapter

open Text Listing

def Function.listing (f : Function) (m : Module) : Except ReadError String :=
  (bodyText m) <$> Code.decode f.code

def Module.functionListings (m : Module) (id : Nat) : List Function → Except ReadError String
  | [] => .ok ""
  | f :: rest => do
    let params := ((m.reflection.getD [])[id]?).getD []
    let body ← f.listing m
    let others ← m.functionListings (id + 1) rest
    pure (line ("\nfunction " ++ f.name ++ " (" ++ toString id ++ "):")
      ++ String.join (params.map paramText) ++ body ++ others)

def Module.listing (m : Module) : Except ReadError String := do
  let functions ← m.functionListings 0 m.functions
  pure (headerText m
    ++ tableText "accessors" (m.accessors.map fun a => a.name ++ " " ++ a.descriptor)
    ++ tableText "methods" (m.methods.map fun r => r.symbol ++ " " ++ r.descriptor)
    ++ tableText "types" (m.types.map Ty.text)
    ++ String.join (m.classes.map classText)
    ++ functions)

end RouteAdapter
