import RouteAdapter.Decimal.Notation
import RouteAdapter.Document.Draft
import RouteAdapter.Text.Quoted
import RouteAdapter.Ty.Text

/-!
# Decoding drafts

A decoder takes a value of a known shape from a draft and reports the first fault in the order of
the document. A record is written with the names of its fields, or as an array of them in their
order. What is missing is reported where the record ends.
-/

namespace RouteAdapter

inductive DecodeFault
  | malformed
  | missingField (name : String)
  | unknownField (name : String) (known : List String)
  | duplicateField (name : String)
  | invalidType (found expected : String)
  | invalidLength (length : Nat) (record : String) (fields : Nat)
  | type (e : Ty.TextError)

def expectation : List String → String
  | [name] => "expected " ++ name
  | names => "expected one of " ++ String.intercalate ", " names

def DecodeFault.message : DecodeFault → String
  | malformed => "malformed document"
  | missingField name => "missing field `" ++ name ++ "`"
  | unknownField name known =>
    "unknown field `" ++ name ++ "`, " ++ expectation (known.map fun k => "`" ++ k ++ "`")
  | duplicateField name => "duplicate field `" ++ name ++ "`"
  | invalidType found expected => "invalid type: " ++ found ++ ", expected " ++ expected
  | invalidLength length record fields =>
    "invalid length " ++ toString length ++ ", expected struct " ++ record ++ " with "
      ++ toString fields ++ " elements"
  | type e => e.message

structure DocumentFormat where
  /-- Spelling of floating-point numbers in messages. -/
  floatLayout : Decimal.Layout
  /-- Items beyond the last field of a record may pass. -/
  surplus : Bool

abbrev Decoder (α : Type) := DocumentFormat → Draft → Except DecodeFault α

namespace Decoder

variable {α : Type}

/-- What a draft is, unless it has no value. -/
def found? (f : DocumentFormat) : Draft → Option String
  | .null => some "null"
  | .bool b => some ("boolean `" ++ toString b ++ "`")
  | .number (.int n) => some ("integer `" ++ toString n ++ "`")
  | .number (.float x) => some ("floating point `" ++ f.floatLayout.text x ++ "`")
  | .string s => some ("string " ++ Text.quoted s)
  | .array _ _ => some "sequence"
  | .object _ _ => some "map"
  | .valueless | .broken => none

def mismatch (f : DocumentFormat) (expected : String) (d : Draft) : DecodeFault :=
  match found? f d with
  | some found => .invalidType found expected
  | none => .malformed

def text : Decoder String
  | _, .string s => .ok s
  | f, d => .error (mismatch f "a string" d)

def flag : Decoder Bool
  | _, .bool b => .ok b
  | f, d => .error (mismatch f "a boolean" d)

def optional (item : Decoder α) : Decoder (Option α)
  | _, .null => .ok none
  | f, d => (item f d).map some

def list (item : Decoder α) : Decoder (List α)
  | f, .array items closed => do
    let values ← items.mapM (item f)
    if closed then .ok values else .error .malformed
  | f, d => .error (mismatch f "a sequence" d)

def ty : Decoder Ty := fun f d => do
  let s ← text f d
  (Ty.ofText s).mapError .type

end Decoder

/-- A field of a record whose fields are gathered in `σ`. -/
structure Field (σ : Type) where
  name : String
  required : Bool
  isSet : σ → Bool
  read : σ → Decoder σ

def Field.at {σ α : Type} (required : Bool) (name : String) (item : Decoder α) (get : σ → Option α)
    (set : σ → α → σ) : Field σ where
  name := name
  required := required
  isSet := fun s => (get s).isSome
  read := fun s f d => (item f d).map (set s)

structure Record (σ α : Type) where
  name : String
  strict : Bool
  fields : List (Field σ)
  blank : σ
  /-- The value, unless a required field is missing. -/
  value? : σ → Option α

namespace Record

variable {σ α : Type} (r : Record σ α) (f : DocumentFormat)

/-- Members set the fields that they name. -/
def gatherMembers (closed : Bool) (s : σ) : List (Option String × Draft) → Except DecodeFault σ
  | [] => if closed then .ok s else .error .malformed
  | (none, _) :: _ => .error .malformed
  | (some key, d) :: rest =>
    match r.fields.find? fun field => field.name == key with
    | some field =>
      if field.isSet s then .error (.duplicateField key)
      else do
        let s ← field.read s f d
        gatherMembers closed s rest
    | none =>
      if r.strict then .error (.unknownField key (r.fields.map Field.name))
      else if d.isWhole then gatherMembers closed s rest
      else .error .malformed

/-- Items stand for the fields in their order. -/
def gatherItems (closed : Bool) (s : σ) (index : Nat) :
    List (Field σ) → List Draft → Except DecodeFault σ
  | [], [] => if closed then .ok s else .error .malformed
  | [], _ :: _ => if closed && f.surplus then .ok s else .error .malformed
  | field :: fields, [] =>
    if !closed then .error .malformed
    else if field.required then .error (.invalidLength index r.name r.fields.length)
    else gatherItems closed s (index + 1) fields []
  | field :: fields, d :: rest => do
    let s ← field.read s f d
    gatherItems closed s (index + 1) fields rest

def missing? (s : σ) : Option String :=
  (r.fields.find? fun field => field.required && !field.isSet s).map Field.name

def finish (s : σ) : Except DecodeFault α :=
  match r.missing? s, r.value? s with
  | some name, _ => .error (.missingField name)
  | none, some a => .ok a
  | none, none => .error .malformed

def decode : Decoder α
  | f, .object members closed => do
    let s ← r.gatherMembers f closed r.blank members
    r.finish s
  | f, .array items closed => do
    let s ← r.gatherItems f closed r.blank 0 r.fields items
    r.finish s
  | f, d => .error (Decoder.mismatch f ("struct " ++ r.name) d)

end Record
end RouteAdapter
