import RouteAdapter.Decimal.Reading
import RouteAdapter.Json.Reader
import RouteAdapter.Text.Quoted
import RouteAdapter.Text.Utf8
import RouteAdapter.Ty.Text
import RouteAdapter.Value.Basic

/-!
# Conversion

A value that conforms to a type is kept. Otherwise a raw value is read from its text, a map becomes
a composite value, and a body is read as text or as JSON.
-/

namespace RouteAdapter
open Text

inductive BodyFault
  | syntaxError
  | utf8 (fault : Utf8Fault)
  | outOfRange (n : Number) (ty : Ty)
  | mismatch (expected : Ty) (found : Json)

def BodyFault.message : BodyFault → String
  | syntaxError => "<json>"
  | utf8 fault => fault.message
  | outOfRange n ty => Json.numberText n ++ " is not an " ++ ty.text
  | mismatch expected found => "expected " ++ expected.text ++ ", found " ++ found.kind

inductive ConvertError
  | missing (name : String) (ty : Ty)
  | invalid (name value : String) (ty : Ty)
  | body (ty : Ty) (fault : BodyFault)
  | unsupported (kind : String) (ty : Ty)

def ConvertError.message : ConvertError → String
  | missing name ty => "Missing required value `" ++ name ++ "` (expected " ++ ty.text ++ ")"
  | invalid name value ty =>
    "Invalid value " ++ quoted value ++ " for `" ++ name ++ "`: expected " ++ ty.text
  | body ty fault => "Malformed body for `" ++ ty.text ++ "`: " ++ fault.message
  | unsupported kind ty => "Cannot convert " ++ kind ++ " to " ++ ty.text

namespace Value

/-! ## Conformance -/

def conforms : Ty → Value → Bool
  | .option inner, v =>
    match v with
    | null => true
    | raw r => !r.isMissing && conforms inner v
    | _ => conforms inner v
  | .list inner, list items => items.all (conforms inner)
  | .bool, bool _ => true
  | .i32, i32 _ => true
  | .i64, i64 _ => true
  | .f64, f64 _ => true
  | .str, str _ => true
  | .value, raw _ => true
  | .map, map _ => true
  | .body, body _ => true
  | .context, context => true
  | .named name, object typeName _ => typeName == name
  | _, _ => false

/-! ## Text -/

def bool?OfText (s : List Char) : Option Bool :=
  match String.ofList (s.map Char.toLower) with
  | "true" | "1" | "on" | "yes" => some true
  | "false" | "0" | "off" | "no" => some false
  | _ => none

def int32? (n : Int) : Option Int32 :=
  if -0x80000000 ≤ n ∧ n < 0x80000000 then some (Int32.ofInt n) else none

def int64? (n : Int) : Option Int64 :=
  if -0x8000000000000000 ≤ n ∧ n < 0x8000000000000000 then some (Int64.ofInt n) else none

/-- Numbers and truth values may stand between blanks; a string is kept as it is. -/
def ofScalarText (name text : String) (ty : Ty) : Except ConvertError Value :=
  let trimmed := trim text.toList
  let orInvalid (v : Option Value) : Except ConvertError Value :=
    v.elim (.error (.invalid name text ty)) .ok
  match ty with
  | .str => .ok (str text)
  | .value => .ok (raw ⟨name, [text]⟩)
  | .bool => orInvalid ((bool?OfText trimmed).map bool)
  | .i32 => orInvalid (((Decimal.int? trimmed).bind int32?).map i32)
  | .i64 => orInvalid (((Decimal.int? trimmed).bind int64?).map i64)
  | .f64 => orInvalid ((Decimal.float? trimmed).map f64)
  | ty => .error (.unsupported "value" ty)

/-! ## Raw values and maps -/

/-- A scalar is read from the first value, a list from all. -/
def ofRaw (r : RawValue) : Ty → Except ConvertError Value
  | .option inner => if r.isMissing then .ok null else ofRaw r inner
  | .list inner => do
    let items ← r.values.mapM fun text => ofScalarText r.name text inner
    pure (list items)
  | ty =>
    if ty.isScalar then
      match r.values with
      | first :: _ => ofScalarText r.name first ty
      | [] => .error (.missing r.name ty)
    else .error (.unsupported "value" ty)

/-- One value is a string, several are an array of strings. -/
def fieldOfValues : List String → Json
  | [s] => .string s
  | values => .array (values.map Json.string)

def ofMap (m : ValueMap) : Ty → Except ConvertError Value
  | .named typeName =>
    .ok (object typeName (.object (m.map fun (key, values) => (key, fieldOfValues values))))
  | ty => .error (.unsupported "map" ty)

/-! ## Bodies -/

def ofJson : Ty → Json → Except BodyFault Value
  | .option inner, j =>
    match j with
    | .null => .ok null
    | j => ofJson inner j
  | .named name, .object members => .ok (object name (.object members))
  | .list inner, .array items => do
    let items ← items.mapM (ofJson inner)
    pure (list items)
  | .bool, .bool b => .ok (bool b)
  | .str, .string s => .ok (str s)
  | .i32, .number n =>
    match (n.int64?).bind int32? with
    | some v => .ok (i32 v)
    | none => .error (.outOfRange n .i32)
  | .i64, .number n =>
    match (n.int64?).bind int64? with
    | some v => .ok (i64 v)
    | none => .error (.outOfRange n .i64)
  | .f64, .number n => .ok (f64 n.toFloat)
  | ty, j => .error (.mismatch ty j)

/-- The document that the bytes of a body hold. -/
def jsonOfBytes (bytes : Bytes) : Except BodyFault Json :=
  match (Bytes.utf8? bytes).bind fun s => Json.parse? s.toList with
  | some j => .ok j
  | none => .error .syntaxError

def isStructured : Ty → Bool
  | .named _ | .list _ => true
  | _ => false

section

variable (readJson : Bytes → Except BodyFault Json)

def ofJsonBody (b : Body) (ty : Ty) : Except ConvertError Value :=
  (readJson b.bytes >>= ofJson ty).mapError (.body ty)

def ofBody (b : Body) : Ty → Except ConvertError Value
  | .option inner =>
    if b.isBlank then .ok null
    else if isStructured inner then ofJsonBody readJson b (.option inner)
    else ofBody b inner
  | .str => ((decodeUtf8 b.bytes).map str).mapError fun fault => .body .str (.utf8 fault)
  | ty =>
    if ty.isPrimitive then
      if b.isBlank then .error (.missing "body" ty)
      else
        match decodeUtf8 b.bytes with
        | .ok text => ofScalarText "body" text ty
        | .error fault => .error (.body ty (.utf8 fault))
    else if isStructured ty then ofJsonBody readJson b ty
    else .error (.unsupported "body" ty)

/-- Conversion where bodies are read as JSON in a given way. -/
def convertWith (v : Value) (ty : Ty) : Except ConvertError Value :=
  if conforms ty v then .ok v
  else
    match v with
    | raw r => ofRaw r ty
    | map m => ofMap m ty
    | body b => ofBody readJson b ty
    | v => .error (.unsupported v.kind ty)

end

def convert (v : Value) (ty : Ty) : Except ConvertError Value :=
  v.convertWith jsonOfBytes ty

end Value
end RouteAdapter
