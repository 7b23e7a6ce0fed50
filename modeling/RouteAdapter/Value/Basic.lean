import RouteAdapter.Bytes.Basic
import RouteAdapter.Json.Basic
import RouteAdapter.Text.Blank

/-!
# Values

What flows through an adapter: request values as they came, converted arguments, controller results
and response markers.
-/

namespace RouteAdapter

/-- The values a request carries under a name; none if it does not carry the name. -/
structure RawValue where
  name : String
  values : List String
  deriving DecidableEq

namespace RawValue

def missing (name : String) : RawValue :=
  ⟨name, []⟩

def isMissing (raw : RawValue) : Bool :=
  raw.values.isEmpty

end RawValue

/-- All values of a facet by name. -/
abbrev ValueMap := Dict (List String)

structure Body where
  contentType : Option String
  bytes : Bytes
  deriving DecidableEq

namespace Body

def empty : Body :=
  ⟨none, []⟩

def ofJson (text : String) : Body :=
  ⟨some "application/json", Bytes.utf8 text⟩

def ofText (text : String) : Body :=
  ⟨some "text/plain", Bytes.utf8 text⟩

def isBlank (body : Body) : Bool :=
  body.bytes.all Text.isBlankByte

end Body

inductive Value
  | null
  | bool (b : Bool)
  | i32 (n : Int32)
  | i64 (n : Int64)
  | f64 (x : Binary64)
  | str (s : String)
  | raw (r : RawValue)
  | map (m : List (String × List String))
  | body (b : Body)
  | list (items : List Value)
  | object (typeName : String) (fields : Json)
  /-- The request context, which only the operand stack holds. -/
  | context
  /-- The response of a controller method without a result. -/
  | noContent

namespace Value

def kind : Value → String
  | null => "null"
  | bool _ => "bool"
  | i32 _ => "i32"
  | i64 _ => "i64"
  | f64 _ => "f64"
  | str _ => "str"
  | raw _ => "value"
  | map _ => "map"
  | body _ => "body"
  | list _ => "list"
  | object _ _ => "object"
  | context => "ctx"
  | noContent => "no-content"

def isNoContent : Value → Bool
  | noContent => true
  | _ => false

def i32? : Value → Option Int32
  | i32 n => some n
  | _ => none

def i64? : Value → Option Int64
  | i64 n => some n
  | _ => none

def bool? : Value → Option Bool
  | bool b => some b
  | _ => none

def str? : Value → Option String
  | str s => some s
  | _ => none

end Value
end RouteAdapter
