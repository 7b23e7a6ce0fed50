import RouteAdapter.Text.Blank
import RouteAdapter.Text.Quoted
import RouteAdapter.Ty.Basic

/-!
# Type descriptors

Types are written as keywords, names, `Option<…>` and `List<…>`. Reading allows blanks around every
part; writing has none.
-/

namespace RouteAdapter.Ty
open Text

inductive TextError
  | empty
  | unknownGeneric (head : String)
  | malformed (text : String)
  | invalidName (text : String)
  deriving DecidableEq

def TextError.message : TextError → String
  | empty => "Empty type descriptor"
  | unknownGeneric head => "Unknown generic type `" ++ head ++ "`"
  | malformed text => "Malformed type descriptor `" ++ text ++ "`"
  | invalidName text => "Invalid type name `" ++ text ++ "`"

/-! ## Writing -/

def chars : Ty → List Char
  | void => "void".toList
  | bool => "bool".toList
  | i32 => "i32".toList
  | i64 => "i64".toList
  | f64 => "f64".toList
  | str => "str".toList
  | value => "value".toList
  | map => "map".toList
  | body => "body".toList
  | context => "ctx".toList
  | option inner => "Option<".toList ++ inner.chars ++ ['>']
  | list inner => "List<".toList ++ inner.chars ++ ['>']
  | named name => name.toList

def text (ty : Ty) : String :=
  String.ofList ty.chars

/-- The constructors of a type spelled out, for diagnostics. -/
def form : Ty → String
  | void => "Void"
  | bool => "Bool"
  | i32 => "I32"
  | i64 => "I64"
  | f64 => "F64"
  | str => "Str"
  | value => "Value"
  | map => "Map"
  | body => "Body"
  | context => "Context"
  | option inner => "Option(" ++ inner.form ++ ")"
  | list inner => "List(" ++ inner.form ++ ")"
  | named name => "Named(" ++ quoted name ++ ")"

/-! ## Reading -/

def keywords : List Ty :=
  [void, bool, i32, i64, f64, str, value, map, body, context]

def keyword? (s : List Char) : Option Ty :=
  keywords.find? fun ty => ty.chars == s

def isNameChar (c : Char) : Bool :=
  c.isAlphanum || c == '_' || c == '.' || c == '$'

def ofWord (s : List Char) : Except TextError Ty :=
  match keyword? s with
  | some ty => .ok ty
  | none =>
    if s.all isNameChar && !(s.head?.any Char.isDigit) then .ok (named (String.ofList s))
    else .error (.invalidName (String.ofList s))

def wrap (head : List Char) (inner : Ty) : Except TextError Ty :=
  if head == "Option".toList then .ok (option inner)
  else if head == "List".toList then .ok (list inner)
  else .error (.unknownGeneric (String.ofList head))

/-- What lies between the first `<` and the last character. -/
def inner (t : List Char) : List Char :=
  ((t.dropWhile (· != '<')).drop 1).dropLast

/-- Read a text with the given number of `<`; each wrapper takes the first of them. -/
def ofCharsWith : Nat → List Char → Except TextError Ty
  | 0, s =>
    let t := trim s
    if t.isEmpty then .error .empty
    else if t.contains '>' then .error (.malformed (String.ofList t))
    else ofWord t
  | brackets + 1, s =>
    let t := trim s
    if t.getLast? = some '>' then do
      let ty ← ofCharsWith brackets (inner t)
      wrap (trim (t.takeWhile (· != '<'))) ty
    else .error (.malformed (String.ofList t))

def ofChars (s : List Char) : Except TextError Ty :=
  ofCharsWith (s.count '<') s

def ofText (s : String) : Except TextError Ty :=
  ofChars s.toList

end RouteAdapter.Ty

namespace RouteAdapter

/-- The parameter types in parentheses, then the result type. -/
def methodDescriptor (params : List Ty) (returns : Ty) : String :=
  "(" ++ String.intercalate "," (params.map Ty.text) ++ ")->" ++ returns.text

end RouteAdapter
