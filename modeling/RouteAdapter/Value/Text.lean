import RouteAdapter.Json.Printer
import RouteAdapter.Text.Quoted
import RouteAdapter.Value.Basic

/-!
# Text of values

How a value is shown: strings quoted, floating point without an exponent, bodies by their size.
-/

namespace RouteAdapter.Value
open Text

def listText (items : List String) : String :=
  bracketed (items.map quoted)

def mapText (m : ValueMap) : String :=
  "\x7b" ++
    String.intercalate ", " (m.map fun (key, values) => quoted key ++ ": " ++ listText values) ++
    "\x7d"

mutual

def text : Value → String
  | null => "null"
  | bool b => if b then "true" else "false"
  | i32 n => toString n.toInt
  | i64 n => toString n.toInt
  | f64 x => Decimal.plain.text x
  | str s => quoted s
  | raw r => r.name ++ "=" ++ listText r.values
  | map m => mapText m
  | body b => "<body " ++ toString b.bytes.length ++ " bytes>"
  | list items => bracketed (itemTexts items)
  | object typeName fields => typeName ++ " " ++ fields.text
  | context => "<ctx>"
  | noContent => "<no content>"

def itemTexts : List Value → List String
  | [] => []
  | v :: rest => text v :: itemTexts rest

end

end RouteAdapter.Value
