import RouteAdapter.Text.Glyph
import RouteAdapter.Text.Hex

/-!
# Quoted text

A string between double quotes. The quote and the backslash are escaped, five controls have short
forms, and a character without a glyph of its own is written by its code point.
-/

namespace RouteAdapter.Text

def quotedChar (c : Char) : List Char :=
  match c with
  | '"' => ['\\', '"']
  | '\\' => ['\\', '\\']
  | '\t' => ['\\', 't']
  | '\n' => ['\\', 'n']
  | '\r' => ['\\', 'r']
  | '\x00' => ['\\', '0']
  | c => if hasGlyph c then [c] else "\\u\x7b".toList ++ Nat.toDigits 16 c.toNat ++ ['}']

def quoted (s : String) : String :=
  String.ofList ('"' :: s.toList.flatMap quotedChar ++ ['"'])

/-- Items between brackets, divided by a comma and a space. -/
def bracketed (items : List String) : String :=
  "[" ++ String.intercalate ", " items ++ "]"

end RouteAdapter.Text
