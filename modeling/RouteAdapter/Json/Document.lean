import RouteAdapter.Document.Record
import RouteAdapter.Json.Reader

/-!
# JSON documents
-/

namespace RouteAdapter.Json

def format : DocumentFormat where
  floatLayout := floatLayout
  surplus := false

/-- Nothing but blanks may follow a document. -/
def decode {α : Type} (decoder : Decoder α) (s : String) : Except DecodeFault α := do
  let (d, atEnd) := draft s.toList
  let a ← decoder format d
  if atEnd then pure a else throw .malformed

end RouteAdapter.Json
