import RouteAdapter.Decimal.Binary64

/-!
# Drafts

A draft is the tree of a document up to its first fault. Decoders that expect a certain shape walk
a draft in the order of the document, so that they meet faults in that order. A number beyond the
range of floating point and a string with an unpaired surrogate are well formed but have no value;
who ignores them may pass.
-/

namespace RouteAdapter

/-- Integers are exact; all other numbers are binary floating point. -/
inductive Number
  | int (n : Int)
  | float (x : Binary64)
  deriving DecidableEq

inductive Draft
  | null
  | bool (b : Bool)
  | number (n : Number)
  | string (s : String)
  /-- Well formed, but without a value. -/
  | valueless
  /-- Items up to the closing bracket or to a fault. -/
  | array (items : List Draft) (closed : Bool)
  /-- Members up to the closing brace or to a fault; a key may have no value. -/
  | object (members : List (Option String × Draft)) (closed : Bool)
  | broken

namespace Draft

mutual

def isWhole : Draft → Bool
  | .broken => false
  | .array items closed => closed && itemsWhole items
  | .object members closed => closed && membersWhole members
  | _ => true

def itemsWhole : List Draft → Bool
  | [] => true
  | d :: rest => isWhole d && itemsWhole rest

def membersWhole : List (Option String × Draft) → Bool
  | [] => true
  | (_, d) :: rest => isWhole d && membersWhole rest

end

end Draft
end RouteAdapter
