/-!
# Declared types

The types of controller parameters and results, their classes, and the one-byte tags of the
primitive ones.
-/

namespace RouteAdapter

inductive Ty
  | void
  | bool
  | i32
  | i64
  | f64
  | str
  /-- One request value, unconverted. -/
  | value
  /-- All values of a facet by name. -/
  | map
  | body
  /-- The request context itself. -/
  | context
  | option (inner : Ty)
  | list (inner : Ty)
  /-- A composite type, decoded as a whole. -/
  | named (name : String)
  deriving DecidableEq

namespace Ty

def isVoid : Ty → Bool
  | void => true
  | _ => false

/-- Boxed when a controller returns them. -/
def isPrimitive : Ty → Bool
  | bool | i32 | i64 | f64 => true
  | _ => false

/-- Types that one request value is read as. -/
def isScalar : Ty → Bool
  | bool | i32 | i64 | f64 | str | value => true
  | _ => false

def isScalarLike : Ty → Bool
  | option inner | list inner => inner.isScalar
  | ty => ty.isScalar

def isComposite : Ty → Bool
  | named _ => true
  | _ => false

def primitiveTag? : Ty → Option UInt8
  | bool => some 1
  | i32 => some 2
  | i64 => some 3
  | f64 => some 4
  | _ => none

def ofPrimitiveTag? : UInt8 → Option Ty
  | 1 => some bool
  | 2 => some i32
  | 3 => some i64
  | 4 => some f64
  | _ => none

end Ty
end RouteAdapter
