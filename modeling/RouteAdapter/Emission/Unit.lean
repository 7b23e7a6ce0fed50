import RouteAdapter.Emission.Parameter
import RouteAdapter.Module.Basic

/-!
# Adapter units

The body that adapts one controller method is a list of operations on an operand stack; the units
of all methods of a controller make up its adapter class.
-/

namespace RouteAdapter
open Text

inductive Op
  | loadContext
  | literal (s : String)
  | accessor (a : AccessorRef)
  | convert (source target : Ty)
  | controller (m : MethodRef)
  | pushNoContent
  | box (ty : Ty)
  | ret
  deriving DecidableEq

namespace Op

/-- Change of the stack depth. -/
def stackDelta : Op → Int
  | loadContext | literal _ => 1
  | accessor a => -a.arity.toNat
  | controller m => 1 - m.argCount.toNat
  | convert _ _ | box _ | pushNoContent => 0
  | ret => -1

def isAccessor : Op → Bool
  | accessor _ => true
  | _ => false

def text : Op → String
  | loadContext => "load_ctx"
  | literal s => "literal " ++ quoted s
  | accessor a => "accessor " ++ a.name ++ " " ++ a.descriptor
  | convert source target => "convert " ++ source.text ++ " -> " ++ target.text
  | controller m => "invoke " ++ m.symbol ++ " " ++ m.descriptor
  | pushNoContent => "no_content"
  | box ty => "box " ++ ty.text
  | ret => "return"

end Op

/-- How the result of a controller method becomes the result of its adapter. -/
inductive ReturnPolicy
  | noContent
  | boxed (ty : Ty)
  | direct
  deriving DecidableEq

def ReturnPolicy.ofTy (ty : Ty) : ReturnPolicy :=
  if ty.isVoid then noContent
  else if ty.isPrimitive then boxed ty
  else direct

def ReturnPolicy.text : ReturnPolicy → String
  | noContent => "no_content"
  | boxed ty => "boxed " ++ ty.text
  | direct => "direct"

/-- The operations from `start` on, before `stop`. -/
structure OpSpan where
  start : Nat
  stop : Nat
  deriving DecidableEq

structure AdapterUnit where
  route : String
  target : MethodRef
  params : List Parameter
  ops : List Op
  /-- The operations that produce each argument. -/
  argSpans : List OpSpan
  policy : ReturnPolicy
  deriving DecidableEq

namespace AdapterUnit

/-- The operations of an argument; a span that is not within the body has none. -/
def argOps? (u : AdapterUnit) (index : Nat) : Option (List Op) :=
  match u.argSpans[index]? with
  | none => some []
  | some span =>
    if span.start ≤ span.stop ∧ span.stop ≤ u.ops.length then
      some ((u.ops.take span.stop).drop span.start)
    else none

def accessorCalls (u : AdapterUnit) : Nat :=
  u.ops.countP Op.isAccessor

/-- The comment above an operation: where an argument starts, and where the last one ends. -/
def remark (u : AdapterUnit) (i : Nat) : List String :=
  match u.argSpans.findIdx? fun span => span.start == i with
  | some index => ["  ; arg " ++ toString index]
  | none =>
    if i = (u.argSpans.getLast?).elim 0 OpSpan.stop then ["  ; call"] else []

def paramText (p : Parameter) : String :=
  p.name ++ ": " ++ p.ty.text ++ " <- " ++ p.source.tag

def lines (u : AdapterUnit) : List String :=
  ("route " ++ u.route ++ "(" ++ String.intercalate ", " (u.params.map paramText) ++ ") -> "
      ++ u.target.descriptor ++ " \x7b")
    :: (u.ops.mapIdx fun i op => u.remark i ++ ["  " ++ op.text]).flatten
    ++ ["\x7d"]

end AdapterUnit

/-- The adapter class of one controller. -/
structure EmittedClass where
  name : String
  controller : String
  interface : String
  units : List AdapterUnit
  deriving DecidableEq

namespace EmittedClass

/-- The first unit of a route. -/
def unit? (c : EmittedClass) (route : String) : Option AdapterUnit :=
  c.units.find? fun u => u.route == route

def text (c : EmittedClass) : String :=
  let title := "; class " ++ c.name ++ " implements " ++ c.interface ++ " (controller "
    ++ c.controller ++ ")"
  String.join ((title :: c.units.flatMap fun u => "" :: u.lines).map (· ++ "\n"))

end EmittedClass
end RouteAdapter
