import RouteAdapter.Context.Accessor
import RouteAdapter.Module.Basic
import RouteAdapter.Text.Quoted

/-!
# Handlers

The host registers one handler per controller method, under its symbol and descriptor. The method
table of a module is linked against the registry, entry by entry.
-/

namespace RouteAdapter
open Text

/-- Receives the context and the arguments in order; fails with a message. -/
abbrev Handler := Context → List Value → Except String Value

structure Registered where
  descriptor : String
  handler : Handler

structure HandlerRegistry where
  entries : List (String × Registered)

namespace HandlerRegistry

def empty : HandlerRegistry :=
  ⟨[]⟩

/-- Replaces a handler registered under the symbol before. -/
def register (h : HandlerRegistry) (symbol descriptor : String) (handler : Handler) :
    HandlerRegistry :=
  ⟨Dict.insert symbol ⟨descriptor, handler⟩ h.entries⟩

def get? (h : HandlerRegistry) (symbol : String) : Option Registered :=
  Dict.get? h.entries symbol

def contains (h : HandlerRegistry) (symbol : String) : Bool :=
  Dict.contains h.entries symbol

def symbols (h : HandlerRegistry) : List String :=
  Dict.keys h.entries

def form (h : HandlerRegistry) : String :=
  "HandlerRegistry \x7b symbols: " ++ bracketed (h.symbols.map quoted) ++ " \x7d"

end HandlerRegistry

/-- A handler bound to an entry of a method table. -/
structure Linked where
  symbol : String
  handler : Handler

namespace Linked

def ofRef (h : HandlerRegistry) (m : MethodRef) : Except LinkError Linked :=
  match h.get? m.symbol with
  | none => .error (.missingHandler m.symbol)
  | some r =>
    if r.descriptor = m.descriptor then .ok ⟨m.symbol, r.handler⟩
    else .error (.descriptorMismatch m.symbol m.descriptor r.descriptor)

/-- Bind a method table; the first entry that cannot be bound fails. -/
def ofTable (h : HandlerRegistry) : List MethodRef → Except LinkError (List Linked)
  | [] => .ok []
  | m :: rest => do
    let linked ← ofRef h m
    let others ← ofTable h rest
    pure (linked :: others)

def tableForm (table : List Linked) : String :=
  bracketed (table.map fun l => quoted l.symbol)

end Linked

/-- Bind an accessor table; the first entry that cannot be bound fails. -/
def Accessor.ofTable : List AccessorRef → Except LinkError (List Accessor)
  | [] => .ok []
  | a :: rest => do
    let accessor ← Accessor.resolve a.name a.descriptor
    let others ← Accessor.ofTable rest
    pure (accessor :: others)

end RouteAdapter
