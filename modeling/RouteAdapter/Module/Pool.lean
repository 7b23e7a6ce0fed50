import RouteAdapter.Bytes.Reader
import RouteAdapter.Dict

/-!
# Constant pools

The string literals of a module by position, with an index from each literal to its first position.
-/

namespace RouteAdapter

structure Pool where
  strings : List String
  index : Dict UInt32
  deriving DecidableEq

namespace Pool

def empty : Pool :=
  ⟨[], []⟩

/-- The position of a literal, appended if it is new. -/
def intern (pool : Pool) (s : String) : Pool × UInt32 :=
  match Dict.get? pool.index s with
  | some i => (pool, i)
  | none =>
    let i := UInt32.ofNat pool.strings.length
    (⟨pool.strings ++ [s], Dict.insert s i pool.index⟩, i)

def get? (pool : Pool) (i : UInt32) : Option String :=
  pool.strings[i.toNat]?

/-- Of equal literals the first is indexed. -/
def indexFrom (position : Nat) (index : Dict UInt32) : List String → Dict UInt32
  | [] => index
  | s :: rest =>
    let index :=
      if Dict.contains index s then index else Dict.insert s (UInt32.ofNat position) index
    indexFrom (position + 1) index rest

def ofStrings (strings : List String) : Pool :=
  ⟨strings, indexFrom 0 [] strings⟩

def internAll (strings : List String) : Pool :=
  strings.foldl (fun pool s => (pool.intern s).1) empty

def bytes (pool : Pool) : Bytes :=
  Bytes.ofTable Bytes.ofText pool.strings

def read : Reader ReadError Pool := do
  let strings ← Reader.table Reader.text
  pure (ofStrings strings)

end Pool
end RouteAdapter
