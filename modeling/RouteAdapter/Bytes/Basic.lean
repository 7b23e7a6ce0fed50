/-!
# Byte strings

Fields of the module format as bytes: words are four bytes, least significant first; a text is its
length and its UTF-8 bytes; a table is its count and its entries.
-/

namespace RouteAdapter

abbrev Bytes := List UInt8

namespace Bytes

variable {α : Type}

def ofWord (w : UInt32) : Bytes :=
  [UInt8.ofNat w.toNat, UInt8.ofNat (w.toNat / 256), UInt8.ofNat (w.toNat / 65536),
    UInt8.ofNat (w.toNat / 16777216)]

def toWord (a b c d : UInt8) : UInt32 :=
  UInt32.ofNat (a.toNat + 256 * b.toNat + 65536 * c.toNat + 16777216 * d.toNat)

/-- A count is written modulo 2^32. -/
def ofCount (n : Nat) : Bytes :=
  ofWord (UInt32.ofNat n)

def utf8 (s : String) : Bytes :=
  s.toUTF8.data.toList

def utf8? (bytes : Bytes) : Option String :=
  String.fromUTF8? ⟨bytes.toArray⟩

def ofText (s : String) : Bytes :=
  ofCount (utf8 s).length ++ utf8 s

def ofTable (entry : α → Bytes) (entries : List α) : Bytes :=
  ofCount entries.length ++ entries.flatMap entry

/-- Overwrite the word at an offset; there is no such word past the end. -/
def patch? (bytes : Bytes) (offset : Nat) (w : UInt32) : Option Bytes :=
  if offset + 4 ≤ bytes.length then
    some (bytes.take offset ++ ofWord w ++ bytes.drop (offset + 4))
  else none

def split? : Nat → Bytes → Option (Bytes × Bytes)
  | 0, rest => some ([], rest)
  | n + 1, b :: rest => (split? n rest).map fun (front, rest) => (b :: front, rest)
  | _ + 1, [] => none

theorem toWord_ofWord (w : UInt32) :
    toWord (UInt8.ofNat w.toNat) (UInt8.ofNat (w.toNat / 256)) (UInt8.ofNat (w.toNat / 65536))
      (UInt8.ofNat (w.toNat / 16777216)) = w := by
  apply UInt32.toNat_inj.1
  have h := w.toNat_lt
  simp only [toWord, UInt8.toNat_ofNat', UInt32.toNat_ofNat']
  omega

theorem ofWord_toWord (a b c d : UInt8) : ofWord (toWord a b c d) = [a, b, c, d] := by
  have ha := a.toNat_lt
  have hb := b.toNat_lt
  have hc := c.toNat_lt
  have hd := d.toNat_lt
  simp only [ofWord, toWord, UInt32.toNat_ofNat', List.cons.injEq, and_true]
  refine ⟨?_, ?_, ?_, ?_⟩ <;> (apply UInt8.toNat_inj.1; simp only [UInt8.toNat_ofNat']; omega)

theorem split?_append (front rest : Bytes) :
    split? front.length (front ++ rest) = some (front, rest) := by
  induction front with
  | nil => rfl
  | cons b front ih => simp [split?, ih]

theorem eq_append_of_split? {n : Nat} {bytes front rest : Bytes}
    (h : split? n bytes = some (front, rest)) : bytes = front ++ rest ∧ front.length = n := by
  induction n generalizing bytes front with
  | zero =>
    simp only [split?, Option.some.injEq, Prod.mk.injEq] at h
    simp [← h.1, ← h.2]
  | succ n ih =>
    cases bytes with
    | nil => simp [split?] at h
    | cons b bytes =>
      simp only [split?, Option.map_eq_some_iff, Prod.mk.injEq, Prod.exists] at h
      obtain ⟨front, rest, h, rfl, rfl⟩ := h
      obtain ⟨rfl, rfl⟩ := ih h
      simp

end Bytes
end RouteAdapter
