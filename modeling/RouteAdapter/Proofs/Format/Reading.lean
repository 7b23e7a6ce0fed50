import RouteAdapter.Bytes.Reader
import RouteAdapter.Proofs.Text.Utf8

/-!
# Exact readers

`Reads r bytes a` says that the reader takes exactly these bytes, whatever follows them, and answers
`a`. The fields of the module format are read in this sense from what is written for them, words
and counts by themselves, texts and tables as long as their length fits a word.
-/

namespace RouteAdapter

namespace Bytes

/-- A text whose length fits the word in front of it. -/
def FitsText (s : String) : Prop :=
  (utf8 s).length < UInt32.size

instance (s : String) : Decidable (FitsText s) :=
  inferInstanceAs (Decidable (_ < _))

/-- A table whose count fits the word in front of it, with entries that satisfy `p`. -/
structure FitsTable {α : Type} (p : α → Prop) (entries : List α) : Prop where
  count : entries.length < UInt32.size
  entry : ∀ a ∈ entries, p a

instance {α : Type} (p : α → Prop) [DecidablePred p] (entries : List α) :
    Decidable (FitsTable p entries) :=
  decidable_of_iff (entries.length < UInt32.size ∧ ∀ a ∈ entries, p a)
    ⟨fun ⟨count, entry⟩ => ⟨count, entry⟩, fun ⟨count, entry⟩ => ⟨count, entry⟩⟩

theorem length_ofWord (w : UInt32) : (ofWord w).length = 4 := rfl

end Bytes

namespace Reader
open Bytes

variable {ε δ α β : Type}

def Reads (r : Reader ε α) (bytes : Bytes) (a : α) : Prop :=
  ∀ position rest, r ⟨position, bytes ++ rest⟩ = (.ok a, ⟨position + bytes.length, rest⟩)

theorem bind_of_run {r : Reader ε α} {c mid : Cursor} {a : α} (run : r c = (.ok a, mid))
    (f : α → Reader ε β) : (r >>= f) c = f a mid := by
  show Reader.bind r f c = _
  rw [Reader.bind, run]

theorem Reads.pure (a : α) : Reads (pure a : Reader ε α) [] a :=
  fun _ _ => rfl

theorem Reads.bind {r : Reader ε α} {f : α → Reader ε β} {front back : Bytes} {a : α} {b : β}
    (first : Reads r front a) (second : Reads (f a) back b) :
    Reads (r >>= f) (front ++ back) b := by
  intro position rest
  rw [List.append_assoc, bind_of_run (first position _), List.length_append, ← Nat.add_assoc]
  exact second _ rest

/-- The last field of a record. -/
theorem Reads.map {r : Reader ε α} {bytes : Bytes} {a : α} (f : α → β) (read : Reads r bytes a) :
    Reads (r >>= fun a => Pure.pure (f a)) bytes (f a) := by
  have nothing : Reads (Pure.pure (f a) : Reader ε β) [] (f a) := Reads.pure (f a)
  have whole := read.bind (f := fun a => Pure.pure (f a)) nothing
  rwa [List.append_nil] at whole

theorem Reads.mapError {r : Reader ε α} {bytes : Bytes} {a : α} (f : ε → δ)
    (read : Reads r bytes a) : Reads (mapError f r) bytes a := by
  intro position rest
  simp only [Reader.mapError, read position rest]

theorem reads_byte (b : UInt8) : Reads byte [b] b :=
  fun _ _ => rfl

theorem reads_four (v : Vector UInt8 4) : Reads four v.toList v := by
  obtain ⟨a, b, c, d, rfl⟩ : ∃ a b c d, v = #v[a, b, c, d] := by
    refine ⟨v[0], v[1], v[2], v[3], ?_⟩
    ext i h
    obtain rfl | rfl | rfl | rfl : i = 0 ∨ i = 1 ∨ i = 2 ∨ i = 3 := by omega
    all_goals rfl
  exact fun _ _ => rfl

theorem reads_word (w : UInt32) : Reads word (ofWord w) w := by
  intro position rest
  show (Except.ok (toWord _ _ _ _), _) = _
  exact congrArg (fun w => (Except.ok w, _)) (toWord_ofWord w)

theorem reads_count (n : Nat) : Reads count (ofCount n) (n % UInt32.size) := by
  have h := (reads_word (UInt32.ofNat n)).map UInt32.toNat
  rwa [UInt32.toNat_ofNat'] at h

theorem reads_length {n : Nat} (fits : n < UInt32.size) : Reads count (ofCount n) n := by
  have h := reads_count n
  rwa [Nat.mod_eq_of_lt fits] at h

theorem reads_take (bytes : Bytes) : Reads (take bytes.length) bytes bytes := by
  intro position rest
  simp only [take, split?_append]

theorem reads_text {s : String} (fits : FitsText s) : Reads text (ofText s) s := by
  refine (reads_length fits).bind fun position rest => ?_
  have taken := reads_take (utf8 s) position rest
  simp only [bind, Reader.bind, Reader.position, taken, utf8?_utf8]
  rfl

theorem Reads.times {item : Reader ε β} {entry : α → Bytes} {value : α → β} {entries : List α}
    (each : ∀ a ∈ entries, Reads item (entry a) (value a)) :
    Reads (times item entries.length) (entries.flatMap entry) (entries.map value) := by
  induction entries with
  | nil => exact Reads.pure []
  | cons a rest ih =>
      have others := ih fun b member => each b (List.mem_cons_of_mem a member)
      exact (each a List.mem_cons_self).bind (others.map (value a :: ·))

theorem Reads.tableWith (lift : ReadError → ε) {item : Reader ε β} {entry : α → Bytes}
    {value : α → β} {entries : List α} (fits : entries.length < UInt32.size)
    (each : ∀ a ∈ entries, Reads item (entry a) (value a)) :
    Reads (tableWith lift item) (ofTable entry entries) (entries.map value) :=
  ((reads_length fits).mapError lift).bind (Reads.times each)

theorem Reads.table {item : Reader ReadError β} {entry : α → Bytes} {value : α → β}
    {p : α → Prop} {entries : List α} (fits : FitsTable p entries)
    (each : ∀ a, p a → Reads item (entry a) (value a)) :
    Reads (table item) (ofTable entry entries) (entries.map value) :=
  Reads.tableWith _ fits.count fun a member => each a (fits.entry a member)

end Reader
end RouteAdapter
