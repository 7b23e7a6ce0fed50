import Mathlib.Data.List.TakeWhile

/-!
# Words

A word of one kind of characters ends where a character of another kind follows, so it is read off
a text in one way, whatever the text goes on with.
-/

namespace RouteAdapter.Text

variable {p : Char → Bool} {word word' rest rest' : List Char}

/-- The text goes on with a character of another kind, or not at all. -/
def Stops (p : Char → Bool) (rest : List Char) : Prop :=
  ∀ c, rest.head? = some c → p c = false

theorem Stops.nil : Stops p [] :=
  nofun

theorem Stops.cons {c : Char} (other : p c = false) (rest : List Char) : Stops p (c :: rest) := by
  rintro _ ⟨⟩
  exact other

theorem takeWhile_word (within : ∀ c ∈ word, p c = true) (stops : Stops p rest) :
    (word ++ rest).takeWhile p = word := by
  rw [List.takeWhile_append_of_pos within]
  cases rest with
  | nil => exact List.append_nil word
  | cons c rest =>
      rw [List.takeWhile_cons, stops c rfl]
      exact List.append_nil word

theorem dropWhile_word (within : ∀ c ∈ word, p c = true) (stops : Stops p rest) :
    (word ++ rest).dropWhile p = rest := by
  rw [List.dropWhile_append_of_pos within]
  cases rest with
  | nil => rfl
  | cons c rest =>
      rw [List.dropWhile_cons, stops c rfl]
      rfl

theorem word_unique (within : ∀ c ∈ word, p c = true) (within' : ∀ c ∈ word', p c = true)
    (stops : Stops p rest) (stops' : Stops p rest') (same : word ++ rest = word' ++ rest') :
    word = word' ∧ rest = rest' := by
  constructor
  · rw [← takeWhile_word within stops, same, takeWhile_word within' stops']
  · rw [← dropWhile_word within stops, same, dropWhile_word within' stops']

end RouteAdapter.Text
