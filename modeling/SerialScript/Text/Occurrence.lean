/-!
The first occurrence of a pattern in a list. The same search serves characters and bytes.
-/

namespace SerialScript.Text

variable {α : Type} [BEq α]

/-- The least offset, at most `slack`, at which the pattern begins. -/
def offsetWithin (pattern : List α) : Nat → List α → Option Nat
  | 0, text => if pattern.isPrefixOf text then some 0 else none
  | slack + 1, text =>
    if pattern.isPrefixOf text then some 0
    else (offsetWithin pattern slack text.tail).map (· + 1)

/-- The offset of the first occurrence. No offset beyond `text.length - pattern.length` is tried,
since nothing shorter than the pattern begins with it. -/
def firstOffset (pattern text : List α) : Option Nat :=
  if text.length < pattern.length then none
  else offsetWithin pattern (text.length - pattern.length) text

/-- The text up to the end of the first occurrence, and what follows it. -/
def takeThrough (pattern text : List α) : Option (List α × List α) :=
  (firstOffset pattern text).map fun i =>
    (text.take (i + pattern.length), text.drop (i + pattern.length))

@[simp] theorem takeThrough_nil (text : List α) : takeThrough [] text = some ([], text) := by
  cases h : text.length <;> simp [takeThrough, firstOffset, h, offsetWithin]

theorem append_of_takeThrough {pattern text found rest : List α}
    (h : takeThrough pattern text = some (found, rest)) : found ++ rest = text := by
  obtain ⟨i, _, hi⟩ := Option.map_eq_some_iff.1 h
  cases hi
  exact List.take_append_drop _ _

end SerialScript.Text
