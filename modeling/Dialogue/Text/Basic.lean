/-!
# Script text

A script is a finite sequence of Unicode scalar values. Every offset, length and column of the
library counts these values, so a script is held as a list of characters: taking a run off its
front, measuring it and joining it back are list operations, and the laws of lists are the laws of
scripts. Words that are only ever shown (file names, codec names, messages) stay strings.

A lone surrogate is a code point, but no scalar value. Strings that hold one are left out: they are
neither scripts nor names here, and bytes that are decoded to one give no text.

A property of characters that no formula gives is held as the ranges of code points that have it.
-/

namespace Dialogue

/-- **A script**, or a piece of one: its characters in order. -/
abbrev Text := List Char

namespace Text

/-- All characters from one code point up to, but not including, another, in ascending order. Code
points that are no characters are passed over. -/
def between (first stop : Nat) : Text :=
  (List.range' first (stop - first)).filterMap fun n =>
    if n.isValidChar then some (Char.ofNat n) else none

/-- The text without the longest run of characters satisfying `p` at its end. -/
def trimEnd (p : Char → Bool) (t : Text) : Text :=
  (t.reverse.dropWhile p).reverse

@[simp] theorem trimEnd_nil (p : Char → Bool) : trimEnd p [] = [] := rfl

/-- A text whose last character stays is not trimmed at all. -/
theorem trimEnd_concat_of_false {p : Char → Bool} {c : Char} (h : p c = false) (t : Text) :
    trimEnd p (t ++ [c]) = t ++ [c] := by
  simp [trimEnd, h]

/-- A text whose last character goes is trimmed further. -/
theorem trimEnd_concat_of_true {p : Char → Bool} {c : Char} (h : p c = true) (t : Text) :
    trimEnd p (t ++ [c]) = trimEnd p t := by
  simp [trimEnd, h]

end Text

/-! ### Runs at the front of a text

The longest run of a class of characters and what stands behind it. These three facts pin the pair
down: nothing is lost, the run holds only the class, and what follows does not go on with it. -/

/-- What follows the longest run of `p` does not start with a character of `p`. -/
theorem Text.dropWhile_head {p : Char → Bool} {t r : Text} {c : Char}
    (h : t.dropWhile p = c :: r) : p c = false := by
  induction t with
  | nil => simp at h
  | cons d t ih =>
    by_cases hd : p d = true
    · rw [List.dropWhile_cons_of_pos hd] at h
      exact ih h
    · rw [List.dropWhile_cons_of_neg hd] at h
      cases h
      simpa using hd

/-- What follows a run is no longer than the text. -/
theorem Text.length_dropWhile_le (p : Char → Bool) (t : Text) :
    (t.dropWhile p).length ≤ t.length :=
  (List.dropWhile_sublist p).length_le

/-! ### Ranges of code points -/

/-- **A range of code points**, both ends included. -/
structure CodeRange where
  /-- The lowest code point of the range. -/
  first : Nat
  /-- The highest code point of the range. -/
  last : Nat
deriving DecidableEq, Repr

namespace CodeRange

/-- Whether the code point `n` lies in the range. -/
def covers (r : CodeRange) (n : Nat) : Bool :=
  r.first ≤ n && n ≤ r.last

@[simp] theorem covers_iff (r : CodeRange) (n : Nat) :
    r.covers n = true ↔ r.first ≤ n ∧ n ≤ r.last := by
  simp [covers]

/-- Whether the character `c` lies in one of the ranges. -/
def has (ranges : List CodeRange) (c : Char) : Bool :=
  ranges.any (·.covers c.toNat)

end CodeRange

end Dialogue
