import Dialogue.Text.Basic

/-!
# Numbers in texts

Numbers stand in texts in two ways. In an escape a code point or a byte is written in hexadecimal,
with a fixed number of digits and the letters in lower case. In a message a number is written in
decimal, as it is.

Writing a large number in decimal takes long, so there is a limit to the number of its digits
(`Decimal.maxDigits`), whatever its sign. A number beyond the limit is not written at all, and
neither is a message that would hold it: all that writes numbers into messages can fail in this one
way.
-/

namespace Dialogue

/-! ### Hexadecimal -/

/-- The digit for a number below sixteen. -/
def hexDigit (n : Nat) : Char :=
  if n < 10 then Char.ofNat (0x30 + n) else Char.ofNat (0x57 + n)

/-- The last `width` digits of `n` in base sixteen. -/
def hexDigits : (width : Nat) → (n : Nat) → Text
  | 0, _ => []
  | width + 1, n => hexDigits width (n / 16) ++ [hexDigit (n % 16)]

@[simp] theorem length_hexDigits (width n : Nat) : (hexDigits width n).length = width := by
  induction width generalizing n with
  | zero => rfl
  | succ width ih => simp [hexDigits, ih]

/-! ### Decimal -/

/-- **Why something is not written.** -/
inductive Unwritable where
  /-- A number in it has too many digits. -/
  | tooManyDigits
deriving DecidableEq, Repr

namespace Decimal

/-- The most digits that a number is written with. -/
def maxDigits : Nat := 4300

/-- The least number with more than `k` digits: ten to the power of `k`. -/
def bound (k : Nat) : Nat := Nat.pow 10 k

/-- The digits of a number, without its sign. -/
def digits (n : Int) : Text :=
  Nat.toDigits 10 n.natAbs

/-- **A number in decimal**, unless it has too many digits. -/
def write (n : Int) : Except Unwritable String :=
  if (digits n).length ≤ maxDigits then .ok (toString n) else .error .tooManyDigits

/-- The number of digits tells the size of a number. -/
theorem length_digits_le_iff {k : Nat} (hk : 0 < k) (n : Int) :
    (digits n).length ≤ k ↔ n.natAbs < bound k :=
  Nat.length_toDigits_le_iff (by decide) hk

theorem write_of_lt {n : Int} (h : n.natAbs < bound maxDigits) : write n = .ok (toString n) :=
  if_pos ((length_digits_le_iff (by decide) n).mpr h)

theorem write_of_le {n : Int} (h : bound maxDigits ≤ n.natAbs) : write n = .error .tooManyDigits :=
  if_neg fun hlen => Nat.not_lt.mpr h ((length_digits_le_iff (by decide) n).mp hlen)

end Decimal

end Dialogue
