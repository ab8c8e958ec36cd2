import Mathlib.Algebra.Group.Nat.Defs
import Dialogue.Fault

/-!
# Quoted characters can be read back

A message that quotes a character tells which one it was: whatever stands between the marks, a
character, one of the escapes with a letter or the hexadecimal number of a code point, is undone by
`Quoted.unescape`. So no two characters are quoted alike (`Text.quoted_singleton_injective`), and no
two causes of a fault have the same message (`Cause.message_injective`).
-/

namespace Dialogue

/-! ### Hexadecimal numbers -/

/-- The number that a hexadecimal digit stands for. -/
def hexValue (c : Char) : Nat :=
  if c.toNat < 0x57 then c.toNat - 0x30 else c.toNat - 0x57

/-- The number that hexadecimal digits stand for. -/
def readHex (t : Text) : Nat :=
  t.foldl (fun n c => 16 * n + hexValue c) 0

theorem hexValue_hexDigit : ∀ n < 16, hexValue (hexDigit n) = n := by
  decide

/-- The last digits of a number are read back as its remainder. -/
theorem readHex_hexDigits (width n : Nat) : readHex (hexDigits width n) = n % 16 ^ width := by
  induction width generalizing n with
  | zero => rw [Nat.pow_zero, Nat.mod_one]; rfl
  | succ width ih =>
    -- the last digit is the remainder, the others stand for the quotient
    have hdigit : hexValue (hexDigit (n % 16)) = n % 16 :=
      hexValue_hexDigit _ (Nat.mod_lt _ (by decide))
    have hstep : readHex (hexDigits (width + 1) n) =
        16 * readHex (hexDigits width (n / 16)) + hexValue (hexDigit (n % 16)) := by
      rw [hexDigits, readHex, List.foldl_append]
      rfl
    rw [hstep, ih, hdigit, Nat.pow_succ, Nat.mul_comm (16 ^ width) 16, Nat.mod_mul]
    omega

/-! ### Escapes -/

namespace Quoted

/-- **The character that an escape stands for.** -/
def unescape : Text → Char
  | [c] => c
  | ['\\', 't'] => '\t'
  | ['\\', 'n'] => '\n'
  | ['\\', 'r'] => '\r'
  | ['\\', c] => c
  | _ :: _ :: digits => Char.ofNat (readHex digits)
  | [] => default

/-- A numeric escape has enough digits for its character. -/
theorem unescape_numeric (c : Char) : unescape (numeric c) = c := by
  -- no code point needs more than eight digits, and each width is used only for what fits in it
  have hmax : c.toNat < 16 ^ 8 := by
    have hvalid := c.valid
    simp only [UInt32.isValidChar, Nat.isValidChar] at hvalid
    have hval : c.toNat = c.val.toNat := rfl
    omega
  have hread : ∀ width, c.toNat < 16 ^ width →
      Char.ofNat (readHex (hexDigits width c.toNat)) = c := by
    intro width hlt
    rw [readHex_hexDigits, Nat.mod_eq_of_lt hlt, Char.ofNat_toNat]
  unfold numeric
  split
  · next h => exact hread 2 h
  split
  · next h => exact hread 4 h
  · exact hread 8 hmax

/-- A character is read back from its escape between two quotation marks. -/
theorem unescape_escape {mark : Char} (hm : mark = apostrophe ∨ mark = doubleQuote) (c : Char) :
    unescape (escape mark c) = c := by
  unfold escape
  split
  · next h =>
    -- a backslash in front of itself or of a mark, neither of which is one of the three letters
    rcases h with rfl | rfl
    · rfl
    · rcases hm with rfl | rfl <;> rfl
  split
  · next h => exact h.symm
  split
  · next h => exact h.symm
  split
  · next h => exact h.symm
  split
  · rfl
  · exact unescape_numeric c

theorem mark_eq (t : Text) : mark t = apostrophe ∨ mark t = doubleQuote := by
  unfold mark
  split
  · exact .inr rfl
  · exact .inl rfl

theorem encode_singleton (c : Char) :
    encode [c] = mark [c] :: (escape (mark [c]) c ++ [mark [c]]) := by
  rw [encode, List.flatMap_singleton]
  rfl

/-- **No two characters are quoted alike.** -/
theorem encode_singleton_inj {c d : Char} (h : encode [c] = encode [d]) : c = d := by
  rw [encode_singleton, encode_singleton, List.cons.injEq] at h
  obtain ⟨hmark, hbody⟩ := h
  -- the two are quoted with the same mark, so their escapes are equal
  rw [hmark] at hbody
  have hescape : escape (mark [d]) c = escape (mark [d]) d := List.append_cancel_right hbody
  calc c = unescape (escape (mark [d]) c) := (unescape_escape (mark_eq [d]) c).symm
    _ = unescape (escape (mark [d]) d) := by rw [hescape]
    _ = d := unescape_escape (mark_eq [d]) d

end Quoted

theorem Text.toList_quoted (t : Text) : (Text.quoted t).toList = Quoted.encode t :=
  String.toList_ofList

theorem Text.quoted_singleton_injective {c d : Char} (h : Text.quoted [c] = Text.quoted [d]) :
    c = d :=
  Quoted.encode_singleton_inj (String.ofList_injective h)

/-! ### Messages -/

namespace Cause

theorem message_junkAfterParam (c : Char) : (junkAfterParam c).message =
    "Malformed function: got " ++ Text.quoted [c] ++ ", expecting ',' or ')'" := rfl

/-- The offset of the quotation mark in a message about a character. No other message has a
quotation mark there. -/
def quoteOffset : Nat := 24

/-- A message about a character has one of the two quotation marks at the offset. -/
theorem message_junkAfterParam_mark (c : Char) :
    (junkAfterParam c).message.toList[quoteOffset]? = some (Quoted.mark [c]) := by
  rw [message_junkAfterParam, String.toList_append, String.toList_append, Text.toList_quoted,
    Quoted.encode_singleton, List.append_assoc]
  rfl

theorem message_ne_mark {e : Cause} (he : ∀ c, e ≠ junkAfterParam c) :
    e.message.toList[quoteOffset]? ≠ some apostrophe ∧
      e.message.toList[quoteOffset]? ≠ some doubleQuote := by
  cases e with
  | junkAfterParam c => exact absurd rfl (he c)
  | strayComma | endInList | commaInList | endAfterParam => decide

/-- Any other message differs from one about a character, whichever character that is. -/
theorem message_ne_junkAfterParam {e : Cause} (he : ∀ c, e ≠ junkAfterParam c) (c : Char) :
    e.message ≠ (junkAfterParam c).message := by
  intro heq
  have hmark := message_junkAfterParam_mark c
  rw [← heq] at hmark
  obtain ⟨hapostrophe, hdouble⟩ := message_ne_mark he
  rcases Quoted.mark_eq [c] with hm | hm
  · exact hapostrophe (hmark.trans (congrArg some hm))
  · exact hdouble (hmark.trans (congrArg some hm))

/-- **The message tells the cause.** -/
theorem message_injective : Function.Injective Cause.message := by
  intro e e' h
  -- of two messages, at most one is about a character, unless they quote the same one
  cases e with
  | junkAfterParam c =>
    cases e' with
    | junkAfterParam d =>
      have hquoted : Text.quoted [c] = Text.quoted [d] :=
        (String.append_right_inj _).mp ((String.append_left_inj _).mp h)
      rw [Text.quoted_singleton_injective hquoted]
    | strayComma | endInList | commaInList | endAfterParam =>
      exact absurd h.symm (message_ne_junkAfterParam (by rintro d ⟨⟩) c)
  | strayComma | endInList | commaInList | endAfterParam =>
    cases e' with
    | junkAfterParam d => exact absurd h (message_ne_junkAfterParam (by rintro d ⟨⟩) d)
    | strayComma | endInList | commaInList | endAfterParam =>
      first
      | rfl
      | exact absurd h (by decide)

end Cause

end Dialogue
