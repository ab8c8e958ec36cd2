import Mathlib.Computability.RegularExpressions
import Dialogue.Proofs.Rules

/-!
# The patterns of kinds

In which order tokens of the various kinds can follow each other is a regular matter, and it is
stated here as a regular expression over kinds. A script is a sequence of *items*, and an item is
free text, a comment, a label or a call; a call is a name, an opening parenthesis and a parameter
list, in which parameters and commas alternate and a comma may stand at the end.

Reading knows nothing of items. It goes from mode to mode, one token at a time, and what a mode
stands for is the pattern of what may still come: `Mode.ahead m e` is that pattern, in front of the
pattern `e` of whatever ends the script. One rule of reading takes one kind off it
(`Mode.Reads.cons_mem_ahead`). This is the only fact that links the rules and the patterns. It is
used forwards, along a run, and backwards, from the end of a script to its start.
-/

namespace Dialogue

open RegularExpression (char)

/-! ### Patterns -/

namespace Kind

/-- What may follow a parameter in its list: any number of further ones, each behind a comma, then
perhaps a comma, and the closing parenthesis. -/
def tailPattern : RegularExpression Kind :=
  (char separator * char param).star * ((1 + char separator) * char closing)

/-- What may follow the opening parenthesis of a call, up to and with the closing one. -/
def listPattern : RegularExpression Kind :=
  char closing + char param * tailPattern

/-- **One item of a script**: free text, a comment, a label or a call. -/
def itemPattern : RegularExpression Kind :=
  char text + char comment + char label + char name * (char opening * listPattern)

/-- **The kinds of a whole script**: items, and the end. -/
def scriptPattern : RegularExpression Kind :=
  itemPattern.star * char eof

/-- **The kinds of a script that is read on and on**: items, and then the end at least once. -/
def streamPattern : RegularExpression Kind :=
  itemPattern.star * (char eof * (char eof).star)

end Kind

/-! ### Sequences with an end -/

section Sequences

variable {α : Type} {P Q : RegularExpression α} {a : α} {x w : List α}

@[simp] theorem cons_mem_char_mul : a :: w ∈ (char a * Q).matches' ↔ w ∈ Q.matches' := by
  rw [RegularExpression.matches'_mul, RegularExpression.matches'_char, Language.mem_mul]
  constructor
  · rintro ⟨_, rfl, v, hv, hw⟩
    obtain rfl : v = w := (List.cons.inj hw).2
    exact hv
  · intro hw
    exact ⟨[a], rfl, w, hw, rfl⟩

/-- What a mark and a pattern match is the mark and what the pattern matches. -/
theorem exists_of_mem_char_mul (h : w ∈ (char a * Q).matches') :
    ∃ v ∈ Q.matches', w = a :: v := by
  rw [RegularExpression.matches'_mul, RegularExpression.matches'_char, Language.mem_mul] at h
  obtain ⟨_, rfl, v, hv, rfl⟩ := h
  exact ⟨v, hv, rfl⟩

theorem mem_star_mul_of_mem (hw : w ∈ Q.matches') : w ∈ (P.star * Q).matches' := by
  rw [RegularExpression.matches'_mul, RegularExpression.matches'_star]
  exact Language.append_mem_mul (Language.nil_mem_kstar _) hw

/-- One more element in front of a sequence. -/
theorem append_mem_star (hx : x ∈ P.matches') (hw : w ∈ P.star.matches') :
    x ++ w ∈ P.star.matches' := by
  rw [RegularExpression.matches'_star] at hw ⊢
  obtain ⟨us, rfl, hus⟩ := Language.mem_kstar.mp hw
  refine Language.mem_kstar.mpr ⟨x :: us, rfl, ?_⟩
  intro y hy
  rcases List.mem_cons.mp hy with rfl | hy
  · exact hx
  · exact hus y hy

/-- One more element in front of a sequence with an end. -/
theorem append_mem_star_mul (hx : x ∈ P.matches') (hw : w ∈ (P.star * Q).matches') :
    x ++ w ∈ (P.star * Q).matches' := by
  obtain ⟨u, hu, v, hv, rfl⟩ := Language.mem_mul.mp hw
  rw [← List.append_assoc]
  exact Language.append_mem_mul (append_mem_star hx hu) hv

/-- **What holds of every end, and of a sequence with one more element if it holds of the sequence,
holds of every sequence with an end.** -/
theorem star_mul_induction {C : List α → Prop} (hend : ∀ w ∈ Q.matches', C w)
    (hmore : ∀ x ∈ P.matches', ∀ w, C w → C (x ++ w)) : ∀ w ∈ (P.star * Q).matches', C w := by
  intro w hw
  rw [RegularExpression.matches'_mul, RegularExpression.matches'_star] at hw
  obtain ⟨u, hu, v, hv, rfl⟩ := Language.mem_mul.mp hw
  obtain ⟨us, rfl, hus⟩ := Language.mem_kstar.mp hu
  clear hw hu
  induction us with
  | nil => exact hend v hv
  | cons x us ih =>
    rw [List.flatten_cons, List.append_assoc]
    exact hmore x (hus x List.mem_cons_self) _ (ih fun y hy => hus y (List.mem_cons_of_mem x hy))

end Sequences

/-! ### Lists and items

The ways to make up a list and an item, and that there are no others. -/

namespace Kind

variable {w : List Kind}

theorem closing_mem_tailPattern : [closing] ∈ tailPattern.matches' :=
  mem_star_mul_of_mem (Language.append_mem_mul (a := []) (.inl rfl) rfl)

/-- Behind a comma, a list goes on as if it had just been opened. -/
theorem separator_cons_mem_tailPattern (hw : w ∈ listPattern.matches') :
    separator :: w ∈ tailPattern.matches' := by
  rcases hw with hclosing | hparam
  · cases hclosing
    exact mem_star_mul_of_mem (Language.append_mem_mul (a := [separator]) (.inr rfl) rfl)
  · obtain ⟨v, hv, rfl⟩ := exists_of_mem_char_mul hparam
    have hpair : [separator, param] ∈ (char separator * char param).matches' :=
      cons_mem_char_mul.mpr rfl
    exact append_mem_star_mul hpair hv

/-- **A tail is made up from its end**: a parenthesis or a comma and a parenthesis, and in front of
it commas with a parameter each. -/
theorem tailPattern_induction {C : List Kind → Prop} (hclosing : C [closing])
    (hcomma : C [separator, closing]) (hparam : ∀ w, C w → C (separator :: param :: w)) :
    ∀ w ∈ tailPattern.matches', C w := by
  refine star_mul_induction ?_ ?_
  · rintro w ⟨_, rfl | rfl, _, rfl, rfl⟩
    · exact hclosing
    · exact hcomma
  · intro x hx w hw
    obtain ⟨_, rfl, rfl⟩ := exists_of_mem_char_mul hx
    exact hparam w hw

theorem closing_mem_listPattern : [closing] ∈ listPattern.matches' :=
  .inl rfl

theorem param_cons_mem_listPattern (hw : w ∈ tailPattern.matches') :
    param :: w ∈ listPattern.matches' :=
  .inr (cons_mem_char_mul.mpr hw)

theorem cases_of_mem_listPattern (hw : w ∈ listPattern.matches') :
    w = [closing] ∨ ∃ v ∈ tailPattern.matches', w = param :: v :=
  hw.imp id exists_of_mem_char_mul

theorem text_mem_itemPattern : [text] ∈ itemPattern.matches' :=
  .inl (.inl (.inl rfl))

theorem comment_mem_itemPattern : [comment] ∈ itemPattern.matches' :=
  .inl (.inl (.inr rfl))

theorem label_mem_itemPattern : [label] ∈ itemPattern.matches' :=
  .inl (.inr rfl)

theorem call_mem_itemPattern (hw : w ∈ listPattern.matches') :
    name :: opening :: w ∈ itemPattern.matches' :=
  .inr (cons_mem_char_mul.mpr (cons_mem_char_mul.mpr hw))

theorem cases_of_mem_itemPattern (hw : w ∈ itemPattern.matches') :
    w = [text] ∨ w = [comment] ∨ w = [label] ∨
      ∃ v ∈ listPattern.matches', w = name :: opening :: v := by
  rcases hw with ((htext | hcomment) | hlabel) | hcall
  · exact .inl htext
  · exact .inr (.inl hcomment)
  · exact .inr (.inr (.inl hlabel))
  · obtain ⟨u, hu, rfl⟩ := exists_of_mem_char_mul hcall
    obtain ⟨v, hv, rfl⟩ := exists_of_mem_char_mul hu
    exact .inr (.inr (.inr ⟨v, hv, rfl⟩))

end Kind

/-! ### What is ahead -/

/-- **The kinds that may still come in a mode**, when `e` is the pattern of what ends the script. -/
def Mode.ahead (e : RegularExpression Kind) : Mode → RegularExpression Kind
  | topLevel => Kind.itemPattern.star * e
  | afterName => char .opening * (Kind.listPattern * (Kind.itemPattern.star * e))
  | impliedClose => char .closing * (Kind.itemPattern.star * e)
  | inList => Kind.listPattern * (Kind.itemPattern.star * e)
  | afterParam => Kind.tailPattern * (Kind.itemPattern.star * e)

namespace Mode

variable {e : RegularExpression Kind} {m : Mode} {t : Text} {r : Reading} {w : List Kind}

/-- **Every rule of reading takes one kind off the pattern of what is ahead**, until the end. -/
theorem Reads.cons_mem_ahead (h : m.Reads t r) (hk : r.lexeme.kind ≠ .eof)
    (hw : w ∈ (r.mode.ahead e).matches') : r.lexeme.kind :: w ∈ (m.ahead e).matches' := by
  cases h with
  | eof => exact absurd rfl hk
  -- outside of calls, the items that are a single token
  | label => exact append_mem_star_mul Kind.label_mem_itemPattern hw
  | comment | lastComment => exact append_mem_star_mul Kind.comment_mem_itemPattern hw
  | text => exact append_mem_star_mul Kind.text_mem_itemPattern hw
  | name =>
    -- a call is one item, whose list is ahead already
    obtain ⟨v, hv, rfl⟩ := exists_of_mem_char_mul hw
    obtain ⟨x, hx, y, hy, rfl⟩ := Language.mem_mul.mp hv
    exact append_mem_star_mul (Kind.call_mem_itemPattern hx) hy
  | opening => exact cons_mem_char_mul.mpr hw
  | impliedOpening | lastOpening =>
    -- an implied parenthesis opens an empty list
    obtain ⟨v, hv, rfl⟩ := exists_of_mem_char_mul hw
    exact cons_mem_char_mul.mpr (Language.append_mem_mul Kind.closing_mem_listPattern hv)
  | impliedClosing => exact cons_mem_char_mul.mpr hw
  -- inside of a list, the part of it that is ahead gets longer
  | param =>
    obtain ⟨x, hx, y, hy, rfl⟩ := Language.mem_mul.mp hw
    exact Language.append_mem_mul (Kind.param_cons_mem_listPattern hx) hy
  | separator =>
    obtain ⟨x, hx, y, hy, rfl⟩ := Language.mem_mul.mp hw
    exact Language.append_mem_mul (Kind.separator_cons_mem_tailPattern hx) hy
  | emptyClosing => exact Language.append_mem_mul Kind.closing_mem_listPattern hw
  | closing => exact Language.append_mem_mul Kind.closing_mem_tailPattern hw

/-- In every mode there is a way to the end. -/
theorem exists_mem_ahead (m : Mode) (he : w ∈ e.matches') : ∃ v, v ∈ (m.ahead e).matches' := by
  have hend : w ∈ (Kind.itemPattern.star * e).matches' := mem_star_mul_of_mem he
  cases m with
  | topLevel => exact ⟨w, hend⟩
  | afterName =>
    exact ⟨_, cons_mem_char_mul.mpr (Language.append_mem_mul Kind.closing_mem_listPattern hend)⟩
  | impliedClose => exact ⟨_, cons_mem_char_mul.mpr hend⟩
  | inList => exact ⟨_, Language.append_mem_mul Kind.closing_mem_listPattern hend⟩
  | afterParam => exact ⟨_, Language.append_mem_mul Kind.closing_mem_tailPattern hend⟩

end Mode

end Dialogue
