import Mathlib.Data.List.DropRight
import Dialogue.Proofs.Runs

/-!
# Lines and columns

A position is advanced character by character, a line feed at a time, and a reader of the library
wants to know what it means: that the line counts the line feeds before it, and the column the
characters behind the last of them. `Position.ExactIn` says so of a position in a script, in terms
of the script alone. It rests on what a whole segment does to a position, which is said once, for
any position to start from (`Position.after_eq`).

Along every run, the cursor, every token and every fault are at exact positions
(`coordinates_exact`). A fault carries the place of the cursor at which it came up, whether it came
up when a lexer was opened or when one was popped.
-/

namespace Dialogue

/-- **The last line of a text**: what stands behind its last line feed, or all of it if there is no
line feed. -/
def Text.lastLine (t : Text) : Text :=
  t.rtakeWhile (· != '\n')

namespace Text

variable {t u : Text} {c : Char}

theorem lastLine_lineFeed (t : Text) : lastLine (t ++ ['\n']) = [] :=
  List.rtakeWhile_concat_neg _ _ _ (by decide)

theorem lastLine_concat (h : c ≠ '\n') (t : Text) : lastLine (t ++ [c]) = lastLine t ++ [c] :=
  List.rtakeWhile_concat_pos _ _ _ (bne_iff_ne.mpr h)

/-! A text is one line or has a last line feed, and its last line is as it should be either way. -/

theorem lastLine_of_notMem (h : '\n' ∉ t) : lastLine t = t := by
  rw [lastLine, List.rtakeWhile_eq_self_iff]
  intro c hc
  exact bne_iff_ne.mpr fun heq => h (heq ▸ hc)

theorem lastLine_append (h : '\n' ∉ u) : lastLine (t ++ '\n' :: u) = u := by
  induction u using List.reverseRecOn with
  | nil => exact lastLine_lineFeed t
  | append_singleton u c ih =>
    have hu : '\n' ∉ u := fun hmem => h (List.mem_append_left _ hmem)
    have hc : c ≠ '\n' := by
      rintro rfl
      exact h (List.mem_append_right _ (List.mem_singleton.mpr rfl))
    rw [← List.cons_append, ← List.append_assoc, lastLine_concat hc, ih hu]

end Text

/-- **A position is exact in a script** when its offset lies in the script, its line counts the line
feeds before the offset and its column the characters on the line before the offset, both from
one. -/
structure Position.ExactIn (p : Position) (s : Text) : Prop where
  /-- The position is not behind the end of the script. -/
  offset_le : p.offset ≤ s.length
  /-- The line is one more than the number of line feeds passed. -/
  line_eq : p.line = 1 + (s.take p.offset).count '\n'
  /-- The column is one more than the number of characters passed on the line. -/
  column_eq : p.column = 1 + (Text.lastLine (s.take p.offset)).length

namespace Position

/-- **A whole segment is passed in one jump.** The line goes on by the line feeds of the segment. If
there are any, the column is counted on the last line of the segment, and otherwise it goes on by
all of its characters. -/
theorem after_eq (p : Position) (t : Text) :
    p.after t = ⟨p.offset + t.length, p.line + t.count '\n',
      if '\n' ∈ t then 1 + (Text.lastLine t).length else p.column + t.length⟩ := by
  -- from the end of the segment, which is where its last line grows
  induction t using List.reverseRecOn with
  | nil => rfl
  | append_singleton t c ih =>
    rw [after_append, ih, after_cons, after_nil, step, List.length_append, List.count_append]
    by_cases h : c = '\n'
    · -- a new line, with nothing on it
      subst h
      have hmem : '\n' ∈ t ++ ['\n'] := List.mem_append_right t List.mem_cons_self
      rw [if_pos rfl, if_pos hmem, Text.lastLine_lineFeed, List.count_singleton_self]
      rfl
    · -- the same line, with one more character on it
      have hcount : [c].count '\n' = 0 := List.count_eq_zero.mpr (by simpa using Ne.symm h)
      have hmem : '\n' ∈ t ++ [c] ↔ '\n' ∈ t := by simp [Ne.symm h]
      rw [if_neg h, Text.lastLine_concat h, hcount, List.length_append]
      simp only [hmem]
      split <;> rfl

/-- **The position behind a text** has counted its line feeds and the characters of its last
line. -/
theorem after_origin (t : Text) :
    (origin.after t).line = 1 + t.count '\n' ∧
      (origin.after t).column = 1 + (Text.lastLine t).length := by
  rw [after_eq]
  refine ⟨rfl, ?_⟩
  by_cases h : '\n' ∈ t
  · exact if_pos h
  · rw [Text.lastLine_of_notMem h]
    exact if_neg h

/-- The position behind a part of a script is exact in the script. -/
theorem exactIn_after {s t r : Text} (hs : s = t ++ r) : (origin.after t).ExactIn s := by
  have hoff : (origin.after t).offset = t.length := by
    rw [offset_after]
    exact Nat.zero_add _
  have htake : s.take (origin.after t).offset = t := by rw [hoff, hs, List.take_left]
  refine ⟨?_, ?_, ?_⟩
  · rw [hoff, hs, List.length_append]
    omega
  · rw [htake]
    exact (after_origin t).1
  · rw [htake]
    exact (after_origin t).2

end Position

theorem Cursor.StandsIn.exactIn {c : Cursor} {s : Text} (h : c.StandsIn s) : c.place.ExactIn s := by
  obtain ⟨t, hs, hp⟩ := h
  rw [hp]
  exact Position.exactIn_after hs

theorem Token.StandsIn.exactIn {t : Token} {s : Text} (h : t.StandsIn s) :
    ∃ p : Position, p.ExactIn s ∧ t.location.start = p.offset ∧ t.location.line = p.line ∧
      t.location.column = p.column := by
  obtain ⟨u, b, w, hs, hloc, -⟩ := h
  refine ⟨Position.origin.after u, Position.exactIn_after (hs.trans (List.append_assoc u b w)), ?_⟩
  rw [hloc]
  exact ⟨rfl, rfl, rfl⟩

theorem Fault.report_place (f : Fault) :
    f.report.line = some (f.place.line : Int) ∧ f.report.column = some (f.place.column : Int) :=
  ⟨rfl, rfl⟩

/-! ### Coordinates along a run -/

/-- A fault in opening a lexer is at the place of the cursor that was stuck. -/
theorem Lexer.place_of_ofText_error {src : Source} {s : Text} {f : Fault}
    (h : Lexer.ofText src s = .error f) :
    ∃ c, (Cursor.ofText s).advance = .stuck f.cause c ∧ f.place = c.place ∧ c.StandsIn s := by
  obtain ⟨e, c, hadv, rfl⟩ := ofText_eq_error_iff.mp h
  -- being stuck at once is a run without tokens
  have hrun : Cursor.Run src.file s [] c := Cursor.Run.start.stuck hadv
  exact ⟨c, hadv, rfl, hrun.standsIn⟩

/-- A fault in popping a lexer is at the place where its cursor is left. -/
theorem Lexer.place_of_pop_fault {l : Lexer} {f : Fault} (h : l.pop.fault = some f) :
    f.place = l.pop.lexer.cursor.place := by
  cases hadv : l.cursor.advance with
  | read lexeme p next =>
    rw [pop_of_read hadv] at h
    cases h
  | stuck e c =>
    rw [pop_of_stuck hadv] at h ⊢
    cases h
    rfl

/-- **Coordinates are exact.** Along every run of a lexer on a script, no matter how many pops
failed, the cursor stands in the script at an exact position, every token is located at one, and a
fault of the next pop carries the line and column of the cursor that the pop leaves. If no lexer can
be opened, the fault carries the line and column of the cursor that was stuck. -/
theorem coordinates_exact (src : Source) (s : Text) :
    (∀ ts l, Lexer.Run src s ts l →
      (l.cursor.rest = s.drop l.cursor.place.offset ∧ l.cursor.place.ExactIn s) ∧
      (∀ t ∈ ts, ∃ p : Position, p.ExactIn s ∧ t.location.start = p.offset ∧
        t.location.line = p.line ∧ t.location.column = p.column) ∧
      (∀ f, l.pop.fault = some f →
        l.pop.lexer.cursor.place.ExactIn s ∧
        f.report.line = some (l.pop.lexer.cursor.place.line : Int) ∧
        f.report.column = some (l.pop.lexer.cursor.place.column : Int))) ∧
    (∀ f, Lexer.ofText src s = .error f →
      ∃ c, (Cursor.ofText s).advance = .stuck f.cause c ∧ c.place.ExactIn s ∧
        f.report.line = some (c.place.line : Int) ∧
        f.report.column = some (c.place.column : Int)) := by
  refine ⟨fun ts l hrun => ?_, fun f hf => ?_⟩
  · obtain ⟨-, -, hcur⟩ := hrun.cursor
    have hin := hcur.standsIn
    refine ⟨⟨hin.rest_eq, hin.exactIn⟩, fun t ht => ?_, fun f hf => ?_⟩
    · -- the token stands in what was passed, hence in the script
      have htok := (hcur.token_standsIn t ht).append (s.drop l.cursor.place.offset)
      rw [List.take_append_drop] at htok
      exact htok.exactIn
    · -- the pop that failed makes the run longer by one
      obtain ⟨-, -, hcur'⟩ := (hrun.failed hf).cursor
      refine ⟨hcur'.standsIn.exactIn, ?_⟩
      rw [← Lexer.place_of_pop_fault hf]
      exact f.report_place
  · obtain ⟨c, hadv, hplace, hin⟩ := Lexer.place_of_ofText_error hf
    refine ⟨c, hadv, hin.exactIn, ?_⟩
    rw [← hplace]
    exact f.report_place

/-- A comma on the second line: the lexer that was popped in vain stands before it, at an exact
position. -/
theorem coordinates_exact_second_line :
    ∃ ts l, Lexer.Run ⟨none, true⟩ ['A', '\n', ' ', ','] ts l ∧ l.cursor.place = ⟨3, 2, 2⟩ ∧
      l.cursor.place.ExactIn ['A', '\n', ' ', ','] := by
  have hopen : Lexer.ofText ⟨none, true⟩ ['A', '\n', ' ', ','] =
      .ok ⟨⟨none, true⟩, ⟨⟨1, 1, 2⟩, ['\n', ' ', ','], .topLevel⟩,
        ⟨.label, ['A'], .ofSpan .origin 1 none⟩⟩ := rfl
  have hfailed := (Lexer.Run.opened hopen).failed (f := ⟨.strayComma, ⟨3, 2, 2⟩, none⟩) rfl
  exact ⟨_, _, hfailed, rfl, ((coordinates_exact _ _).1 _ _ hfailed).1.2⟩

end Dialogue
