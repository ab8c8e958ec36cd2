import Mathlib.Algebra.GroupWithZero.Nat
import Mathlib.Data.Prod.Lex
import Dialogue.Proofs.Accounting
import Dialogue.Proofs.Canonical
import Dialogue.Proofs.Coordinates

/-!
# Finding tokens by line and column

Whoever is told a line and a column wants to look there. The lines of a script are what stands
between its line feeds (`Text.lines`); a carriage return or a line separator is part of a line like
any other character. Every token is found on the line that it names, in the column that it names,
and its offset is what the lines before it and the column add up to (`Token.FoundAt`). No value has
a line feed in it, so a token that is not synthetic is on that line as a whole. Along a run, lines
and columns never go back (`tokens_found`).

A token stands behind some part of the script, so the question is how the lines of the script lie
around that place. `Text.lines_append` answers it: the last line of what comes before and the first
line of what follows make up one line of the script, and as many lines come before it as there are
line feeds before the place.
-/

namespace Dialogue

/-! ### Lines -/

/-- **The lines of a text**: it is split at every line feed, and at nothing else. -/
def Text.lines (t : Text) : List Text :=
  t.splitOn '\n'

/-- **The first line of a text**: what stands before its first line feed. -/
def Text.firstLine (t : Text) : Text :=
  t.takeWhile (· != '\n')

/-- How many characters some lines take up, each with its line feed. -/
def Text.extent (lines : List Text) : Nat :=
  (lines.map (·.length + 1)).sum

namespace Text

variable {t u : Text}

theorem extent_append (ls ls' : List Text) : extent (ls ++ ls') = extent ls + extent ls' := by
  unfold extent
  rw [List.map_append, List.sum_append]

theorem extent_singleton (t : Text) : extent [t] = t.length + 1 := rfl

theorem lines_of_notMem (h : '\n' ∉ t) : lines t = [t] :=
  List.splitOn_eq_singleton h

theorem lines_append_lineFeed (t u : Text) : lines (t ++ '\n' :: u) = lines t ++ lines u :=
  List.splitOn_append_cons_self t u

theorem firstLine_append (h : '\n' ∉ t) (u : Text) : firstLine (t ++ u) = t ++ firstLine u :=
  List.takeWhile_append_of_pos fun _ hc => bne_iff_ne.mpr fun heq => h (heq ▸ hc)

theorem firstLine_of_notMem (h : '\n' ∉ t) : firstLine t = t := by
  have happ := firstLine_append h []
  rw [List.append_nil] at happ
  exact happ.trans (List.append_nil t)

theorem firstLine_lineFeed (t : Text) : firstLine ('\n' :: t) = [] := rfl

/-- **Induction on the lines of a text**, from the first to the last. -/
@[elab_as_elim]
theorem line_induction {P : Text → Prop} (one : ∀ t, '\n' ∉ t → P t)
    (more : ∀ t u, '\n' ∉ u → P t → P (t ++ '\n' :: u)) (t : Text) : P t := by
  by_cases h : '\n' ∈ t
  · -- the last line feed is the first one from behind
    obtain ⟨u, v, hcut, hu⟩ := List.eq_append_cons_of_mem (List.mem_reverse.mpr h)
    have ht : t = v.reverse ++ '\n' :: u.reverse := by
      rw [← List.reverse_reverse t, hcut, List.reverse_append, List.reverse_cons,
        List.append_assoc, List.singleton_append]
    rw [ht]
    apply more
    · rwa [List.mem_reverse]
    · exact line_induction one more v.reverse
  · exact one t h
termination_by t.length
decreasing_by
  rw [ht, List.length_append, List.length_cons]
  omega

/-- There is one line more than there are line feeds. -/
theorem length_lines (t : Text) : (lines t).length = t.count '\n' + 1 := by
  induction t using line_induction with
  | one t h => rw [lines_of_notMem h, List.count_eq_zero.mpr h, List.length_singleton]
  | more t u h ih =>
    rw [lines_append_lineFeed, lines_of_notMem h, List.length_append, ih, List.length_singleton,
      List.count_append, List.count_cons_self, List.count_eq_zero.mpr h]

/-- The lines take up the whole text, and a line feed more than it has. -/
theorem extent_lines (t : Text) : extent (lines t) = t.length + 1 := by
  induction t using line_induction with
  | one t h => rw [lines_of_notMem h, extent_singleton]
  | more t u h ih =>
    rw [lines_append_lineFeed, lines_of_notMem h, extent_append, ih, extent_singleton,
      List.length_append, List.length_cons]
    omega

/-- The first line of a text that starts with `t` is what is left of it behind `t`. -/
theorem lines_eq_cons (h : '\n' ∉ t) (r : Text) :
    ∃ below, lines (t ++ r) = (t ++ firstLine r) :: below := by
  by_cases hr : '\n' ∈ r
  · obtain ⟨u, v, rfl, hu⟩ := List.eq_append_cons_of_mem hr
    have htu : '\n' ∉ t ++ u := List.not_mem_append h hu
    rw [firstLine_append hu, firstLine_lineFeed, List.append_nil, ← List.append_assoc,
      lines_append_lineFeed, lines_of_notMem htu]
    exact ⟨lines v, rfl⟩
  · rw [lines_of_notMem (List.not_mem_append h hr), firstLine_of_notMem hr]
    exact ⟨[], rfl⟩

/-- **The lines around a place in a text.** The last line before the place and the first line behind
it make up one line. Before it there are as many lines as there are line feeds before the place, and
they and the last line take up what is before the place. -/
theorem lines_append (u r : Text) :
    ∃ above below, lines (u ++ r) = above ++ (lastLine u ++ firstLine r) :: below ∧
      above.length = u.count '\n' ∧ extent above + (lastLine u).length = u.length := by
  induction u using line_induction with
  | one u h =>
    obtain ⟨below, hlines⟩ := lines_eq_cons h r
    rw [lastLine_of_notMem h, List.count_eq_zero.mpr h]
    exact ⟨[], below, hlines, rfl, Nat.zero_add _⟩
  | more t u h _ =>
    -- all lines of `t` come before, and `u` starts the line
    obtain ⟨below, hlines⟩ := lines_eq_cons h r
    rw [lastLine_append h, List.append_assoc, List.cons_append, lines_append_lineFeed, hlines]
    refine ⟨lines t, below, rfl, ?_, ?_⟩
    · rw [length_lines, List.count_append, List.count_cons_self, List.count_eq_zero.mpr h]
    · rw [extent_lines, List.length_append, List.length_cons]
      omega

end Text

/-! ### Values are on one line -/

/-- **No kind admits a value with a line feed.** -/
theorem Kind.Admits.notMem_lineFeed {k : Kind} {v : Text} (h : k.Admits v) : '\n' ∉ v := by
  intro hmem
  cases k with
  | comment => exact h hmem
  | text => exact absurd (h.2.1 _ hmem) (by decide)
  | label | param => exact absurd (h.2 _ hmem) (by decide)
  | name => exact absurd (h _ hmem) (by decide)
  | opening | separator | closing | eof =>
    rw [show v = _ from h] at hmem
    exact absurd hmem (by decide)

/-- Along every run, the values are such as their kinds admit. -/
theorem Cursor.Run.admits {file : Option String} {s : Text} {ts : List Token} {c : Cursor}
    (h : Cursor.Run file s ts c) : ∀ t ∈ ts, t.kind.Admits t.value := by
  induction h with
  | start => exact List.forall_mem_nil _
  | @read ts c next l p _ hadv ih =>
    obtain ⟨-, -, hreads⟩ := advance_eq_read_iff.mp hadv
    exact List.forall_mem_append.mpr ⟨ih, List.forall_mem_singleton.mpr hreads.admits⟩
  | stuck _ _ ih => exact ih

/-! ### Lines and columns never go back -/

/-- The line and the column of a position, in the order in which one reads. -/
def Position.rank (p : Position) : ℕ ×ₗ ℕ :=
  toLex (p.line, p.column)

/-- The line and the column of a location, in the order in which one reads. -/
def Location.rank (l : Location) : ℤ ×ₗ ℤ :=
  toLex (l.line, l.column)

namespace Position

theorem rank_le_step (p : Position) (c : Char) : p.rank ≤ (p.step c).rank := by
  unfold rank step
  rw [Prod.Lex.toLex_le_toLex]
  split
  · exact .inl (Nat.lt_succ_self _)
  · exact .inr ⟨rfl, Nat.le_succ _⟩

/-- **Passing a text never goes back.** -/
theorem rank_le_after (p : Position) (t : Text) : p.rank ≤ (p.after t).rank := by
  induction t generalizing p with
  | nil => exact le_refl _
  | cons c t ih => exact (p.rank_le_step c).trans (ih (p.step c))

/-- Of two beginnings of one script, the position behind the longer one is not before the other. -/
theorem rank_le_of_prefix {s u u' : Text} (h : u <+: s) (h' : u' <+: s)
    (hle : u.length ≤ u'.length) : (origin.after u).rank ≤ (origin.after u').rank := by
  obtain ⟨v, rfl⟩ := List.prefix_of_prefix_length_le h h' hle
  rw [after_append]
  exact rank_le_after _ _

end Position

theorem Location.rank_ofSpan_le_iff {p q : Position} {m n : Nat} {f g : Option String} :
    (ofSpan p m f).rank ≤ (ofSpan q n g).rank ↔ p.rank ≤ q.rank := by
  unfold Location.rank Position.rank
  rw [Prod.Lex.toLex_le_toLex, Prod.Lex.toLex_le_toLex]
  simp only [line_ofSpan, column_ofSpan]
  omega

/-! ### Finding tokens -/

/-- **A token is found in a script** on the line `i`, counted from zero, with `j` characters of the
line before it. Its offset counts the lines above and these characters; and from there on, the line
goes on with its value, unless the token is synthetic. -/
structure Token.FoundAt (t : Token) (s : Text) (i j : Nat) : Prop where
  /-- The token names the line. -/
  line_eq : t.location.line = i + 1
  /-- The token names the column. -/
  column_eq : t.location.column = j + 1
  /-- The offset is that of the line and the column. -/
  start_eq : t.location.start = Text.extent (s.lines.take i) + j
  /-- The script has such a line, which is long enough and has the value there. -/
  on_line : ∃ line, s.lines[i]? = some line ∧ j ≤ line.length ∧
    (t.isSynthetic = false → (line.drop j).take t.value.length = t.value)

theorem Token.StandsIn.foundAt {t : Token} {s : Text} (h : t.StandsIn s) (hv : '\n' ∉ t.value) :
    ∃ i j, t.FoundAt s i j := by
  obtain ⟨u, b, w, rfl, hloc, hval⟩ := h
  obtain ⟨above, below, hlines, habove, hextent⟩ := Text.lines_append u (b ++ w)
  obtain ⟨hline, hcolumn⟩ := Position.after_origin u
  rw [List.append_assoc]
  refine ⟨above.length, (Text.lastLine u).length, ?_, ?_, ?_,
    Text.lastLine u ++ Text.firstLine (b ++ w), ?_, ?_, ?_⟩
  · rw [hloc, Location.line_ofSpan, hline, habove]
    omega
  · rw [hloc, Location.column_ofSpan, hcolumn]
    omega
  · rw [hlines, List.take_left, hloc, Location.start_ofSpan, Position.offset_after, ← hextent]
    simp [Position.origin]
  · rw [hlines, List.getElem?_append_right (le_refl _), Nat.sub_self]
    rfl
  · rw [List.length_append]
    omega
  · intro hsyn
    rw [List.drop_left, hval hsyn, Text.firstLine_append hv, List.take_left]

/-- Tokens that stand in one script have their lines and columns in the order of their offsets. -/
theorem Token.StandsIn.rank_le {t t' : Token} {s : Text} (h : t.StandsIn s) (h' : t'.StandsIn s)
    (hle : t.location.start ≤ t'.location.start) : t.location.rank ≤ t'.location.rank := by
  obtain ⟨u, b, w, hs, hloc, -⟩ := h
  obtain ⟨u', b', w', hs', hloc', -⟩ := h'
  rw [hloc, hloc', Location.start_ofSpan, Location.start_ofSpan, Position.offset_after,
    Position.offset_after] at hle
  rw [hloc, hloc', Location.rank_ofSpan_le_iff]
  rw [List.append_assoc] at hs hs'
  exact Position.rank_le_of_prefix ⟨_, hs.symm⟩ ⟨_, hs'.symm⟩ (by omega)

/-- **Tokens are found by line and column.** Along every run of a lexer on a script, no matter how
many pops failed, every token has a value without a line feed, names a line of the script and a
column on this line, and has its offset and its value there. From one token to a later one, the line
grows, or it stays and the column does not shrink. -/
theorem tokens_found {src : Source} {s : Text} {ts : List Token} {l : Lexer}
    (h : Lexer.Run src s ts l) :
    (∀ t ∈ ts, '\n' ∉ t.value ∧ ∃ i j, t.FoundAt s i j) ∧
      ts.Pairwise fun t t' => t.location.rank ≤ t'.location.rank := by
  obtain ⟨-, -, hcur⟩ := h.cursor
  have hin : ∀ t ∈ ts, t.StandsIn s := by
    intro t ht
    have htok := (hcur.token_standsIn t ht).append (s.drop l.cursor.place.offset)
    rwa [List.take_append_drop] at htok
  refine ⟨fun t ht => ?_, ?_⟩
  · have hv := (hcur.admits t ht).notMem_lineFeed
    exact ⟨hv, (hin t ht).foundAt hv⟩
  · have haccounts := hcur.accounts
    refine haccounts.ordered.imp_of_mem ?_
    intro t t' ht ht' hle
    exact (hin t ht).rank_le (hin t' ht') ((haccounts.span t ht).1.trans hle)

/-- A carriage return, a label, and a call without parentheses on the second line: its name is found
there with one character before it, and the parenthesis that is supplied behind the name. -/
theorem tokens_found_second_line :
    ∃ ts l, Lexer.Run ⟨none, true⟩ ['\r', 'A', '\n', '@', 'b', ';'] ts l ∧
      ts.map (fun t => (t.location.line, t.location.column)) = [(1, 2), (2, 2), (2, 3)] ∧
      (∀ t ∈ ts, '\n' ∉ t.value ∧ ∃ i j, t.FoundAt ['\r', 'A', '\n', '@', 'b', ';'] i j) ∧
      ts.Pairwise fun t t' => t.location.rank ≤ t'.location.rank := by
  have hopen : Lexer.ofText ⟨none, true⟩ ['\r', 'A', '\n', '@', 'b', ';'] =
      .ok ⟨⟨none, true⟩, ⟨⟨2, 1, 3⟩, ['\n', '@', 'b', ';'], .topLevel⟩,
        ⟨.label, ['A'], .ofSpan ⟨1, 1, 2⟩ 1 none⟩⟩ := rfl
  have hrun := ((Lexer.Run.opened hopen).popped rfl).popped rfl
  exact ⟨_, _, hrun, rfl, tokens_found hrun⟩

end Dialogue
