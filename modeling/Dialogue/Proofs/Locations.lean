import Mathlib.Algebra.Group.Int.Defs
import Dialogue.Proofs.Coordinates

/-!
# Locations in messages

A location is written in two places. A token shows its file, line and column joined by colons. A
report puts a colon behind each part that it knows and takes the colons off the end. If line and
column are known, the two agree (`Report.text_eq_location`), because a column is written without a
colon: only the last colon of a report is taken off, no matter how many there are in the name of the
file.

A written location can be read back, from the right. The last colon stands before the column, and
the one before it, if there is any, before the line; all that is in front of that one is the name of
the file, with whatever colons and digits it has (`Location.text_eq_text_iff`). Line and column may
have either sign.

Both facts together say what the text of an error tells (`reports_show_locations`): it starts with
the location at which a token would stand where the lexer got stuck, and this location tells the
line, the column and the file. There is one exception. A number with more than `Decimal.maxDigits`
digits is not written, neither by a token nor by a report (`no_text_beyond_maxDigits`).
-/

namespace Dialogue

/-! ### Numbers in decimal -/

namespace Decimal

theorem toList_toString (n : Int) : (toString n).toList =
    if 0 ≤ n then Nat.toDigits 10 n.toNat else '-' :: Nat.toDigits 10 (-n).toNat := by
  rw [Int.toString_eq_repr, Int.repr_eq_if]
  split
  · exact Nat.toList_repr
  · rw [String.toList_append, Nat.toList_repr]
    rfl

/-- What is no digit does not stand among the digits of a number. -/
theorem notMem_toDigits {c : Char} (hc : c.isDigit = false) (k : Nat) :
    c ∉ Nat.toDigits 10 k := by
  intro hmem
  have hdigit := Nat.isDigit_of_mem_toDigits (by decide) (by decide) hmem
  rw [hc] at hdigit
  cases hdigit

theorem natAbs_ten_pow (k : Nat) : ((10 : Int) ^ k).natAbs = bound k :=
  Int.natAbs_pow 10 k

/-- **A number is written without a colon.** -/
theorem colon_notMem (n : Int) : ':' ∉ (toString n).toList := by
  rw [toList_toString]
  split
  · exact notMem_toDigits rfl _
  · intro hmem
    rcases List.mem_cons.mp hmem with hsign | hmem
    · exact absurd hsign (by decide)
    · exact notMem_toDigits rfl _ hmem

theorem toList_toString_ne_nil (n : Int) : (toString n).toList ≠ [] := by
  rw [toList_toString]
  split
  · exact Nat.toDigits_ne_nil
  · exact List.cons_ne_nil _ _

theorem toDigits_injective {j k : Nat} (h : Nat.toDigits 10 j = Nat.toDigits 10 k) : j = k := by
  have hread := congrArg (fun digits => Nat.ofDigitChars 10 digits 0) h
  rwa [Nat.ofDigitChars_ten_toDigits, Nat.ofDigitChars_ten_toDigits] at hread

/-- **No two numbers are written alike.** -/
theorem toString_injective {m n : Int} (h : (toString m).toList = (toString n).toList) : m = n := by
  rw [toList_toString, toList_toString] at h
  -- a sign is no digit, so the two numbers have the same
  split at h <;> split at h
  · have hnat := toDigits_injective h
    omega
  · exact absurd (h ▸ List.mem_cons_self) (notMem_toDigits rfl _)
  · exact absurd (h ▸ List.mem_cons_self) (notMem_toDigits rfl _)
  · have hnat := toDigits_injective (List.cons.inj h).2
    omega

end Decimal

/-! ### Texts with a last colon -/

namespace Text

/-- Behind its first colon a text with no other colon has no room for one. -/
theorem eq_of_colon_cons {w x y : Text} (hx : ':' ∉ x) (h : ':' :: x = w ++ ':' :: y) :
    w = [] ∧ x = y := by
  rcases List.cons_eq_append_iff.mp h with ⟨hw, heq⟩ | ⟨w', -, heq⟩
  · exact ⟨hw, (List.cons.inj heq).2.symm⟩
  · exact absurd (heq ▸ List.mem_append_right w' List.mem_cons_self) hx

/-- What stands before the last colon and what stands behind it are known from the whole. -/
theorem append_colon_inj {u v x y : Text} (hx : ':' ∉ x) (hy : ':' ∉ y) :
    u ++ ':' :: x = v ++ ':' :: y ↔ u = v ∧ x = y := by
  constructor
  · intro h
    -- one of the texts goes up to its colon in the other, and then the two colons are the same
    rcases List.append_eq_append_iff.mp h with ⟨w, rfl, hw⟩ | ⟨w, rfl, hw⟩
    · obtain ⟨rfl, rfl⟩ := eq_of_colon_cons hx hw
      exact ⟨(List.append_nil u).symm, rfl⟩
    · obtain ⟨rfl, rfl⟩ := eq_of_colon_cons hy hw
      exact ⟨List.append_nil v, rfl⟩
  · rintro ⟨rfl, rfl⟩
    rfl

/-- A text that ends in characters that stay is not trimmed. -/
theorem trimEnd_append {p : Char → Bool} {u : Text} (hu : u ≠ []) (h : ∀ c ∈ u, p c = false)
    (t : Text) : trimEnd p (t ++ u) = t ++ u := by
  obtain ⟨v, c, rfl⟩ := List.eq_nil_or_concat' u |>.resolve_left hu
  rw [← List.append_assoc]
  exact trimEnd_concat_of_false (h c (List.mem_append_right v (List.mem_singleton.mpr rfl))) _

end Text

/-! ### Locations as texts -/

/-- **The file to show**: an absent one and one with the empty name are the same, and no others. -/
theorem shownFile_eq_iff {f g : Option String} :
    shownFile f = shownFile g ↔ f.getD "" = g.getD "" := by
  have hshown : ∀ f : Option String,
      shownFile f = if f.getD "" = "" then none else some (f.getD "") := by
    rintro (_ | name) <;> rfl
  rw [hshown f, hshown g]
  split <;> split <;> simp_all

/-- What stands before the line of a location: the name of the file and a colon, if there is a name
to show. -/
def fileLead (file : Option String) : Text :=
  match shownFile file with
  | some name => name.toList ++ [':']
  | none => []

/-- **The name of the file and the line are known** from what stands before the last colon. -/
theorem fileLead_append_inj {f g : Option String} {x y : Text} (hx : ':' ∉ x) (hy : ':' ∉ y) :
    fileLead f ++ x = fileLead g ++ y ↔ shownFile f = shownFile g ∧ x = y := by
  -- a name brings a colon with it, and there is none in a line
  have hne : ∀ (name : String) (z : Text) {w : Text}, ':' ∉ w → name.toList ++ [':'] ++ z ≠ w := by
    rintro name z w hw rfl
    exact hw (List.mem_append_left z (List.mem_append_right _ List.mem_cons_self))
  unfold fileLead
  cases shownFile f with
  | none =>
    cases shownFile g with
    | none =>
      show x = y ↔ none = none ∧ x = y
      exact (and_iff_right rfl).symm
    | some name' => exact iff_of_false (fun h => hne name' y hx h.symm) (fun h => nomatch h.1)
  | some name =>
    cases shownFile g with
    | none => exact iff_of_false (hne name x hy) (fun h => nomatch h.1)
    | some name' =>
      show name.toList ++ [':'] ++ x = name'.toList ++ [':'] ++ y ↔ _
      rw [List.append_assoc, List.append_assoc, List.singleton_append, List.singleton_append,
        Text.append_colon_inj hx hy, String.toList_inj, Option.some.injEq]

namespace Location

variable {l l' : Location} {t : String}

/-- **A location can be shown** when line and column have no more digits than are written. -/
def Writable (l : Location) : Prop :=
  l.line.natAbs < Decimal.bound Decimal.maxDigits ∧
    l.column.natAbs < Decimal.bound Decimal.maxDigits

theorem lineColumn_of_writable (h : l.Writable) :
    l.lineColumn = .ok (toString l.line ++ ":" ++ toString l.column) := by
  unfold lineColumn
  rw [Decimal.write_of_lt h.1, Decimal.write_of_lt h.2]
  rfl

theorem lineColumn_of_not_writable (h : ¬ l.Writable) :
    l.lineColumn = .error .tooManyDigits := by
  unfold lineColumn
  by_cases hline : l.line.natAbs < Decimal.bound Decimal.maxDigits
  · -- the line is written, and the column is the one that is not
    have hcolumn : Decimal.bound Decimal.maxDigits ≤ l.column.natAbs :=
      Nat.not_lt.mp fun hcolumn => h ⟨hline, hcolumn⟩
    rw [Decimal.write_of_lt hline, Decimal.write_of_le hcolumn]
    rfl
  · rw [Decimal.write_of_le (Nat.not_lt.mp hline)]
    rfl

/-- A location that cannot be shown has no text. -/
theorem text_of_not_writable (h : ¬ l.Writable) : l.text = .error .tooManyDigits := by
  unfold text
  rw [lineColumn_of_not_writable h]
  cases shownFile l.file <;> rfl

/-- **A location that can be shown has a text.** -/
theorem text_of_writable (h : l.Writable) : ∃ t, l.text = .ok t ∧
    t.toList =
      fileLead l.file ++ (toString l.line).toList ++ ':' :: (toString l.column).toList := by
  unfold text fileLead
  rw [lineColumn_of_writable h]
  cases shownFile l.file with
  | none => exact ⟨_, rfl, by simp⟩
  | some name => exact ⟨_, rfl, by simp⟩

theorem writable_of_text (h : l.text = .ok t) : l.Writable := by
  by_contra hl
  rw [text_of_not_writable hl] at h
  cases h

/-- What the text of a location consists of. -/
theorem toList_text (h : l.text = .ok t) :
    t.toList =
      fileLead l.file ++ (toString l.line).toList ++ ':' :: (toString l.column).toList := by
  obtain ⟨t', ht', hlist⟩ := text_of_writable (writable_of_text h)
  rw [h] at ht'
  cases ht'
  exact hlist

/-- **A location is known by its text**: two locations are written alike only if line, column and
the file to show are the same. -/
theorem text_eq_text_iff (h : l.text = .ok t) : l'.text = .ok t ↔
    l.line = l'.line ∧ l.column = l'.column ∧ l.file.getD "" = l'.file.getD "" := by
  rw [← shownFile_eq_iff]
  constructor
  · intro h'
    have hlist := toList_text h
    rw [toList_text h'] at hlist
    -- the last colon stands before the column
    obtain ⟨hlead, hcolumn⟩ :=
      (Text.append_colon_inj (Decimal.colon_notMem _) (Decimal.colon_notMem _)).mp hlist
    obtain ⟨hfile, hline⟩ :=
      (fileLead_append_inj (Decimal.colon_notMem _) (Decimal.colon_notMem _)).mp hlead
    exact ⟨(Decimal.toString_injective hline).symm, (Decimal.toString_injective hcolumn).symm,
      hfile.symm⟩
  · rintro ⟨hline, hcolumn, hfile⟩
    rw [← h]
    unfold text lineColumn
    rw [hline, hcolumn, hfile]

end Location

/-! ### Reports with a location -/

namespace Report

variable (category : Category) (message : String) (l : Location)

/-- The parts of a location are its text and one more colon. -/
theorem parts_eq_location :
    (Report.mk category message (some l.line) (some l.column) l.file).parts =
      l.text.map (· ++ ":") := by
  unfold parts filePart linePart Location.text Location.lineColumn
  dsimp only
  -- if one of the numbers is not written, then there is nothing on either side
  cases Decimal.write l.line with
  | error e => cases shownFile l.file <;> rfl
  | ok line =>
    cases Decimal.write l.column with
    | error e => cases shownFile l.file <;> rfl
    | ok column =>
      cases shownFile l.file with
      | none =>
        show Except.ok ("" ++ (line ++ ":" ++ column ++ ":")) = .ok (line ++ ":" ++ column ++ ":")
        rw [String.empty_append]
      | some name =>
        show Except.ok (name ++ ":" ++ (line ++ ":" ++ column ++ ":")) =
          .ok (name ++ ":" ++ (line ++ ":" ++ column) ++ ":")
        simp only [String.append_assoc]

/-- Behind the text of a location, exactly one colon is taken off. -/
theorem lead_of_text {l : Location} {t : String} (h : l.text = .ok t) :
    lead (t ++ ":") = t ++ " " := by
  have hlist : (t ++ ":").toList = t.toList ++ [':'] := String.toList_append
  have hne : t ++ ":" ≠ "" := by
    intro hempty
    rw [hempty] at hlist
    exact List.append_ne_nil_of_right_ne_nil _ (List.cons_ne_nil _ _) hlist.symm
  -- behind the last colon stands nothing, and before it the column
  have htrim : Text.trimEnd (· == ':') (t.toList ++ [':']) = t.toList := by
    rw [Text.trimEnd_concat_of_true rfl, Location.toList_text h, List.append_cons]
    apply Text.trimEnd_append (Decimal.toList_toString_ne_nil _)
    intro c hc
    exact beq_false_of_ne fun hcolon => Decimal.colon_notMem l.column (hcolon ▸ hc)
  unfold lead
  rw [if_neg hne, hlist, htrim, String.ofList_toList]

/-- **A report starts with its location**, as a token would show it, and has a text if and only if
the location has one. -/
theorem text_eq_location :
    (Report.mk category message (some l.line) (some l.column) l.file).text =
      l.text.map (· ++ " " ++ message) := by
  unfold text
  rw [parts_eq_location]
  cases h : l.text with
  | error e => rfl
  | ok t =>
    show Except.ok (lead (t ++ ":") ++ message) = .ok (t ++ " " ++ message)
    rw [lead_of_text h]

end Report

/-- The report of a fault starts with the location of anything that starts where the fault is. -/
theorem Fault.text_report (f : Fault) (length : Nat) :
    f.report.text =
      (Location.ofSpan f.place length f.file).text.map (· ++ " " ++ f.report.message) :=
  Report.text_eq_location f.cause.category f.cause.message (.ofSpan f.place length f.file)

theorem Lexer.file_of_pop_fault {l : Lexer} {f : Fault} (h : l.pop.fault = some f) :
    f.file = l.source.file := by
  obtain ⟨e, c, -, rfl⟩ := exists_stuck_of_fault h
  rfl

theorem Lexer.file_of_ofText_error {src : Source} {s : Text} {f : Fault}
    (h : Lexer.ofText src s = .error f) : f.file = src.file := by
  obtain ⟨e, c, -, rfl⟩ := ofText_eq_error_iff.mp h
  rfl

/-- **Errors and tokens show locations in one way, and unambiguously**, as long as line and column
have no more digits than are written. The text of a report with line and column is then the text of
the location, a blank and the message, whatever signs and whatever file these have; otherwise
neither has a text. So a fault of a lexer, when it is popped or opened, is reported with the
location that a token of any length would show if it started at the cursor that is stuck. Two
locations are written alike only if they have the same line, column and file, where an absent file
and one with the empty name count as the same. -/
theorem reports_show_locations :
    (∀ (category : Category) (message : String) (line column : Int) (file : Option String),
      line.natAbs < Decimal.bound Decimal.maxDigits →
      column.natAbs < Decimal.bound Decimal.maxDigits →
      ∃ t, ({ line := line, column := column, file := file } : Location).text = .ok t ∧
        (Report.mk category message (some line) (some column) file).text =
          .ok (t ++ " " ++ message)) ∧
    (∀ (category : Category) (message : String) (line column : Int) (file : Option String),
      Decimal.bound Decimal.maxDigits ≤ line.natAbs ∨
        Decimal.bound Decimal.maxDigits ≤ column.natAbs →
      ({ line := line, column := column, file := file } : Location).text =
          .error .tooManyDigits ∧
        (Report.mk category message (some line) (some column) file).text =
          .error .tooManyDigits) ∧
    (∀ (l : Lexer) (f : Fault), l.pop.fault = some f → ∀ length,
      f.report.text =
        (Location.ofSpan l.pop.lexer.cursor.place length l.source.file).text.map
          (· ++ " " ++ f.report.message)) ∧
    (∀ (src : Source) (s : Text) (f : Fault), Lexer.ofText src s = .error f →
      ∃ c, (Cursor.ofText s).advance = .stuck f.cause c ∧ ∀ length,
        f.report.text =
          (Location.ofSpan c.place length src.file).text.map (· ++ " " ++ f.report.message)) ∧
    (∀ (l l' : Location) (t : String), l.text = .ok t →
      (l'.text = .ok t ↔
        l.line = l'.line ∧ l.column = l'.column ∧ l.file.getD "" = l'.file.getD "")) := by
  refine ⟨?_, ?_, ?_, ?_, fun l l' t h => Location.text_eq_text_iff h⟩
  · intro category message line column file hline hcolumn
    obtain ⟨t, ht, -⟩ := Location.text_of_writable (l := ⟨line, column, 0, 0, file⟩)
      ⟨hline, hcolumn⟩
    refine ⟨t, ht, ?_⟩
    rw [Report.text_eq_location category message ⟨line, column, 0, 0, file⟩, ht]
    rfl
  · intro category message line column file hlarge
    have hnot : ¬ (⟨line, column, 0, 0, file⟩ : Location).Writable := by
      rintro ⟨hline, hcolumn⟩
      exact hlarge.elim (Nat.not_le.mpr hline) (Nat.not_le.mpr hcolumn)
    refine ⟨Location.text_of_not_writable hnot, ?_⟩
    rw [Report.text_eq_location category message ⟨line, column, 0, 0, file⟩,
      Location.text_of_not_writable hnot]
    rfl
  · intro l f hf length
    rw [← Lexer.place_of_pop_fault hf, ← Lexer.file_of_pop_fault hf]
    exact f.text_report length
  · intro src s f hf
    obtain ⟨c, hadv, hplace, -⟩ := Lexer.place_of_ofText_error hf
    refine ⟨c, hadv, fun length => ?_⟩
    rw [← hplace, ← Lexer.file_of_ofText_error hf]
    exact f.text_report length

/-- A file whose name ends like a location. A comma on its second line is reported there, whether
it is the first thing that the lexer reads or comes up later. The lowest line that is written is
shown as well. -/
theorem reports_show_locations_colons_in_name :
    (∃ (line : Int) (t : String), line = 1 - Decimal.bound Decimal.maxDigits ∧
      ({ line := line, column := 1, file := some "a:1" } : Location).text = .ok t ∧
      (Report.mk .malformed "m" (some line) (some 1) (some "a:1")).text =
        .ok (t ++ " " ++ "m")) ∧
    (∃ f, Lexer.ofText ⟨some "a:1", true⟩ ['\n', ','] = .error f ∧
      f.report.text = .ok ("a:1:2:1" ++ " " ++ f.report.message)) ∧
    (∃ l f, Lexer.ofText ⟨some "a:1", true⟩ ['A', '\n', ' ', ','] = .ok l ∧ l.pop.fault = some f ∧
      f.report.text = .ok ("a:1:2:2" ++ " " ++ f.report.message)) := by
  obtain ⟨hshown, -, hpop, hopen, -⟩ := reports_show_locations
  have hone : 1 < Decimal.bound Decimal.maxDigits :=
    (Decimal.length_digits_le_iff (by decide) 1).mp (by decide)
  refine ⟨?_, ?_, ?_⟩
  · obtain ⟨t, htext, hreport⟩ := hshown .malformed "m" (1 - Decimal.bound Decimal.maxDigits) 1
      (some "a:1") (by omega) hone
    exact ⟨_, t, rfl, htext, hreport⟩
  · have hf : Lexer.ofText ⟨some "a:1", true⟩ ['\n', ','] =
        .error ⟨.strayComma, ⟨1, 2, 1⟩, some "a:1"⟩ := rfl
    obtain ⟨c, hadv, htext⟩ := hopen _ _ _ hf
    cases hadv
    exact ⟨_, hf, htext 0⟩
  · have htext := hpop
      ⟨⟨some "a:1", true⟩, ⟨⟨1, 1, 2⟩, ['\n', ' ', ','], .topLevel⟩,
        ⟨.label, ['A'], .ofSpan .origin 1 (some "a:1")⟩⟩
      ⟨.strayComma, ⟨3, 2, 2⟩, some "a:1"⟩ rfl 0
    exact ⟨_, _, rfl, rfl, htext⟩

/-- **A line with too many digits is shown nowhere**: neither the location nor the report has a
text, so that the one cannot start with the other. -/
theorem no_text_beyond_maxDigits :
    ({ line := 10 ^ 4300, column := 1 } : Location).text = .error .tooManyDigits ∧
    (Report.mk .lexing "m" (some (10 ^ 4300)) (some 1) none).text = .error .tooManyDigits ∧
    ¬ ∃ t, ({ line := 10 ^ 4300, column := 1 } : Location).text = .ok t ∧
      (Report.mk .lexing "m" (some (10 ^ 4300)) (some 1) none).text = .ok (t ++ " " ++ "m") := by
  have hlarge : Decimal.bound Decimal.maxDigits ≤ ((10 : Int) ^ 4300).natAbs := by
    rw [Decimal.natAbs_ten_pow]
    exact Nat.le_refl _
  have hnot : ¬ (⟨10 ^ 4300, 1, 0, 0, none⟩ : Location).Writable :=
    fun h => Nat.not_le.mpr h.1 hlarge
  have hlocation := Location.text_of_not_writable hnot
  refine ⟨hlocation, ?_, ?_⟩
  · rw [Report.text_eq_location .lexing "m" ⟨10 ^ 4300, 1, 0, 0, none⟩, hlocation]
    rfl
  · rintro ⟨t, ht, -⟩
    rw [hlocation] at ht
    cases ht

end Dialogue
