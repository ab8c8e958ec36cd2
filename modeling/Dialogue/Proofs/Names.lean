import Dialogue.Proofs.Allowance
import Dialogue.Proofs.Canonical
import Dialogue.Proofs.Halting

/-!
# Names are kept whole

A script is full of runs of label characters: labels, the names of calls, words in comments and in
parameters. Nothing in the lexer looks back, so nothing prevents it from starting a token in the
middle of such a run, say behind a dropped character or a parenthesis that it has passed over. Yet
it never does. Every run is the whole of one label or one name, or it lies inside of one comment or
one parameter, and every label and every name is a whole run (`names_kept_whole`).

The right end of a token is decided where it is read: behind a token that can hold label characters
there is none (`Token.KeepsNames`). The left end is not decided anywhere. It follows from the
accounts of the script. A label character in front of a token would have to belong to an earlier
token, as label characters are neither marks nor layout and none is dropped. That token would end
right there, with a label character behind it.
-/

namespace Dialogue

/-! ### Runs of label characters -/

namespace Text

/-- There is a label character at an offset. -/
def LabelAt (s : Text) (i : Nat) : Prop :=
  ∃ c, s[i]? = some c ∧ Dialogue.isLabel c = true

instance (s : Text) (i : Nat) : Decidable (s.LabelAt i) :=
  decidable_of_iff (s[i]?.any Dialogue.isLabel = true) (Option.any_eq_true _ _)

/-- **A run of label characters**, from one offset up to another, that cannot be made longer on
either side. -/
structure LabelRun (s : Text) (i j : Nat) : Prop where
  lt : i < j
  labelAt : ∀ k, i ≤ k → k < j → s.LabelAt k
  left : ∀ k, k + 1 = i → ¬ s.LabelAt k
  right : ¬ s.LabelAt j

end Text

theorem isParam_of_isLabel {c : Char} (h : isLabel c = true) : isParam c = true := by
  have hcomma : c ≠ ',' := by
    rintro rfl
    exact absurd h (by decide)
  have hparen : c ≠ ')' := by
    rintro rfl
    exact absurd h (by decide)
  simp [isParam, isTerminator, isBlank_of_isLabel h, hcomma, hparen]

theorem isText_of_isLabel {c : Char} (h : isLabel c = true) : isText c = false := by
  simp [isText, h]

/-- The kinds of tokens that can hold label characters. -/
def Kind.holdsLabels (k : Kind) : Bool :=
  k ∈ [label, name, comment, param]

namespace Kind

variable {k : Kind} {v : Text} {c : Char}

theorem Admits.isLabel (h : k.Admits v) (hk : k = .label ∨ k = .name) :
    ∀ c ∈ v, Dialogue.isLabel c = true := by
  rcases hk with rfl | rfl
  · exact h.2
  · exact h

theorem Admits.holdsLabels (h : k.Admits v) (hc : c ∈ v) (hlabel : Dialogue.isLabel c = true) :
    k.holdsLabels = true := by
  cases k with
  | label | name | comment | param => rfl
  | text =>
    have htext := h.2.1 c hc
    rw [isText_of_isLabel hlabel] at htext
    cases htext
  | opening | separator | closing =>
    -- the value is a single mark, which is not a label character
    rw [show v = _ from h, List.mem_singleton] at hc
    subst hc
    exact absurd hlabel (by decide)
  | eof =>
    rw [show v = _ from h] at hc
    cases hc

end Kind

/-- **Behind a token that can hold label characters there is none.** -/
theorem Mode.Reads.stops_isLabel {m : Mode} {t : Text} {r : Reading} (h : m.Reads t r)
    (hk : r.lexeme.kind.holdsLabels = true) :
    Text.Stops isLabel (r.lexeme.trail ++ r.rest) := by
  cases h with
  | label _ _ hr | name _ hr => exact hr
  | comment => exact Text.stops_cons.mpr (by decide)
  | lastComment => exact Text.stops_nil
  | param _ _ hr =>
    intro c hc
    rw [Bool.eq_false_iff]
    intro hlabel
    exact absurd (isParam_of_isLabel hlabel) (Bool.eq_false_iff.mp (hr c hc))
  | eof | text | opening | impliedOpening | lastOpening | impliedClosing | emptyClosing | separator
  | closing => cases hk

/-! ### Tokens and runs -/

/-- A token covers the character at an offset. -/
def Token.Covers (t : Token) (i : Nat) : Prop :=
  t.location.start ≤ i ∧ i < t.location.stop

/-- **A token keeps the names of a script**: labels and names cover label characters only, and a
label covers one at least; only tokens of certain kinds cover label characters at all, and these are
not followed by one. -/
structure Token.KeepsNames (t : Token) (s : Text) : Prop where
  nonempty : t.kind = .label → t.location.start < t.location.stop
  labelAt : t.kind = .label ∨ t.kind = .name → ∀ i, t.Covers i → s.LabelAt i
  holdsLabels : ∀ i, t.Covers i → s.LabelAt i → t.kind.holdsLabels = true
  stops : t.kind.holdsLabels = true → ∀ i : Nat, t.location.stop = i → ¬ s.LabelAt i

/-- A token holds a run: it is a comment or a parameter with the run inside, or it is a label or a
name and the run is all of it. -/
def Token.HoldsRun (t : Token) (i j : Nat) : Prop :=
  t.kind ∈ [Kind.comment, .param] ∧ t.location.start ≤ i ∧ j ≤ t.location.stop ∨
    t.kind ∈ [Kind.label, .name] ∧ t.location.start = i ∧ t.location.stop = j

namespace Lexeme

variable {l : Lexeme} {s u r : Text} {file : Option String} {i : Nat} {c : Char}

theorem mem_value_of_mem_body (h : c ∈ l.body) : c ∈ l.value := by
  unfold body at h
  split at h
  · cases h
  · exact h

theorem exists_mem_body (hs : s = u ++ l.consumed ++ r)
    (hi : (l.token (Position.origin.after u) file).Covers i) : ∃ c ∈ l.body, s[i]? = some c := by
  obtain ⟨hstart, hstop⟩ := hi
  rw [start_token] at hstart
  rw [stop_token] at hstop
  have hcut : s = (u ++ l.lead) ++ (l.body ++ (l.trail ++ r)) := by
    rw [hs, consumed]
    simp only [List.append_assoc]
  have hlen : (u ++ l.lead).length = u.length + l.lead.length := List.length_append
  have hk : i - (u ++ l.lead).length < l.body.length := by omega
  refine ⟨l.body[i - (u ++ l.lead).length], List.getElem_mem hk, ?_⟩
  rw [hcut, List.getElem?_append_right (by omega), List.getElem?_append_left hk]
  exact List.getElem?_eq_getElem hk

theorem getElem?_stop (hs : s = u ++ l.consumed ++ r)
    (hi : (l.token (Position.origin.after u) file).location.stop = i) :
    s[i]? = (l.trail ++ r).head? := by
  rw [stop_token] at hi
  have hcut : s = (u ++ l.lead ++ l.body) ++ (l.trail ++ r) := by
    rw [hs, consumed]
    simp only [List.append_assoc]
  have hlen : (u ++ l.lead ++ l.body).length = i := by
    rw [List.length_append, List.length_append]
    omega
  rw [hcut, ← hlen, List.getElem?_append_right (Nat.le_refl _), Nat.sub_self,
    List.head?_eq_getElem?]

end Lexeme

/-- **Every rule reads a token that keeps names.** -/
theorem Mode.Reads.keepsNames {m : Mode} {t : Text} {r : Reading} (h : m.Reads t r) {s u : Text}
    (hs : s = u ++ r.lexeme.consumed ++ r.rest) (file : Option String) :
    (r.lexeme.token (Position.origin.after u) file).KeepsNames s where
  nonempty := by
    intro hk
    rw [Lexeme.start_token, Lexeme.stop_token]
    cases h with
    | label hne =>
      have hpos := List.length_pos_of_ne_nil hne
      simp [Lexeme.body]
      omega
    | eof | name | comment | lastComment | text | opening | impliedOpening | lastOpening
    | impliedClosing | param | emptyClosing | separator | closing => cases hk
  labelAt := by
    intro hk i hi
    obtain ⟨c, hc, hchar⟩ := Lexeme.exists_mem_body hs hi
    exact ⟨c, hchar, h.admits.isLabel hk c (Lexeme.mem_value_of_mem_body hc)⟩
  holdsLabels := by
    rintro i hi ⟨d, hd, hlabel⟩
    obtain ⟨c, hc, hchar⟩ := Lexeme.exists_mem_body hs hi
    obtain rfl : c = d := Option.some.inj (hchar.symm.trans hd)
    exact h.admits.holdsLabels (Lexeme.mem_value_of_mem_body hc) hlabel
  stops := by
    rintro hk i hi ⟨c, hchar, hlabel⟩
    rw [Lexeme.getElem?_stop hs hi] at hchar
    exact absurd hlabel (Bool.eq_false_iff.mp (h.stops_isLabel hk c hchar))

/-- **Along every run, every token keeps names.** -/
theorem Cursor.Run.keepsNames {file : Option String} {s : Text} {ts : List Token} {c : Cursor}
    (h : Run file s ts c) : ∀ t ∈ ts, t.KeepsNames s := by
  induction h with
  | start => exact List.forall_mem_nil _
  | @read ts c next l p hrun hadv ih =>
    obtain ⟨u, hs, -, rfl, -⟩ := hrun.standsIn.exists_of_read hadv
    obtain ⟨-, -, hreads⟩ := advance_eq_read_iff.mp hadv
    intro t ht
    rcases List.mem_append.mp ht with ht | ht
    · exact ih t ht
    · obtain rfl := List.mem_singleton.mp ht
      exact hreads.keepsNames hs file
  | stuck _ _ ih => exact ih

/-! ### Both ends of a run -/

/-- A label character that is accounted for is covered by a token. It is none of the marks, it is
not dropped, and it is no layout. -/
theorem Accounted.exists_covers {s : Text} {ts : List Token} {i : Nat} (h : Accounted s ts i)
    (hlabel : s.LabelAt i) : ∃ t ∈ ts, t.Covers i := by
  obtain ⟨c, hc, hlabel⟩ := hlabel
  rcases h with ⟨us, t, vs, rfl, ⟨role, hmark⟩, -⟩ | ⟨-, d, hd, hlayout⟩
  · refine ⟨t, List.mem_append_right _ List.mem_cons_self, ?_⟩
    cases role with
    | value => exact hmark.2
    | nameMark =>
      obtain rfl : '@' = c := Option.some.inj (hmark.2.2.symm.trans hc)
      exact absurd hlabel (by decide)
    | commentMark =>
      rcases hmark.2 with ⟨-, hchar⟩ | ⟨-, hchar⟩
      · obtain rfl : ';' = c := Option.some.inj (hchar.symm.trans hc)
        exact absurd hlabel (by decide)
      · obtain rfl : '\n' = c := Option.some.inj (hchar.symm.trans hc)
        exact absurd hlabel (by decide)
    | dropped =>
      obtain ⟨-, -, -, d, hd, -, hnot⟩ := hmark
      obtain rfl : d = c := Option.some.inj (hd.symm.trans hc)
      exact absurd hlabel (Bool.eq_false_iff.mp hnot)
    | blank | paren => exact hmark.elim
  · obtain rfl : d = c := Option.some.inj (hd.symm.trans hc)
    rcases hlayout with hblank | ⟨hparen, -⟩
    · exact absurd hblank (Bool.eq_false_iff.mp (isBlank_of_isLabel hlabel))
    · exact absurd hparen (Bool.eq_false_iff.mp (isParen_of_isLabel hlabel))

/-- A token that covers the start of a run holds the run. -/
theorem Token.KeepsNames.holdsRun {t : Token} {s : Text} {i j : Nat} (h : t.KeepsNames s)
    (hrun : s.LabelRun i j) (hpos : 0 ≤ t.location.start) (hi : t.Covers i) : t.HoldsRun i j := by
  have hlt := hrun.lt
  have hholds := h.holdsLabels i hi (hrun.labelAt i (Nat.le_refl i) hlt)
  obtain ⟨hstart, hstop⟩ := hi
  obtain ⟨n, hn⟩ := Int.eq_ofNat_of_zero_le (show 0 ≤ t.location.stop by omega)
  -- the token does not stop inside of the run, since it is not followed by a label character
  have hright : j ≤ n := by
    by_contra hlater
    exact h.stops hholds n hn (hrun.labelAt n (by omega) (by omega))
  by_cases hname : t.kind ∈ [Kind.label, .name]
  · have hlabels := h.labelAt (by simpa using hname)
    refine .inr ⟨hname, ?_, ?_⟩
    · -- if it started before the run, the run could be made longer on the left
      by_contra hbefore
      exact hrun.left (i - 1) (by omega) (hlabels (i - 1) ⟨by omega, by omega⟩)
    · by_contra hbehind
      exact hrun.right (hlabels j ⟨by omega, by omega⟩)
  · have hkind : t.kind ∈ [Kind.comment, .param] := by
      revert hholds hname
      cases t.kind <;> decide
    exact .inl ⟨hkind, hstart, by omega⟩

namespace Cursor.Run

variable {file : Option String} {s : Text} {ts : List Token} {c : Cursor} {t : Token}

/-- **In front of a token that starts with a label character there is none.** -/
theorem not_labelAt_before (h : Run file s ts c) (ht : t ∈ ts) {k : Nat}
    (hk : t.location.start = (k + 1 : Nat)) (hne : t.location.start < t.location.stop)
    (hlabel : s.LabelAt (k + 1)) : ¬ s.LabelAt k := by
  intro hbefore
  have haccounts := h.accounts
  obtain ⟨us, vs, rfl⟩ := List.append_of_mem ht
  obtain ⟨-, hbehind, hapart⟩ := List.pairwise_append.mp haccounts.ordered
  have hspan := haccounts.span t ht
  -- the character before belongs to some token, which is not behind `t` and not `t` itself
  obtain ⟨t', ht', hstart', hstop'⟩ := (haccounts.accounted k (by omega)).exists_covers hbefore
  rcases List.mem_append.mp ht' with hmem | hmem
  · have hle := hapart t' hmem t List.mem_cons_self
    have hkeeps := h.keepsNames t' ht'
    have hholds := hkeeps.holdsLabels k ⟨hstart', hstop'⟩ hbefore
    exact hkeeps.stops hholds (k + 1) (by omega) hlabel
  · rcases List.mem_cons.mp hmem with rfl | hmem
    · omega
    · have hle := (List.pairwise_cons.mp hbehind).1 t' hmem
      omega

/-- **Along every run, labels and names are runs of label characters.** -/
theorem labelRun (h : Run file s ts c) (ht : t ∈ ts)
    (hk : t.kind = .label ∨ t.kind = .name ∧ t.location.start < t.location.stop) :
    ∃ i j : Nat, t.location.start = i ∧ t.location.stop = j ∧ s.LabelRun i j := by
  obtain ⟨i, j, hstart, hstop, -⟩ := (h.token_standsIn t ht).slice
  have hkeeps := h.keepsNames t ht
  have hne : t.location.start < t.location.stop := hk.elim hkeeps.nonempty And.right
  have hname : t.kind = .label ∨ t.kind = .name := hk.imp_right And.left
  have hlabels : ∀ k, i ≤ k → k < j → s.LabelAt k := by
    intro k hik hkj
    exact hkeeps.labelAt hname k ⟨by omega, by omega⟩
  refine ⟨i, j, hstart, hstop, by omega, hlabels, ?_, ?_⟩
  · rintro k rfl
    exact h.not_labelAt_before ht hstart hne (hlabels (k + 1) (Nat.le_refl _) (by omega))
  · have hholds : t.kind.holdsLabels = true := by
      rcases hname with hkind | hkind <;> rw [hkind] <;> rfl
    exact hkeeps.stops hholds j hstop

/-- **Along every run, a run of label characters before the cursor is held by one token**, and all
others lie before it or behind it. -/
theorem exists_holdsRun (h : Run file s ts c) {i j : Nat} (hrun : s.LabelRun i j)
    (hi : i < c.place.offset) :
    ∃ us t vs, ts = us ++ t :: vs ∧ t.HoldsRun i j ∧
      ∀ t' ∈ us ++ vs, t'.location.stop ≤ (i : Int) ∨ (j : Int) ≤ t'.location.start := by
  have haccounts := h.accounts
  have hlabel := hrun.labelAt i (Nat.le_refl i) hrun.lt
  obtain ⟨t, ht, hcovers⟩ := (haccounts.accounted i hi).exists_covers hlabel
  obtain ⟨a, -, hstart, -⟩ := (h.token_standsIn t ht).slice
  have hholds := (h.keepsNames t ht).holdsRun hrun (by omega) hcovers
  obtain ⟨us, vs, rfl⟩ := List.append_of_mem ht
  refine ⟨us, t, vs, rfl, hholds, ?_⟩
  have hinside : t.location.start ≤ i ∧ j ≤ t.location.stop := by
    rcases hholds with ⟨-, hin⟩ | ⟨-, hstart, hstop⟩
    · exact hin
    · omega
  obtain ⟨-, hbehind, hapart⟩ := List.pairwise_append.mp haccounts.ordered
  intro t' ht'
  rcases List.mem_append.mp ht' with hmem | hmem
  · have hle := hapart t' hmem t List.mem_cons_self
    exact .inl (by omega)
  · have hle := (List.pairwise_cons.mp hbehind).1 t' hmem
    exact .inr (by omega)

end Cursor.Run

/-! ### Scripts that can be tokenized -/

/-- **Tokenizing goes on with a run**: what it delivers takes the place of the front. -/
theorem Lexer.Run.tokenize {src : Source} {s : Text} {us : List Token} {l : Lexer}
    (h : Lexer.Run src s (us ++ [l.front]) l) :
    Lexer.Run src s (us ++ l.tokenize.tokens) l.tokenize.lexer := by
  fun_induction Lexer.tokenize l generalizing us with
  | case1 l he => exact h
  | case2 l he f hf => exact h.failed hf
  | case3 l he hf ih =>
    have hmore := ih (h.popped hf)
    rw [List.append_assoc] at hmore
    exact hmore

/-- The tokens of a script that can be tokenized are those of a run to the end. -/
theorem Config.exists_run_of_tokenize {conf : Config} {s : Text} {file : Option String}
    {ts : List Token} (h : (conf.tokenize s file).1 = .ok ts) :
    ∃ l, Lexer.Run (conf.source file) s ts l ∧ l.isEmpty = true := by
  unfold Config.tokenize at h
  cases hopen : conf.openText s file with
  | error f =>
    rw [hopen] at h
    cases h
  | ok l =>
    rw [hopen] at h
    change l.tokenize.result = .ok ts at h
    have hrun : Lexer.Run (conf.source file) s ([] ++ [l.front]) l := .opened hopen
    unfold Delivery.result at h
    split at h
    · cases h
    · next hf =>
      cases h
      exact ⟨l.tokenize.lexer, hrun.tokenize, l.ended_tokenize.resolve_left (not_not.mpr hf)⟩

/-- **Names are kept whole.** If a script can be tokenized, then every run of label characters in it
is held by one token, inside of a comment or a parameter or as the whole of a label or a name, and
no other token has a part of it; and every label, and every name that is not empty, is a run of
label characters that cannot be made longer on either side. -/
theorem names_kept_whole (conf : Config) (s : Text) (file : Option String) (ts : List Token)
    (h : (conf.tokenize s file).1 = .ok ts) :
    (∀ i j, s.LabelRun i j → ∃ us t vs, ts = us ++ t :: vs ∧ t.HoldsRun i j ∧
      ∀ t' ∈ us ++ vs, t'.location.stop ≤ (i : Int) ∨ (j : Int) ≤ t'.location.start) ∧
    ∀ t ∈ ts, t.kind = .label ∨ t.kind = .name ∧ t.location.start < t.location.stop →
      ∃ i j : Nat, t.location.start = i ∧ t.location.stop = j ∧ s.LabelRun i j := by
  obtain ⟨l, hrun, he⟩ := Config.exists_run_of_tokenize h
  obtain ⟨-, -, hcur⟩ := hrun.cursor
  refine ⟨?_, ?_⟩
  · intro i j hlabels
    -- the cursor has passed the whole script, so it has passed the start of the run
    obtain ⟨c, hc, -⟩ := hlabels.labelAt i (Nat.le_refl i) hlabels.lt
    have hi : i < s.length := (List.getElem?_eq_some_iff.mp hc).1
    have hend : l.cursor.place.offset = s.length := by
      rw [hrun.eq_atEnd he]
      exact Cursor.offset_of_place rfl
    exact hcur.exists_holdsRun hlabels (by omega)
  · intro t ht hk
    exact hcur.labelRun ht hk

/-- A call without a list, and behind the character that is dropped a label of two characters. The
lexer has gone on in the middle of the script, and the label is whole on the left. -/
theorem names_kept_whole_behind_dropped :
    ∃ ts, (Config.default.tokenize ['@', 'f', '.', 'a', 'b'] none).1 = .ok ts ∧
      Text.LabelRun ['@', 'f', '.', 'a', 'b'] 3 5 ∧ (∃ t ∈ ts, t.HoldsRun 3 5) ∧
      ∃ t ∈ ts, t.kind = .name ∧ ∃ i j : Nat, t.location.start = i ∧ t.location.stop = j ∧
        Text.LabelRun ['@', 'f', '.', 'a', 'b'] i j := by
  have hts : (Config.default.tokenize ['@', 'f', '.', 'a', 'b'] none).1 = .ok
      [⟨.name, ['f'], .ofSpan ⟨1, 1, 2⟩ 1 none⟩, ⟨.opening, ['('], .ofSpan ⟨2, 1, 3⟩ 0 none⟩,
        ⟨.closing, [')'], .ofSpan ⟨3, 1, 4⟩ 0 none⟩, ⟨.label, ['a', 'b'], .ofSpan ⟨3, 1, 4⟩ 2 none⟩,
        ⟨.eof, [], .ofSpan ⟨5, 1, 6⟩ 0 none⟩] := by
    have hname : (Cursor.ofText ['@', 'f', '.', 'a', 'b']).advance =
      .read ⟨.name, ['f'], ['@'], false, []⟩ .origin
        ⟨⟨2, 1, 3⟩, ['.', 'a', 'b'], .afterName⟩ := rfl
    have hopening : (⟨⟨2, 1, 3⟩, ['.', 'a', 'b'], .afterName⟩ : Cursor).advance =
      .read ⟨.opening, ['('], [], true, ['.']⟩ ⟨2, 1, 3⟩
        ⟨⟨3, 1, 4⟩, ['a', 'b'], .impliedClose⟩ := rfl
    have hlabel : (⟨⟨3, 1, 4⟩, ['a', 'b'], .topLevel⟩ : Cursor).advance =
      .read ⟨.label, ['a', 'b'], [], false, []⟩ ⟨3, 1, 4⟩ ⟨⟨5, 1, 6⟩, [], .topLevel⟩ := rfl
    rw [Config.tokenize_eq_course, Cursor.course_of_read hname (by decide),
      Cursor.course_of_read hopening (by decide), Cursor.course_impliedClose,
      Cursor.course_of_read hlabel (by decide), Cursor.course_topLevel_nil]
    rfl
  have hrun : Text.LabelRun ['@', 'f', '.', 'a', 'b'] 3 5 := by
    refine ⟨by decide, ?_, ?_, by decide⟩
    · intro k hk hlt
      obtain rfl | rfl : k = 3 ∨ k = 4 := by omega
      all_goals decide
    · intro k hk
      obtain rfl : k = 2 := by omega
      decide
  obtain ⟨hheld, hnames⟩ := names_kept_whole .default _ none _ hts
  obtain ⟨us, t, vs, heq, hholds, -⟩ := hheld 3 5 hrun
  refine ⟨_, hts, hrun, ⟨t, ?_, hholds⟩, _, List.mem_cons_self, rfl,
    hnames _ List.mem_cons_self (.inr ⟨rfl, by decide⟩)⟩
  rw [heq]
  exact List.mem_append_right _ List.mem_cons_self

end Dialogue
