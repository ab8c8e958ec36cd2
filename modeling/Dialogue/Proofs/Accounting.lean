import Mathlib.Data.List.Basic
import Dialogue.Proofs.Runs

/-!
# Every character is accounted for

A lexer may drop characters: the marks of calls and comments, the ends of comment lines, what stands
in the place of a parameter list, blanks and stray parentheses. It does so for one of six reasons
each, and this module shows that there is never none and never two. `Role` names the reasons, and
`Plays s ts i r` says in terms of the tokens alone that the character at offset `i` is there for the
reason `r`. Along every run, each character before the cursor plays exactly one role
(`characters_accounted`); the spans of the tokens are in order and hold the values. What stands in
the place of a parameter list is never its parenthesis nor a character of a name
(`Token.DropsOther`).

The tokens do not say how much was consumed with them, but it can be read off them: a token touches
(`Token.Touches`) precisely those characters that its lexeme consumes (`Lexeme.touches_token_iff`).
This is the main lemma. What a token touches lies between the cursor before it and the cursor behind
it, so no two tokens touch one character, and whatever no token touches is layout. The rest of the
argument is the invariant `Accounts`, kept when layout is passed over (`Accounts.settle`) and when a
lexeme is read (`Accounts.read`).
-/

namespace Dialogue

/-! ### Roles -/

/-- **What a character of a script is there for.** -/
inductive Role where
  /-- It belongs to the value of a token. -/
  | value
  /-- It is the mark in front of a name. -/
  | nameMark
  /-- It is the mark in front of a comment or the line feed behind one. -/
  | commentMark
  /-- It stands in the place of an opening parenthesis. -/
  | dropped
  /-- It is a blank between tokens. -/
  | blank
  /-- It is a stray parenthesis between tokens. -/
  | paren
deriving DecidableEq, Repr

/-- **How a token accounts for a character** of a script: which role it gives to the character at an
offset. Layout gets its role from no token. -/
def Token.Marks (t : Token) (s : Text) (i : Nat) : Role → Prop
  | .value => t.isSynthetic = false ∧ t.location.start ≤ i ∧ i < t.location.stop
  | .nameMark => t.kind = .name ∧ t.location.start = i + 1 ∧ s[i]? = some '@'
  | .commentMark => t.kind = .comment ∧
      (t.location.start = i + 1 ∧ s[i]? = some ';' ∨ t.location.stop = i ∧ s[i]? = some '\n')
  | .dropped => t.kind = .opening ∧ t.isSynthetic = true ∧ t.location.start = i ∧
      ∃ c, s[i]? = some c ∧ c ≠ '(' ∧ isLabel c = false
  | .blank | .paren => False

/-- A token touches a character when it gives it a role. -/
def Token.Touches (t : Token) (s : Text) (i : Nat) : Prop :=
  ∃ r, t.Marks s i r

/-- An offset lies inside a call: behind an opening parenthesis that the script writes and before
the closing one that comes next, if there is one yet. -/
def InCall (ts : List Token) (i : Nat) : Prop :=
  ∃ (us : List Token) (t : Token) (vs : List Token), ts = us ++ t :: vs ∧ t.kind = .opening ∧
    t.isSynthetic = false ∧ t.location.stop ≤ i ∧
    ∀ t' ∈ vs.find? (·.kind == .closing), i < t'.location.start

/-- **The role of a character**, among the tokens of a script. It belongs to a value when exactly
one token covers it; it is layout when no token touches it. -/
def Plays (s : Text) (ts : List Token) (i : Nat) : Role → Prop
  | .value => ∃ us t vs, ts = us ++ t :: vs ∧ t.Marks s i .value ∧
      ∀ t' ∈ us ++ vs, ¬ t'.Marks s i .value
  | .nameMark => ∃ t ∈ ts, t.Marks s i .nameMark
  | .commentMark => ∃ t ∈ ts, t.Marks s i .commentMark
  | .dropped => ∃ t ∈ ts, t.Marks s i .dropped
  | .blank => (∀ t ∈ ts, ¬ t.Touches s i) ∧ ∃ c, s[i]? = some c ∧ isBlank c = true
  | .paren => (∀ t ∈ ts, ¬ t.Touches s i) ∧ (∃ c, s[i]? = some c ∧ isParen c = true) ∧
      ¬ InCall ts i

/-- **A parenthesis is supplied only where none is written.** The character at a synthetic opening
parenthesis, if there is one, is neither the parenthesis itself nor a label character. -/
def Token.DropsOther (t : Token) (s : Text) : Prop :=
  t.kind = .opening → t.isSynthetic = true → ∀ (i : Nat) (c : Char), t.location.start = i →
    s[i]? = some c → c ≠ '(' ∧ isLabel c = false

/-- A token gives a character one role at most. -/
theorem Token.Marks.unique {t : Token} {s : Text} {i : Nat} {r r' : Role} (h : t.Marks s i r)
    (h' : t.Marks s i r') : r = r' := by
  -- A value lies between the two offsets of its token, a mark just outside; all other pairs of
  -- roles need different kinds of tokens.
  cases r <;> cases r' <;> simp only [Token.Marks] at h h' <;> grind

/-! ### A token touches what its lexeme consumes -/

/-- **The shapes of lexemes**: what may be consumed around a token of each kind, and in front of
which text. Only a name and a comment have a mark in front. A comment without a line feed and an
implied parenthesis without a dropped character stand at the end of the script. -/
inductive Lexeme.Shape : Lexeme → Text → Prop
  /-- Nothing around the token. -/
  | plain {kind : Kind} {v r : Text} {implied : Bool} : kind ≠ .name → kind ≠ .comment →
      (kind = .opening → implied = false) → Shape ⟨kind, v, [], implied, []⟩ r
  /-- The mark of a call. -/
  | name {v r : Text} : Shape ⟨.name, v, ['@'], false, []⟩ r
  /-- The mark of a comment and a line feed. -/
  | comment {v r : Text} : Shape ⟨.comment, v, [';'], false, ['\n']⟩ r
  /-- The mark of a comment that the script ends in. -/
  | lastComment {v : Text} : Shape ⟨.comment, v, [';'], false, []⟩ []
  /-- An implied parenthesis and a dropped character. -/
  | dropped {c : Char} {r : Text} : c ≠ '(' → isLabel c = false →
      Shape ⟨.opening, ['('], [], true, [c]⟩ r
  /-- An implied parenthesis that the script ends in. -/
  | lastOpening : Shape ⟨.opening, ['('], [], true, []⟩ []

/-- Every rule reads a lexeme of some shape. That a label character is never dropped depends on
where the rule is used: directly behind a name, the text does not go on with it. -/
theorem Mode.Reads.shape {m : Mode} {t : Text} {r : Reading} (h : m.Reads t r)
    (hname : m = .afterName → Text.Stops isLabel t) : r.lexeme.Shape r.rest := by
  cases h with
  | eof | label | text | impliedClosing | param | emptyClosing | separator | closing =>
    exact .plain (by decide) (by decide) (by decide)
  | opening => exact .plain (by decide) (by decide) (fun _ => rfl)
  | name => exact .name
  | comment => exact .comment
  | lastComment => exact .lastComment
  | impliedOpening hc => exact .dropped hc (Text.stops_cons.mp (hname rfl))
  | lastOpening => exact .lastOpening

namespace Lexeme

variable {l : Lexeme} {r : Text}

theorem Shape.lead_of_name (h : l.Shape r) (hk : l.kind = .name) : l.lead = ['@'] := by
  cases h with
  | plain hname => exact absurd hk hname
  | name => rfl
  | comment | lastComment | dropped | lastOpening => cases hk

theorem Shape.around_of_comment (h : l.Shape r) (hk : l.kind = .comment) :
    l.lead = [';'] ∧ (l.trail = ['\n'] ∨ r = []) := by
  cases h with
  | plain _ hcomment => exact absurd hk hcomment
  | comment => exact ⟨rfl, .inl rfl⟩
  | lastComment => exact ⟨rfl, .inr rfl⟩
  | name | dropped | lastOpening => cases hk

theorem Shape.around_of_implied (h : l.Shape r) (hk : l.kind = .opening)
    (himp : l.implied = true) :
    l.lead = [] ∧ ((∃ c, l.trail = [c]) ∨ l.consumed = [] ∧ r = []) := by
  cases h with
  | plain _ _ hopen => exact absurd (himp.symm.trans (hopen hk)) (by decide)
  | @dropped c => exact ⟨rfl, .inl ⟨c, rfl⟩⟩
  | lastOpening => exact ⟨rfl, .inr ⟨rfl, rfl⟩⟩
  | name | comment | lastComment => cases hk

theorem Shape.consumed_of_touches (h : l.Shape r) {u s : Text} {file : Option String} {i : Nat}
    (hs : s = u ++ l.consumed ++ r) (ht : (l.token (Position.origin.after u) file).Touches s i) :
    u.length ≤ i ∧ i < u.length + l.consumed.length := by
  have hlen := l.length_consumed
  have hslen : s.length = u.length + l.consumed.length + r.length := by
    rw [hs, List.length_append, List.length_append]
  obtain ⟨role, hmark⟩ := ht
  cases role with
  | value =>
    obtain ⟨-, hstart, hstop⟩ := hmark
    rw [start_token] at hstart
    rw [stop_token] at hstop
    omega
  | nameMark =>
    -- the lead of a name is its mark, one character long
    obtain ⟨hk, hstart, -⟩ := hmark
    rw [start_token, h.lead_of_name hk, List.length_singleton] at hstart
    rw [h.lead_of_name hk, List.length_singleton] at hlen
    omega
  | commentMark =>
    obtain ⟨hk, hcase⟩ := hmark
    obtain ⟨hlead, htrail⟩ := h.around_of_comment hk
    rw [start_token, stop_token, hlead, List.length_singleton] at hcase
    rw [hlead, List.length_singleton] at hlen
    rcases hcase with ⟨hstart, -⟩ | ⟨hstop, hi⟩
    · omega
    · -- at the end of the script there is no character behind the comment
      have hi := (List.getElem?_eq_some_iff.mp hi).1
      rcases htrail with htrail | rfl
      · rw [htrail, List.length_singleton] at hlen
        omega
      · rw [List.length_nil] at hslen
        omega
  | dropped =>
    obtain ⟨hk, hsyn, hstart, c, hi, -⟩ := hmark
    rw [isSynthetic_token, Bool.and_eq_true] at hsyn
    obtain ⟨hlead, htrail⟩ := h.around_of_implied hk hsyn.1
    rw [start_token, hlead, List.length_nil] at hstart
    have hi := (List.getElem?_eq_some_iff.mp hi).1
    rcases htrail with ⟨c, htrail⟩ | ⟨hnil, rfl⟩
    · rw [htrail, List.length_singleton] at hlen
      omega
    · -- again there is no character left that could be dropped
      rw [hnil, List.append_nil, List.append_nil] at hs
      rw [hs] at hi
      omega
  | blank | paren => exact hmark.elim

/-- The character at a supplied parenthesis is the one that is dropped with it. -/
theorem Shape.dropsOther (h : l.Shape r) {u s : Text} {file : Option String}
    (hs : s = u ++ l.consumed ++ r) : (l.token (Position.origin.after u) file).DropsOther s := by
  intro hk hsyn i c hstart hi
  rw [isSynthetic_token, Bool.and_eq_true] at hsyn
  rw [start_token] at hstart
  cases h with
  | plain _ _ hopen => exact absurd (hsyn.1.symm.trans (hopen hk)) (by decide)
  | name | comment | lastComment => cases hk
  | @dropped d r hne hlabel =>
    obtain rfl : i = u.length := by simpa using Int.ofNat.inj hstart.symm
    have hchar : s[u.length]? = some d := by
      rw [hs]
      simp [consumed, body]
    rw [hchar] at hi
    cases hi
    exact ⟨hne, hlabel⟩
  | lastOpening =>
    -- the script has ended, and there is no character
    obtain rfl : i = u.length := by simpa using Int.ofNat.inj hstart.symm
    have hnone : s[u.length]? = none := by
      rw [hs]
      simp [consumed, body]
    rw [hnone] at hi
    cases hi

theorem marks_value {u s : Text} {file : Option String} {i : Nat}
    (hstart : u.length + l.lead.length ≤ i)
    (hstop : i < u.length + l.lead.length + l.body.length) :
    (l.token (Position.origin.after u) file).Marks s i .value := by
  refine ⟨?_, ?_, ?_⟩
  · rw [isSynthetic_token]
    cases himp : l.implied with
    | false => rfl
    | true =>
      -- an implied lexeme has no body
      rw [body, himp, if_pos rfl, List.length_nil] at hstop
      omega
  · rw [start_token]
    omega
  · rw [stop_token]
    omega

theorem Shape.touches_lead (h : l.Shape r) {u s : Text} {file : Option String} {i : Nat}
    (hs : s = u ++ l.consumed ++ r) (hle : u.length ≤ i) (hlt : i < u.length + l.lead.length) :
    (l.token (Position.origin.after u) file).Touches s i := by
  cases h with
  | plain | dropped | lastOpening =>
    rw [List.length_nil] at hlt
    omega
  | name =>
    rw [List.length_singleton] at hlt
    obtain rfl : i = u.length := by omega
    refine ⟨.nameMark, rfl, start_token .., ?_⟩
    rw [hs]
    simp [consumed]
  | comment | lastComment =>
    rw [List.length_singleton] at hlt
    obtain rfl : i = u.length := by omega
    refine ⟨.commentMark, rfl, .inl ⟨start_token .., ?_⟩⟩
    rw [hs]
    simp [consumed]

theorem Shape.length_trail_le (h : l.Shape r) : l.trail.length ≤ 1 := by
  cases h <;> simp

theorem Shape.touches_trail (h : l.Shape r) {u s : Text} {file : Option String} {i : Nat}
    (hs : s = u ++ l.consumed ++ r) (hle : u.length + l.lead.length + l.body.length ≤ i)
    (hlt : i < u.length + l.consumed.length) :
    (l.token (Position.origin.after u) file).Touches s i := by
  -- the trail is a single character, right behind the body
  have hlen := l.length_consumed
  have htrail := h.length_trail_le
  obtain ⟨c, hc⟩ : ∃ c, l.trail = [c] := List.length_eq_one_iff.mp (by omega)
  rw [hc, List.length_singleton] at hlen
  obtain rfl : i = u.length + l.lead.length + l.body.length := by omega
  have hchar : s[u.length + l.lead.length + l.body.length]? = some c := by
    rw [hs, consumed, hc, ← List.length_append, ← List.length_append]
    simp
  cases h with
  | plain | name | lastComment | lastOpening => cases hc
  | comment =>
    cases hc
    exact ⟨.commentMark, rfl, .inr ⟨stop_token .., hchar⟩⟩
  | dropped hne hlabel =>
    cases hc
    refine ⟨.dropped, rfl, ?_, start_token .., c, hchar, hne, hlabel⟩
    rw [isSynthetic_token]
    rfl

theorem Shape.touches_of_consumed (h : l.Shape r) {u s : Text} {file : Option String} {i : Nat}
    (hs : s = u ++ l.consumed ++ r) (hle : u.length ≤ i)
    (hlt : i < u.length + l.consumed.length) :
    (l.token (Position.origin.after u) file).Touches s i := by
  -- in front of the body, in it, or behind it
  by_cases hlead : i < u.length + l.lead.length
  · exact h.touches_lead hs hle hlead
  by_cases hbody : i < u.length + l.lead.length + l.body.length
  · exact ⟨.value, marks_value (by omega) hbody⟩
  · exact h.touches_trail hs (by omega) hlt

/-- **A token touches exactly what its lexeme consumes.** -/
theorem Shape.touches_token_iff (h : l.Shape r) {u s : Text} {file : Option String} {i : Nat}
    (hs : s = u ++ l.consumed ++ r) :
    (l.token (Position.origin.after u) file).Touches s i ↔
      u.length ≤ i ∧ i < u.length + l.consumed.length :=
  ⟨h.consumed_of_touches hs, fun hi => h.touches_of_consumed hs hi.1 hi.2⟩

end Lexeme

/-! ### One more token

A token that was read last neither touches the characters before it nor opens or closes a call
around them. -/

/-- Where one element is added to a list, every cut of the new list is a cut of the old one, or it
is at the new element. -/
theorem eq_append_cons_of_concat {ts us vs : List Token} {t t' : Token}
    (h : ts ++ [t'] = us ++ t :: vs) :
    (us = ts ∧ t = t' ∧ vs = []) ∨ ∃ ws, vs = ws ++ [t'] ∧ ts = us ++ t :: ws := by
  rcases List.eq_nil_or_concat vs with rfl | ⟨ws, x, rfl⟩
  · obtain ⟨hus, ht⟩ := List.append_inj' h rfl
    exact .inl ⟨hus.symm, (List.cons.inj ht).1.symm, rfl⟩
  · rw [List.concat_eq_append, ← List.cons_append, ← List.append_assoc] at h
    obtain ⟨hts, hx⟩ := List.append_inj' h rfl
    cases hx
    exact .inr ⟨ws, List.concat_eq_append, hts⟩

/-- A token behind an offset does not put the offset inside a call. -/
theorem InCall.of_concat {ts : List Token} {t : Token} {i : Nat}
    (hspan : t.location.start ≤ t.location.stop) (hi : i < t.location.start)
    (h : InCall (ts ++ [t]) i) : InCall ts i := by
  obtain ⟨us, o, vs, hcut, hk, hsyn, hstop, hclose⟩ := h
  rcases eq_append_cons_of_concat hcut with ⟨-, rfl, -⟩ | ⟨ws, rfl, hts⟩
  · omega
  · -- the call was open before, and whatever closes it is the same
    refine ⟨us, o, ws, hts, hk, hsyn, hstop, fun t' ht' => hclose t' ?_⟩
    rw [List.find?_append, ht']
    rfl

/-- All calls are closed: every opening parenthesis that the script writes has a closing one behind
it. -/
def CallsClosed (ts : List Token) : Prop :=
  ∀ us t vs, ts = us ++ t :: vs → t.kind = .opening → t.isSynthetic = false →
    ∃ t' ∈ vs, t'.kind = .closing

theorem callsClosed_concat_closing {ts : List Token} {t : Token} (hk : t.kind = .closing) :
    CallsClosed (ts ++ [t]) := by
  intro us o vs hcut ho _
  rcases eq_append_cons_of_concat hcut with ⟨-, rfl, -⟩ | ⟨ws, rfl, -⟩
  · rw [hk] at ho
    cases ho
  · exact ⟨t, List.mem_append_right _ (List.mem_singleton.mpr rfl), hk⟩

theorem CallsClosed.concat {ts : List Token} {t : Token} (h : CallsClosed ts)
    (hk : t.kind ≠ .opening) : CallsClosed (ts ++ [t]) := by
  intro us o vs hcut ho hsyn
  rcases eq_append_cons_of_concat hcut with ⟨-, rfl, -⟩ | ⟨ws, rfl, hts⟩
  · exact absurd ho hk
  · obtain ⟨t', ht', hclose⟩ := h us o ws hts ho hsyn
    exact ⟨t', List.mem_append_left _ ht', hclose⟩

/-- Behind all tokens, with all calls closed, no offset lies inside a call. -/
theorem CallsClosed.not_inCall {ts : List Token} {n i : Nat} (h : CallsClosed ts)
    (hspan : ∀ t ∈ ts, t.location.start ≤ t.location.stop ∧ t.location.stop ≤ n) (hi : n ≤ i) :
    ¬ InCall ts i := by
  rintro ⟨us, t, vs, rfl, hk, hsyn, -, hclose⟩
  obtain ⟨t', ht', hk'⟩ := h us t vs rfl hk hsyn
  -- the closing parenthesis that comes first behind `t` lies behind the offset, which it cannot
  obtain ⟨o, ho⟩ : ∃ o, vs.find? (·.kind == .closing) = some o := by
    rw [← Option.isSome_iff_exists, List.find?_isSome]
    exact ⟨t', ht', beq_iff_eq.mpr hk'⟩
  have hmem : o ∈ us ++ t :: vs :=
    List.mem_append_right _ (List.mem_cons_of_mem _ (List.mem_of_find?_eq_some ho))
  have hlt := hclose o ho
  have hle := hspan o hmem
  omega

/-! ### The invariant -/

/-- A character is accounted for: exactly one token touches it, or none does and it is layout. -/
def Accounted (s : Text) (ts : List Token) (i : Nat) : Prop :=
  (∃ us t vs, ts = us ++ t :: vs ∧ t.Touches s i ∧ ∀ t' ∈ us ++ vs, ¬ t'.Touches s i) ∨
    ((∀ t ∈ ts, ¬ t.Touches s i) ∧
      ∃ c, s[i]? = some c ∧ (isBlank c = true ∨ isParen c = true ∧ ¬ InCall ts i))

/-- **The invariant of accounting**, for the tokens so far and the cursor behind them. -/
structure Accounts (s : Text) (ts : List Token) (c : Cursor) : Prop where
  /-- Every span lies before the cursor. -/
  span : ∀ t ∈ ts, t.location.start ≤ t.location.stop ∧ t.location.stop ≤ c.place.offset
  /-- The spans are in order. -/
  ordered : ts.Pairwise fun t t' => t.location.stop ≤ t'.location.start
  /-- No token touches a character behind the cursor. -/
  ahead : ∀ t ∈ ts, ∀ i, c.place.offset ≤ i → ¬ t.Touches s i
  /-- No parenthesis is supplied where one is written. -/
  drops : ∀ t ∈ ts, t.DropsOther s
  /-- Outside of calls, all calls are closed. -/
  closed : c.mode = .topLevel → CallsClosed ts
  /-- Every character before the cursor is accounted for. -/
  accounted : ∀ i < c.place.offset, Accounted s ts i

theorem accounts_ofText (s : Text) : Accounts s [] (Cursor.ofText s) where
  span := fun _ ht => absurd ht List.not_mem_nil
  ordered := List.Pairwise.nil
  ahead := fun _ ht => absurd ht List.not_mem_nil
  drops := fun _ ht => absurd ht List.not_mem_nil
  closed := fun _ us t vs hcut => absurd hcut (by simp)
  accounted := fun i hi => absurd hi (Nat.not_lt_zero i)

theorem Mode.blank_or_paren_of_isLayout {m : Mode} {d : Char} (h : m.isLayout d = true) :
    isBlank d = true ∨ isParen d = true ∧ m = .topLevel := by
  cases m with
  | topLevel => exact (Bool.or_eq_true_iff.mp h).imp_right fun hp => ⟨hp, rfl⟩
  | inList | afterParam => exact .inl h
  | afterName | impliedClose => cases h

theorem Cursor.StandsIn.mem_layout {c : Cursor} {s : Text} (h : c.StandsIn s) {i : Nat}
    (hle : c.place.offset ≤ i) (hlt : i < c.place.offset + c.layout.length) :
    ∃ d ∈ c.layout, s[i]? = some d := by
  obtain ⟨t, hs, hp⟩ := h
  rw [Cursor.offset_of_place hp] at hle hlt
  have hk : i - t.length < c.layout.length := by omega
  refine ⟨c.layout[i - t.length], List.getElem_mem hk, ?_⟩
  rw [hs, ← c.layout_append_settle, List.getElem?_append_right hle, List.getElem?_append_left hk]
  exact List.getElem?_eq_getElem hk

/-- **Passing over layout keeps the accounts.** -/
theorem Accounts.settle {s : Text} {ts : List Token} {c : Cursor} (h : Accounts s ts c)
    (hin : c.StandsIn s) : Accounts s ts c.settle := by
  have hoff : c.settle.place.offset = c.place.offset + c.layout.length := by
    rw [Cursor.settle, Position.offset_after]
  refine ⟨?_, h.ordered, ?_, h.drops, h.closed, ?_⟩
  · intro t ht
    have hspan := h.span t ht
    omega
  · intro t ht i hi
    exact h.ahead t ht i (by omega)
  · intro i hi
    by_cases hold : i < c.place.offset
    · exact h.accounted i hold
    · -- a new character is layout, and no token so far reaches it
      have hle : c.place.offset ≤ i := by omega
      obtain ⟨d, hd, hchar⟩ := hin.mem_layout hle (by omega)
      refine .inr ⟨fun t ht => h.ahead t ht i hle, d, hchar, ?_⟩
      rcases Mode.blank_or_paren_of_isLayout (Cursor.isLayout_of_mem_layout hd) with hb | ⟨hp, hm⟩
      · exact .inl hb
      · exact .inr ⟨hp, (h.closed hm).not_inCall h.span hle⟩

/-- A token that does not reach a character leaves it accounted for. -/
theorem Accounted.concat {s : Text} {ts : List Token} {t : Token} {i : Nat}
    (h : Accounted s ts i) (hspan : t.location.start ≤ t.location.stop)
    (hi : i < t.location.start) (ht : ¬ t.Touches s i) : Accounted s (ts ++ [t]) i := by
  rcases h with ⟨us, o, vs, rfl, ho, hothers⟩ | ⟨hnone, d, hd, hlayout⟩
  · refine .inl ⟨us, o, vs ++ [t], by simp, ho, fun t' ht' => ?_⟩
    rw [← List.append_assoc] at ht'
    rcases List.mem_append.mp ht' with ht' | ht'
    · exact hothers t' ht'
    · rw [List.mem_singleton.mp ht']
      exact ht
  · refine .inr ⟨fun t' ht' => ?_, d, hd, hlayout.imp_right fun hp => ⟨hp.1, fun hc => ?_⟩⟩
    · rcases List.mem_append.mp ht' with ht' | ht'
      · exact hnone t' ht'
      · rw [List.mem_singleton.mp ht']
        exact ht
    · exact hp.2 (hc.of_concat hspan hi)

/-- **Reading a lexeme keeps the accounts**, once the layout before it has been passed over. -/
theorem Accounts.read {s u : Text} {ts : List Token} {c next : Cursor} {l : Lexeme}
    {file : Option String} (h : Accounts s ts c) (hs : s = u ++ l.consumed ++ next.rest)
    (hc : c.place.offset = u.length) (hnext : next.place.offset = u.length + l.consumed.length)
    (hshape : l.Shape next.rest)
    (hclosed : next.mode = .topLevel → l.kind = .closing ∨ c.mode = .topLevel ∧ l.kind ≠ .opening) :
    Accounts s (ts ++ [l.token (Position.origin.after u) file]) next := by
  have hlen := l.length_consumed
  have hstart := l.start_token u file
  have hstop := l.stop_token u file
  have htouch : ∀ i, (l.token (Position.origin.after u) file).Touches s i ↔
      u.length ≤ i ∧ i < u.length + l.consumed.length := fun i => hshape.touches_token_iff hs
  refine ⟨?_, ?_, ?_, ?_, ?_, ?_⟩
  · intro t ht
    rcases List.mem_append.mp ht with ht | ht
    · have hspan := h.span t ht
      omega
    · rw [List.mem_singleton.mp ht]
      omega
  · refine List.pairwise_append.mpr ⟨h.ordered, List.pairwise_singleton .., fun t ht t' ht' => ?_⟩
    have hspan := h.span t ht
    rw [List.mem_singleton.mp ht']
    omega
  · intro t ht i hi
    rcases List.mem_append.mp ht with ht | ht
    · exact h.ahead t ht i (by omega)
    · rw [List.mem_singleton.mp ht, htouch]
      omega
  · intro t ht
    rcases List.mem_append.mp ht with ht | ht
    · exact h.drops t ht
    · rw [List.mem_singleton.mp ht]
      exact hshape.dropsOther hs
  · intro hm
    rcases hclosed hm with hk | ⟨hm', hk⟩
    · exact callsClosed_concat_closing hk
    · exact (h.closed hm').concat hk
  · intro i hi
    by_cases hold : i < u.length
    · -- the new token starts behind the character: it does not touch it, nor open a call before it
      refine (h.accounted i (by omega)).concat (by omega) (by omega) ?_
      rw [htouch]
      omega
    · -- the lexeme consumes the character, and no token before it does
      refine .inl ⟨ts, _, [], rfl, (htouch i).mpr (by omega), fun t' ht' => ?_⟩
      rw [List.append_nil] at ht'
      exact h.ahead t' ht' i (by omega)

/-- Reading leads out of a call by a closing parenthesis only, and stays outside of calls as long as
none is opened. -/
theorem Mode.Reads.closing_of_topLevel {m : Mode} {t : Text} {r : Reading} (h : m.Reads t r)
    (hm : r.mode = .topLevel) :
    r.lexeme.kind = .closing ∨ m = .topLevel ∧ r.lexeme.kind ≠ .opening := by
  cases h with
  | eof | label | comment | lastComment | text => exact .inr ⟨rfl, by simp⟩
  | impliedClosing | emptyClosing | closing => exact .inl rfl
  | name | opening | impliedOpening | lastOpening | param | separator => cases hm

/-- **Along every run, the accounts are kept.** -/
theorem Cursor.Run.accounts {file : Option String} {s : Text} {ts : List Token} {c : Cursor}
    (h : Cursor.Run file s ts c) : Accounts s ts c := by
  induction h with
  | start => exact accounts_ofText s
  | @read ts c next l p hrun hadv ih =>
    obtain ⟨t, hs, -, rfl, hnext⟩ := hrun.standsIn.exists_of_read hadv
    obtain ⟨hp, -, hreads⟩ := advance_eq_read_iff.mp hadv
    have hname : c.mode = .afterName → Text.Stops isLabel c.settle.rest := by
      intro hm
      -- behind a name there is no layout
      have hsettled : c.settle.rest = c.rest := by
        rw [settle, hm]
        exact Text.Stops.dropWhile_eq fun _ _ => rfl
      rw [hsettled]
      exact hrun.stops_of_afterName hm
    -- one advance is two steps of the invariant: layout, and a lexeme
    refine (ih.settle hrun.standsIn).read hs ?_ ?_ (hreads.shape hname) hreads.closing_of_topLevel
    · exact offset_of_place hp.symm
    · rw [offset_of_place hnext, List.length_append]
  | stuck hrun hadv ih =>
    obtain ⟨rfl, -⟩ := advance_eq_stuck_iff.mp hadv
    exact ih.settle hrun.standsIn

/-! ### Exactly one role -/

theorem Plays.marks_or_layout {s : Text} {ts : List Token} {i : Nat} {r : Role}
    (h : Plays s ts i r) :
    (∃ t ∈ ts, t.Marks s i r) ∨ ((∀ t ∈ ts, ¬ t.Touches s i) ∧ (r = .blank ∨ r = .paren)) := by
  cases r with
  | value =>
    obtain ⟨us, t, vs, rfl, hmark, -⟩ := h
    exact .inl ⟨t, List.mem_append_right _ List.mem_cons_self, hmark⟩
  | nameMark | commentMark | dropped => exact .inl h
  | blank => exact .inr ⟨h.1, .inl rfl⟩
  | paren => exact .inr ⟨h.1, .inr rfl⟩

/-- **A character that is accounted for plays exactly one role.** -/
theorem Accounted.existsUnique_plays {s : Text} {ts : List Token} {i : Nat}
    (h : Accounted s ts i) : ∃! r, Plays s ts i r := by
  rcases h with ⟨us, t, vs, rfl, ⟨r, hmark⟩, hothers⟩ | ⟨hnone, d, hd, hlayout⟩
  · have hmem : t ∈ us ++ t :: vs := List.mem_append_right _ List.mem_cons_self
    refine ⟨r, ?_, fun r' hr' => ?_⟩
    · -- the role that its only token gives to the character
      cases r with
      | value => exact ⟨us, t, vs, rfl, hmark, fun t' ht' hm => hothers t' ht' ⟨_, hm⟩⟩
      | nameMark | commentMark | dropped => exact ⟨t, hmem, hmark⟩
      | blank | paren => exact hmark.elim
    · rcases hr'.marks_or_layout with ⟨t', ht', hmark'⟩ | ⟨hnone, -⟩
      · -- the only token that touches the character is `t`
        obtain rfl : t' = t := by
          by_contra hne
          refine hothers t' ?_ ⟨_, hmark'⟩
          rcases List.mem_append.mp ht' with ht' | ht'
          · exact List.mem_append_left _ ht'
          · exact List.mem_append_right _ (List.mem_of_ne_of_mem hne ht')
        exact hmark'.unique hmark
      · exact absurd ⟨r, hmark⟩ (hnone t hmem)
  · -- without a token there are only the two roles of layout
    have hlayer : ∀ r, Plays s ts i r → r = .blank ∨ r = .paren := by
      intro r hr
      rcases hr.marks_or_layout with ⟨t, ht, hmark⟩ | ⟨-, hr⟩
      · exact absurd ⟨r, hmark⟩ (hnone t ht)
      · exact hr
    -- no character is a blank and a parenthesis
    rcases hlayout with hb | ⟨hp, hcall⟩
    · refine ⟨.blank, ⟨hnone, d, hd, hb⟩, fun r hr => (hlayer r hr).resolve_right ?_⟩
      rintro rfl
      obtain ⟨-, ⟨d', hd', hp⟩, -⟩ := hr
      rw [hd, Option.some.injEq] at hd'
      rw [hd', isBlank_of_isParen hp] at hb
      cases hb
    · refine ⟨.paren, ⟨hnone, ⟨d, hd, hp⟩, hcall⟩, fun r hr => (hlayer r hr).resolve_left ?_⟩
      rintro rfl
      obtain ⟨-, d', hd', hb⟩ := hr
      rw [hd, Option.some.injEq] at hd'
      rw [← hd', isBlank_of_isParen hp] at hb
      cases hb

/-- A token that stands in what was passed of a script covers a part of it, which is its value
unless it is synthetic. -/
theorem Token.StandsIn.slice {t : Token} {s : Text} {n : Nat} (h : t.StandsIn (s.take n)) :
    ∃ a b : Nat, t.location.start = a ∧ t.location.stop = b ∧ a ≤ b ∧ b ≤ n ∧
      (t.isSynthetic = false → (s.take b).drop a = t.value) := by
  obtain ⟨u, v, w, hs, hloc, hval⟩ := h
  have hlen : u.length + v.length ≤ n := by
    have hle := List.length_take_le n s
    rw [hs, List.length_append, List.length_append] at hle
    omega
  refine ⟨u.length, u.length + v.length, ?_, ?_, Nat.le_add_right .., hlen, fun hsyn => ?_⟩
  · rw [hloc, Location.start_ofSpan, Position.offset_after]
    simp [Position.origin]
  · rw [hloc, Location.stop_ofSpan, Position.offset_after]
    simp [Position.origin]
  · have htake : s.take (u.length + v.length) = u ++ v := by
      calc s.take (u.length + v.length)
          = (s.take n).take (u.length + v.length) := by rw [List.take_take, Nat.min_eq_left hlen]
        _ = (u ++ v ++ w).take (u ++ v).length := by rw [hs, List.length_append]
        _ = u ++ v := List.take_left
    rw [htake, List.drop_left, hval hsyn]

/-- **Every character is accounted for.** Along every run of a lexer on a script, no matter how many
pops failed, the spans of the tokens lie before the cursor, in order and apart from each other, a
token that is not synthetic has as its value the part of the script that it covers, and every
character before the cursor plays exactly one role. Where an opening parenthesis is supplied, the
script has ended or goes on with a character that is neither that parenthesis nor a label
character. -/
theorem characters_accounted {src : Source} {s : Text} {ts : List Token} {l : Lexer}
    (h : Lexer.Run src s ts l) :
    (∀ t ∈ ts, ∃ a b : Nat, t.location.start = a ∧ t.location.stop = b ∧ a ≤ b ∧
      b ≤ l.cursor.place.offset ∧ (t.isSynthetic = false → (s.take b).drop a = t.value)) ∧
    (ts.Pairwise fun t t' => t.location.stop ≤ t'.location.start) ∧
    (l.cursor.place.offset ≤ s.length ∧
      ∀ i < l.cursor.place.offset, ∃! r, Plays s ts i r) ∧
    (∀ t ∈ ts, t.kind = .opening → t.isSynthetic = true →
      ∀ (i : Nat) (c : Char), t.location.start = i → s[i]? = some c →
        c ≠ '(' ∧ isLabel c = false) := by
  obtain ⟨-, -, hcur⟩ := h.cursor
  have haccounts := hcur.accounts
  refine ⟨fun t ht => (hcur.token_standsIn t ht).slice, haccounts.ordered,
    ⟨hcur.standsIn.offset_le, fun i hi => ?_⟩, haccounts.drops⟩
  exact (haccounts.accounted i hi).existsUnique_plays

/-- A call without parentheses and a stray one behind it: all five characters are accounted for, the
semicolon among them, which stands where the parenthesis was supplied. -/
theorem characters_accounted_bare_call :
    ∃ ts l, Lexer.Run ⟨none, true⟩ ['@', 'a', ';', '(', 'b'] ts l ∧ l.cursor.place.offset = 5 ∧
      (∃! r, Plays ['@', 'a', ';', '(', 'b'] ts 2 r) ∧
      ∃ t ∈ ts, t.kind = .opening ∧ t.isSynthetic = true ∧ t.location.start = 2 ∧
        ∀ c, ['@', 'a', ';', '(', 'b'][2]? = some c → c ≠ '(' ∧ isLabel c = false := by
  have hopen : Lexer.ofText ⟨none, true⟩ ['@', 'a', ';', '(', 'b'] =
      .ok ⟨⟨none, true⟩, ⟨⟨2, 1, 3⟩, [';', '(', 'b'], .afterName⟩,
        ⟨.name, ['a'], .ofSpan ⟨1, 1, 2⟩ 1 none⟩⟩ := rfl
  have hrun := (((Lexer.Run.opened hopen).popped rfl).popped rfl).popped rfl
  obtain ⟨-, -, ⟨-, hplays⟩, hdrops⟩ := characters_accounted hrun
  refine ⟨_, _, hrun, rfl, hplays 2 (by decide), ⟨.opening, ['('], .ofSpan ⟨2, 1, 3⟩ 0 none⟩,
    .tail _ (.head _), rfl, rfl, rfl, ?_⟩
  intro c hc
  exact hdrops ⟨.opening, ['('], .ofSpan ⟨2, 1, 3⟩ 0 none⟩ (.tail _ (.head _)) rfl rfl 2 c rfl hc

end Dialogue
