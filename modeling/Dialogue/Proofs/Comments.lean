import Dialogue.Proofs.Lookahead

/-!
# Comments have no influence

Whether a semicolon starts a comment depends on everything before it. It may also be part of free
text or of a parameter, or be dropped behind a name. But once it does start a comment, the body of
the comment has no influence on anything else: it can be exchanged for any other text without a line
feed, whatever marks are in it (`comment_body_inert`). The tokens before the comment stay as they
are. Those behind it stay on their lines and in their columns, since the comment ends its line, and
are moved by as many characters as the body has become longer or shorter.

Before the comment, this is a matter of looking ahead: the mark is still there
(`Source.course_exchange`). Behind it, both scripts go on with the same text at the start of a line,
and its course is the same there but for the offset (`Source.course_of_comment`).
-/

namespace Dialogue

/-- A token with another value in the place where it starts. -/
def Token.withBody (v : Text) (t : Token) : Token :=
  { t with value := v, location := { t.location with stop := t.location.start + v.length } }

/-- A token that is moved by so many characters on its line. -/
def Token.slide (n : Int) (t : Token) : Token :=
  { t with location := { t.location with
      start := t.location.start + n
      stop := t.location.stop + n } }

theorem Token.slide_shift {n : Int} {i j : Nat} (h : (j : Int) = i + n) (lines : Nat) (t : Token) :
    (t.shift i lines).slide n = t.shift j lines := by
  unfold Token.slide Token.shift
  simp only [h, Int.add_assoc]

/-- What is reported of a fault does not show its offset. -/
theorem Fault.report_shift (i j lines : Nat) (f : Fault) :
    (f.shift i lines).report = (f.shift j lines).report := rfl

/-- The comment with this body whose mark is at a position. -/
def Token.comment (p : Position) (v : Text) (file : Option String) : Token :=
  (⟨.comment, v, [';'], false, ['\n']⟩ : Lexeme).token p file

theorem Token.withBody_comment (p : Position) (v v' : Text) (file : Option String) :
    (Token.comment p v file).withBody v' = Token.comment p v' file := rfl

theorem Position.after_comment {a v : Text} (hv : '\n' ∉ v) :
    (origin.after a).after (';' :: v ++ ['\n']) =
      ⟨a.length + v.length + 2, a.count '\n' + 1 + 1, 1⟩ := by
  have hlines : (a ++ ';' :: v).count '\n' = a.count '\n' := by
    rw [List.count_append, List.count_cons_of_ne (by decide), List.count_eq_zero.mpr hv]
    rfl
  have hlength : (a ++ ';' :: v).length + 1 = a.length + v.length + 2 := by
    rw [List.length_append, List.length_cons]
    omega
  calc (origin.after a).after (';' :: v ++ ['\n'])
      = (origin.after (a ++ ';' :: v)).step '\n' := by
        rw [after_append, after_append]
        rfl
    _ = ⟨a.length + v.length + 2, a.count '\n' + 1 + 1, 1⟩ := by
        rw [step_after_origin, hlines, hlength]

/-- **The course of a script with a comment**, for every body that the comment may have: the same
tokens before it, the comment, and the course of the lines behind it. -/
theorem Source.course_of_comment {src : Source} {a x : Text} {ts us : List Token} {t : Token}
    (hcut : (src.course (a ++ ';' :: x)).tokens = ts ++ t :: us) (hk : t.kind = .comment)
    (hstart : t.location.start = (a.length + 1 : Nat)) {v : Text} (hv : '\n' ∉ v) (b : Text) :
    src.course (a ++ ';' :: (v ++ '\n' :: b)) =
      ⟨ts ++ Token.comment (Position.origin.after a) v src.file ::
          (src.course b).tokens.map (Token.shift (a.length + v.length + 2) (a.count '\n' + 1)),
        (src.course b).fault.map (Fault.shift (a.length + v.length + 2) (a.count '\n' + 1))⟩ := by
  have hline : ∀ d ∈ v, d ≠ '\n' := fun d hd heq => hv (heq ▸ hd)
  rw [Source.course_exchange hcut (.inr hk) hstart (.comment hline) rfl Kind.noConfusion]
  show Course.behind _ ((⟨(Position.origin.after a).after (';' :: v ++ ['\n']), b,
    .topLevel⟩ : Cursor).course src.file) = _
  rw [Position.after_comment hv, Cursor.course_lineStart, Source.course_eq]
  unfold Course.behind
  rw [List.append_assoc]
  rfl

/-- **The body of a comment has no influence.** Let a script have a comment with its mark behind
`a`, and let `c` be what stands between the mark and the end of the line. Then `c` is the value of
the comment; and with any other text `c'` without a line feed in its place, the script has the same
tokens before the comment, the comment with `c'` as its value in the same place, and the tokens
behind it with their lines and columns, their offsets moved by the difference in length. It ends in
the same way, and a fault is reported with the same category, message, line and column. -/
theorem comment_body_inert (src : Source) (a b c c' : Text) (hc : '\n' ∉ c) (hc' : '\n' ∉ c')
    (ts us : List Token) (t : Token)
    (hcut : (src.course (a ++ ';' :: (c ++ '\n' :: b))).tokens = ts ++ t :: us)
    (hk : t.kind = .comment) (hstart : t.location.start = (a.length + 1 : Nat)) :
    t.value = c ∧
      (src.course (a ++ ';' :: (c' ++ '\n' :: b))).tokens =
        ts ++ t.withBody c' :: us.map (Token.slide (c'.length - c.length)) ∧
      (src.course (a ++ ';' :: (c' ++ '\n' :: b))).fault.map Fault.report =
        (src.course (a ++ ';' :: (c ++ '\n' :: b))).fault.map Fault.report := by
  have hcourse := Source.course_of_comment hcut hk hstart hc b
  have hcourse' := Source.course_of_comment hcut hk hstart hc' b
  -- what the tokens are is known, so they are known as they were given
  rw [hcourse] at hcut
  obtain ⟨rfl, rfl⟩ := List.cons.inj (List.append_cancel_left hcut)
  refine ⟨rfl, ?_, ?_⟩
  · have hslide : Token.slide (c'.length - c.length) ∘
        Token.shift (a.length + c.length + 2) (a.count '\n' + 1) =
          Token.shift (a.length + c'.length + 2) (a.count '\n' + 1) := by
      funext t
      apply Token.slide_shift
      omega
    rw [hcourse', Token.withBody_comment, List.map_map, hslide]
  · rw [hcourse, hcourse', Option.map_map, Option.map_map]
    apply congrArg (fun g => Option.map g (src.course b).fault)
    funext f
    exact f.report_shift _ _ _

/-- An empty comment behind a label, and a stray comma on the next line. With a body full of marks
in the comment, the comma is moved by three characters and reported as before. -/
theorem comment_body_inert_marks :
    ∃ ts us t, (Source.course ⟨none, true⟩ ['A', ';', '\n', ',']).tokens = ts ++ t :: us ∧
      t.kind = .comment ∧ t.location.start = 2 ∧
      (Source.course ⟨none, true⟩ ['A', ';', '@', '(', ';', '\n', ',']).tokens =
        ts ++ t.withBody ['@', '(', ';'] :: us.map (Token.slide 3) ∧
      (Source.course ⟨none, true⟩ ['A', ';', '@', '(', ';', '\n', ',']).fault.map Fault.report =
        some ⟨.unexpected, Cause.strayComma.message, some 2, some 1, none⟩ := by
  have hcourse : Source.course ⟨none, true⟩ ['A', ';', '\n', ','] =
      ⟨[⟨.label, ['A'], .ofSpan .origin 1 none⟩, ⟨.comment, [], .ofSpan ⟨2, 1, 3⟩ 0 none⟩],
        some ⟨.strayComma, ⟨3, 2, 1⟩, none⟩⟩ := by
    have hlabel : (Cursor.ofText ['A', ';', '\n', ',']).advance =
      .read ⟨.label, ['A'], [], false, []⟩ .origin
        ⟨⟨1, 1, 2⟩, [';', '\n', ','], .topLevel⟩ := rfl
    have hcomment : (⟨⟨1, 1, 2⟩, [';', '\n', ','], .topLevel⟩ : Cursor).advance =
      .read ⟨.comment, [], [';'], false, ['\n']⟩ ⟨1, 1, 2⟩ ⟨⟨3, 2, 1⟩, [','], .topLevel⟩ := rfl
    have hcomma : (⟨⟨3, 2, 1⟩, [','], .topLevel⟩ : Cursor).advance =
      .stuck .strayComma ⟨⟨3, 2, 1⟩, [','], .topLevel⟩ := rfl
    rw [Source.course_eq, Cursor.course_of_read hlabel Kind.noConfusion,
      Cursor.course_of_read hcomment Kind.noConfusion, Cursor.course_of_stuck hcomma]
    rfl
  have hcut := congrArg Course.tokens hcourse
  obtain ⟨-, htokens, hfault⟩ := comment_body_inert ⟨none, true⟩ ['A'] [','] [] ['@', '(', ';']
    (by decide) (by decide) [_] [] _ hcut rfl rfl
  refine ⟨_, _, _, hcut, rfl, rfl, htokens, hfault.trans ?_⟩
  exact congrArg (fun c => c.fault.map Fault.report) hcourse

end Dialogue
