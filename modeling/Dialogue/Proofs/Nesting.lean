import Dialogue.Session

/-!
# Blocks of settings

A session enters and leaves scopes by single commands. Programs use them in *blocks*: a scope is
entered, a body is run, and the scope is left behind it, whichever way the body has ended. A body
ends early when one of its commands fails, or at will; this ends all blocks around it as well, up to
the place where it is put up with. `Program.execute` runs such a program on a session.

What the settings are at some moment should be plain from the text of the program: those that were
put in force last at the current level of nesting or, if there are none, those that the level was
entered with. `Level` is the record that this is read off. It holds what the level was entered with
and the commands that were run directly at it. A block inside has a record of its own, and behind
the block the record of the level is what it was before the block: it says nothing of what the block
did. The records are kept beside the session, and no command looks at them.

* Only the commands that enter and leave change the settings to come back to; every other command
  puts settings in force or leaves them alone (`Session.scopes_run`).
* So the body of a block ends with the settings to come back to that it started with
  (`Program.outer_execute`), however deep it was nested and wherever it broke off, and leaving the
  block brings them back (`Program.scopes_block`).
* The settings in force are those that the record tells, at every moment of a program
  (`blocks_restore_settings`).
-/

namespace Dialogue

namespace Command

/-- Whether a command enters or leaves a scope. -/
def movesScope : Command → Bool
  | enter _ | leave => true
  | _ => false

/-- The settings that a command puts in force without entering a scope, if there are any. -/
def puts? : Command → Option Config
  | set c => some c
  | reset => some .default
  | _ => none

end Command

/-! ### Programs -/

/-- **A program** over a session. Scopes are entered and left by blocks only. -/
inductive Program where
  /-- Nothing is done. -/
  | done
  /-- One command is run. If it fails, the program breaks off. -/
  | call (command : Command) (h : command.movesScope = false)
  /-- The program breaks off. -/
  | raise
  /-- One program is run and then another, unless the first breaks off. -/
  | seq (first second : Program)
  /-- A scope is entered, a program is run and the scope is left. If the program breaks off, the
  scope is left all the same, and the block breaks off too. -/
  | block (config : Config) (body : Program)
  /-- A program is run, and if it breaks off, this is put up with. -/
  | attempt (body : Program)

/-- **The record of a level of nesting.** -/
structure Level where
  /-- The settings that the level was entered with. -/
  entry : Config
  /-- The commands that were run directly at the level since then, in order. -/
  direct : List Command

namespace Level

/-- The record with one more command. -/
def add (l : Level) (command : Command) : Level :=
  { l with direct := l.direct ++ [command] }

/-- **The settings that a record tells**: those that were put in force last, directly at the level,
or else those that the level was entered with. -/
def settings (l : Level) : Config :=
  (l.direct.reverse.findSome? Command.puts?).getD l.entry

@[simp] theorem settings_nil (c : Config) : (⟨c, []⟩ : Level).settings = c := rfl

/-- A command that puts settings in force hides all that were put before it. -/
theorem settings_add (l : Level) (command : Command) :
    (l.add command).settings = command.puts?.getD l.settings := by
  unfold settings add
  rw [List.reverse_concat, List.findSome?_cons]
  cases command.puts? <;> rfl

end Level

/-- **A moment of a program**: the record of the current level, and the session. -/
structure Moment where
  /-- The record of the current level. -/
  level : Level
  /-- The session. -/
  session : Session

namespace Moment

/-- The moment before a program, outside of all blocks. -/
def start : Moment :=
  ⟨⟨.default, []⟩, {}⟩

/-- The moment behind a command at the same level. -/
def call (m : Moment) (command : Command) : Moment :=
  ⟨m.level.add command, (m.session.run command).session⟩

/-- The moment behind the entry of a block. -/
def enter (m : Moment) (config : Config) : Moment :=
  ⟨⟨config, []⟩, (m.session.run (.enter config)).session⟩

/-- The moment behind a block that was entered at `m` and whose body has ended at `inner`. -/
def leave (m inner : Moment) : Moment :=
  ⟨m.level, (inner.session.run .leave).session⟩

end Moment

/-- **What the execution of a program comes to.** -/
structure Execution where
  /-- The moments behind each single step, in order. -/
  moments : List Moment
  /-- The moment at which it ends. -/
  final : Moment
  /-- Whether it broke off. -/
  raised : Bool

/-- **The execution of a program** from some moment on. -/
def Program.execute : Program → Moment → Execution
  | done, m => ⟨[], m, false⟩
  | call command _, m => ⟨[m.call command], m.call command, !(m.session.run command).reply.isOk⟩
  | raise, m => ⟨[], m, true⟩
  | seq p q, m =>
    let e := p.execute m
    if e.raised then e
    else
      let e' := q.execute e.final
      ⟨e.moments ++ e'.moments, e'.final, e'.raised⟩
  | block config body, m =>
    let e := body.execute (m.enter config)
    ⟨m.enter config :: e.moments ++ [m.leave e.final], m.leave e.final, e.raised⟩
  | attempt body, m => { body.execute m with raised := false }

/-! ### What a command does to the settings -/

namespace Session

variable {s : Session}

/-- What is done with a lexer leaves the settings alone. -/
theorem scopes_withLexer (i? : Option Nat) {act : Nat → Lexer → Outcome}
    (h : ∀ i l, (act i l).session.scopes = s.scopes) :
    (s.withLexer i? act).session.scopes = s.scopes := by
  unfold withLexer
  split
  · exact h _ _
  · rfl

/-- So does opening one, even if it fails. -/
theorem scopes_ofOpening (name : String) (notes : List Note) (opened : Except Rejection Lexer) :
    (s.ofOpening name notes opened).session.scopes = s.scopes := by
  cases opened <;> rfl

theorem scopes_readNext (reader : String) : (s.readNext reader).session.scopes = s.scopes := by
  unfold readNext
  split
  · rfl
  · exact scopes_withLexer _ fun _ _ => rfl

/-- **A command that stays in its scope** may put settings in force, and does nothing else to
them. -/
theorem scopes_run {command : Command} (h : command.movesScope = false) (s : Session) :
    (s.run command).session.scopes = ⟨command.puts?.getD s.scopes.current, s.scopes.outer⟩ := by
  cases command with
  | enter | leave => exact absurd h Bool.noConfusion
  | set | reset | settings | freshSettings | decode => rfl
  | openText | openBytes => exact scopes_ofOpening _ _ _
  | look | pop | next | take | drain | tokenize | makeReader =>
    exact scopes_withLexer _ fun _ _ => rfl
  | read reader => exact scopes_readNext reader

end Session

/-! ### What a program does to the settings -/

namespace Program

variable {p q : Program} {m : Moment}

theorem execute_seq_of_raised (h : (p.execute m).raised = true) :
    (seq p q).execute m = p.execute m :=
  if_pos h

theorem execute_seq_of_ended (h : (p.execute m).raised = false) :
    (seq p q).execute m =
      ⟨(p.execute m).moments ++ (q.execute (p.execute m).final).moments,
        (q.execute (p.execute m).final).final, (q.execute (p.execute m).final).raised⟩ :=
  if_neg (h ▸ Bool.noConfusion)

/-- **A program ends among the scopes that it started in**, whether it breaks off or not. -/
theorem outer_execute (p : Program) (m : Moment) :
    (p.execute m).final.session.scopes.outer = m.session.scopes.outer := by
  induction p generalizing m with
  | done | raise => rfl
  | call command h =>
    show (m.session.run command).session.scopes.outer = _
    rw [Session.scopes_run h]
  | seq p q ihp ihq =>
    cases h : (p.execute m).raised with
    | true =>
      -- the second program is not run
      rw [execute_seq_of_raised h, ihp]
    | false =>
      rw [execute_seq_of_ended h]
      exact (ihq _).trans (ihp m)
  | block config body ih =>
    -- the body ends with one more scope than the block started in, and that one is left
    show (body.execute (m.enter config)).final.session.scopes.leave.outer = _
    rw [Scopes.leave, ih]
    rfl
  | attempt body ih => exact ih m

/-- **A block brings the settings back**, with all that there is to come back to. -/
theorem scopes_block (config : Config) (body : Program) (m : Moment) :
    ((block config body).execute m).final.session.scopes = m.session.scopes := by
  show (body.execute (m.enter config)).final.session.scopes.leave = _
  rw [Scopes.leave, outer_execute]
  rfl

end Program

/-- **A moment is sound** when the settings in force are those that its record tells. -/
def Moment.Sound (m : Moment) : Prop :=
  m.session.scopes.current = m.level.settings

namespace Moment

variable {m : Moment}

theorem sound_start : start.Sound := rfl

/-- A command changes the record and the settings in force in the same way. -/
theorem Sound.call (h : m.Sound) {command : Command} (hc : command.movesScope = false) :
    (m.call command).Sound := by
  unfold Sound Moment.call at *
  rw [Session.scopes_run hc, Level.settings_add, h]

theorem sound_enter (m : Moment) (config : Config) : (m.enter config).Sound := rfl

end Moment

/-- **Soundness is kept by a program**, at every moment and at its end. -/
theorem Program.sound_execute (p : Program) {m : Moment} (h : m.Sound) :
    (∀ m' ∈ (p.execute m).moments, m'.Sound) ∧ (p.execute m).final.Sound := by
  induction p generalizing m with
  | done | raise => exact ⟨nofun, h⟩
  | call command hc =>
    refine ⟨fun m' hm' => ?_, h.call hc⟩
    rw [List.mem_singleton.mp hm']
    exact h.call hc
  | seq p q ihp ihq =>
    obtain ⟨hfirst, hfinal⟩ := ihp h
    cases hr : (p.execute m).raised with
    | true =>
      rw [execute_seq_of_raised hr]
      exact ⟨hfirst, hfinal⟩
    | false =>
      obtain ⟨hsecond, hend⟩ := ihq hfinal
      rw [execute_seq_of_ended hr]
      refine ⟨fun m' hm' => ?_, hend⟩
      exact (List.mem_append.mp hm').elim (hfirst m') (hsecond m')
  | block config body ih =>
    -- the block starts a record of its own, which is sound whatever that of the level says
    obtain ⟨hbody, -⟩ := ih (m.sound_enter config)
    -- behind the block the settings are back, and the record was not touched
    have hleft : (m.leave (body.execute (m.enter config)).final).Sound := by
      show ((block config body).execute m).final.session.scopes.current = m.level.settings
      rw [scopes_block, h]
    refine ⟨fun m' hm' => ?_, hleft⟩
    rcases List.mem_append.mp hm' with hm' | hm'
    · rcases List.mem_cons.mp hm' with rfl | hm'
      · exact m.sound_enter config
      · exact hbody m' hm'
    · rw [List.mem_singleton.mp hm']
      exact hleft
  | attempt body ih => exact ih h

/-- **Blocks restore the settings.** Behind a block the settings are those that were in force before
it, and so is all that there is to come back to, whatever the body did and in whichever way it
ended. At every moment of a program, the settings that a session answers with are those that were
put in force last, directly at the current level of nesting and since it was entered, or, if there
are none, those that the level was entered with: at the outermost level, the default. -/
theorem blocks_restore_settings :
    (∀ (config : Config) (body : Program) (m : Moment),
      ((Program.block config body).execute m).final.session.scopes = m.session.scopes) ∧
    ∀ (p : Program), ∀ m ∈ .start :: (p.execute .start).moments,
      (m.session.run .settings).reply = .ok (.config m.level.settings) := by
  refine ⟨Program.scopes_block, fun p m hm => ?_⟩
  have hsound : m.Sound := by
    rcases List.mem_cons.mp hm with rfl | hm
    · exact Moment.sound_start
    · exact (p.sound_execute Moment.sound_start).1 m hm
  show Except.ok (Reply.config m.session.scopes.current) = _
  rw [hsound]

/-- A block in a block. In the inner one a lexer is popped that does not exist, and both blocks are
left on this account: the settings of the outer one come back, as they were changed in it, and then
those that were set before it. -/
theorem blocks_restore_settings_broken_off :
    ∃ e, e = (Program.seq (.call (.set { encoding := "ascii" }) rfl) (.attempt
        (.block { encoding := "utf-8" } (.seq (.call (.set { encoding := "euc_jp" }) rfl)
          (.block { encoding := "sjis" } (.seq (.call .reset rfl)
            (.call (.pop "x" 1) rfl))))))).execute .start ∧
      e.moments.map (·.session.scopes.current.encoding) =
        ["ascii", "utf-8", "euc_jp", "sjis", "cp932", "cp932", "euc_jp", "ascii"] ∧
      ∀ m ∈ e.moments, (m.session.run .settings).reply = .ok (.config m.level.settings) :=
  ⟨_, rfl, rfl, fun m hm => blocks_restore_settings.2 _ m (List.mem_cons_of_mem _ hm)⟩

end Dialogue
