import Gamebook.Proofs.Playthrough
import Gamebook.Proofs.Presentation
import Gamebook.Proofs.Steps

/-!
# Gamebook — a play goes on line by line, and a restart is a new play

A play reads its input from inside a loop that can be left at several places.
Cut the input anywhere: either the play is over by then and the rest is not
looked at, or it waits, and what is put out for the rest comes behind what was
put out already. A play that waits for the answer whether to play again keeps
the session in which the story ended. A yes loads the story into that session,
and nothing of the session may be left after that.

What a play waits for can be seen from outside: it is what the player was asked
last.

* `Phase.Told` — a phase and the last event that led to it.
* `Phase.told_answer` — the last event tells the phase after each line.
* `Play.waits_of_inputClosed` — a play that has used up its lines waits, and
  more lines are read from there.
* `Phase.begin_congr` — a story is started alike from all sessions.
* `Play.incremental_and_fresh_on_restart` — whole plays.
-/

namespace Gamebook

variable {settings : Settings} {story : Story} {read : List Line} {phase : Phase}

-- ---------------------------------------------------------------------------
-- What a play waits for
-- ---------------------------------------------------------------------------

namespace Phase

/-- The events of a play that has come to this phase: the player was last asked for what the play
waits for now. A play that has stopped has not done so for want of input. -/
def Told (events : List Event) : Phase → Prop
  | choosing _ view => events.getLast? = some (.prompted view.choices.length)
  | asking _ => events.getLast? = some .asked
  | stopped how => how ≠ .inputClosed

theorem told_append (earlier : List Event) {later : List Event} (hTold : phase.Told later) :
    phase.Told (earlier ++ later) := by
  cases phase with
  | choosing s view =>
    unfold Told at hTold ⊢
    rw [List.getLast?_append, hTold, Option.some_or]
  | asking s =>
    unfold Told at hTold ⊢
    rw [List.getLast?_append, hTold, Option.some_or]
  | stopped how => exact hTold

theorem told_arrive (settings : Settings) (s : Session) :
    (arrive settings s).2.Told (eventsOf (arrive settings s)) := by
  rcases arrive_cases settings s with
    ⟨-, hPhase, hEvents⟩ | ⟨-, -, hPhase, hEvents⟩ | ⟨-, -, hPhase, -⟩
  · rw [hPhase, hEvents]
    exact told_append _ rfl
  · rw [hPhase, hEvents]
    exact told_append _ rfl
  · rw [hPhase]
    exact nofun

theorem told_begin (settings : Settings) (s : Session) (story : Story) :
    (begin settings s story).2.Told (eventsOf (begin settings s story)) := by
  rcases begin_cases settings s story with ⟨cause, s', -, hPhase, -⟩ | ⟨s', -, hPhase, hEvents⟩
  · rw [hPhase]
    exact nofun
  · rw [hPhase, hEvents]
    exact told_append _ (told_arrive settings s')

theorem told_follow (settings : Settings) (s : Session) (index : Nat) :
    (follow settings s index).2.Told (eventsOf (follow settings s index)) := by
  rcases follow_cases settings s index with
    ⟨cause, s', -, hPhase, hEvents⟩ | ⟨s', -, hPhase, hEvents⟩
  · rw [hPhase, hEvents]
    exact told_append _ (told_arrive settings s')
  · rw [hPhase, hEvents]
    exact told_append _ (told_arrive settings s')

/-- The last event tells the phase after a line, if it did before. -/
theorem told_answer {earlier : List Event} (hTold : phase.Told earlier) (settings : Settings)
    (story : Story) (line : String) :
    (phase.answer settings story line).2.Told
      (earlier ++ eventsOf (phase.answer settings story line)) := by
  cases phase with
  | choosing s view =>
    rw [answer]
    cases Selection.parse line view.choices.length with
    | ok index => exact told_append _ (told_follow settings s index)
    | error cause =>
      -- The same choices stay open, and the player is asked for them once more.
      exact told_append _ rfl
  | asking s =>
    rw [answer]
    by_cases hYes : isYes line = true
    · rw [if_pos hYes]
      exact told_append _ (told_begin settings s story)
    · rw [if_neg hYes]
      exact nofun
  | stopped how => exact hTold

end Phase

-- ---------------------------------------------------------------------------
-- Reading on
-- ---------------------------------------------------------------------------

namespace Play

open Phase

/-- A play that is over does not look at more lines. -/
theorem goOn_of_ended (hEnded : (goOn settings story phase read).ending ≠ .inputClosed)
    (later : List Line) :
    goOn settings story phase (read ++ later) =
      { goOn settings story phase read with
        unread := (goOn settings story phase read).unread ++ later } := by
  fun_induction goOn settings story phase read with
  | case1 how lines => rw [goOn]
  | case2 phase hOpen => exact absurd rfl hEnded
  | case3 phase lines hOpen =>
    rw [List.cons_append, goOn]
    exact hOpen
  | case4 phase line lines hOpen happened rest ih =>
    rw [List.cons_append, goOn_text hOpen, ih hEnded]
    rfl

/-- A play that has used up its lines waits in some phase, and more lines are read from there. -/
theorem waits_of_inputClosed {earlier : List Event} (hTold : phase.Told earlier)
    (hClosed : (goOn settings story phase read).ending = .inputClosed) :
    ∃ phase' : Phase, phase'.Told (earlier ++ (goOn settings story phase read).events) ∧
      (∀ how, phase' ≠ .stopped how) ∧
      ∀ later, goOn settings story phase (read ++ later) =
        (goOn settings story phase' later).precededBy
          (goOn settings story phase read).happenings := by
  -- The invariant is `Told`: it says that a phase that has stopped has not used up the lines.
  revert earlier
  fun_induction goOn settings story phase read with
  | case1 how lines =>
    intro earlier hTold
    exact absurd hClosed hTold
  | case2 phase hOpen =>
    intro earlier hTold
    refine ⟨phase, ?_, hOpen, fun later => rfl⟩
    show phase.Told (earlier ++ [])
    rw [List.append_nil]
    exact hTold
  | case3 phase lines hOpen => cases hClosed
  | case4 phase line lines hOpen happened rest =>
    rename_i ih
    intro earlier hTold
    obtain ⟨phase', hTold', hOpen', hLater⟩ :=
      ih hClosed (told_answer hTold settings story line)
    refine ⟨phase', ?_, hOpen', ?_⟩
    · have hEvents : (rest.precededBy happened.1).events = eventsOf happened ++ rest.events :=
        events_precededBy rest happened.1
      rw [List.append_assoc] at hTold'
      show phase'.Told (earlier ++ (rest.precededBy happened.1).events)
      rw [hEvents]
      exact hTold'
    · intro later
      rw [List.cons_append, goOn_text hOpen, hLater later, precededBy_precededBy]

end Play

-- ---------------------------------------------------------------------------
-- Starting over
-- ---------------------------------------------------------------------------

/-- A story is started alike from all sessions. -/
theorem Phase.begin_congr (settings : Settings) (s s' : Session) (story : Story) :
    begin settings s story = begin settings s' story := by
  have hNotes : s.loadEntries story = s'.loadEntries story := rfl
  unfold begin
  rw [hNotes]
  rcases Session.start_cases story with ⟨hAbsent, -⟩ | ⟨scene, -, -, hStart⟩
  · rw [Session.load_of_absent hAbsent, Session.load_of_absent hAbsent]
  · rw [Session.load_eq_of_start hStart s, Session.load_eq_of_start hStart s']

theorem Phase.isYes_iff {line : String} : isYes line = true ↔
    Text.trimmed line = "y" ∨ Text.trimmed line = "Y" ∨ Text.trimmed line = "yes" := by
  unfold isYes
  simp only [Bool.or_eq_true, beq_iff_eq, or_assoc]

namespace Play

open Phase

/-- A yes is answered by a new play. -/
theorem goOn_yes {line : String} (hYes : isYes line = true) (s : Session) (lines : List Line) :
    goOn settings story (asking s) (.text line :: lines) = perform settings story lines := by
  have hAnswer : (asking s).answer settings story line = begin settings .blank story := by
    rw [answer, if_pos hYes, begin_congr]
  have hOpen : ∀ how, asking s ≠ .stopped how := nofun
  rw [goOn_text hOpen, hAnswer, perform_eq]

/-- A play that has used up its lines waits, and the phase is told by its last event. -/
theorem perform_waits (hClosed : (perform settings story read).ending = .inputClosed) :
    ∃ phase : Phase, phase.Told (perform settings story read).events ∧
      (∀ how, phase ≠ .stopped how) ∧
      ∀ later, perform settings story (read ++ later) =
        (goOn settings story phase later).precededBy (perform settings story read).happenings := by
  obtain ⟨phase, hTold, hOpen, hLater⟩ :=
    waits_of_inputClosed (told_begin settings .blank story) hClosed
  refine ⟨phase, ?_, hOpen, fun later => ?_⟩
  · rw [perform_eq, events_precededBy]
    exact hTold
  · rw [perform_eq, hLater, precededBy_precededBy]
    rfl

/--
**A play goes on line by line, and a restart is a new play.** On more input a
play that has ended is the same play, with the additional lines left unread; one
that has used up its input goes through the same events first, and what it has
put out stands in front. If the player was last asked whether to play again and
answers with a yes, the play goes on as a new one: what happens, what is put
out, which lines are left and how it ends are those of a play on the rest of the
input alone.
-/
theorem incremental_and_fresh_on_restart (settings : Settings) (story : Story)
    (read : List Line) :
    let p := perform settings story read
    (p.ending ≠ .inputClosed → ∀ later,
      perform settings story (read ++ later) = { p with unread := p.unread ++ later }) ∧
    (p.ending = .inputClosed → ∀ later,
      let q := perform settings story (read ++ later)
      p.events <+: q.events ∧ ∃ rest, q.written = p.written ++ rest) ∧
    (p.ending = .inputClosed → p.events.getLast? = some .asked → ∀ line later,
      Text.trimmed line = "y" ∨ Text.trimmed line = "Y" ∨ Text.trimmed line = "yes" →
      let q := perform settings story (read ++ .text line :: later)
      let r := perform settings story later
      q.ending = r.ending ∧ q.written = p.written ++ r.written ∧
        q.events = p.events ++ r.events ∧ q.unread = r.unread) := by
  intro p
  refine ⟨?_, ?_, ?_⟩
  · intro hEnded later
    rw [perform_eq, goOn_of_ended hEnded]
    rfl
  · intro hClosed later q
    obtain ⟨phase, -, -, hLater⟩ := perform_waits hClosed
    have hPlay : q = (goOn settings story phase later).precededBy p.happenings := hLater later
    rw [hPlay]
    refine ⟨?_, _, written_precededBy _ _⟩
    rw [events_precededBy]
    exact List.prefix_append _ _
  · intro hClosed hAsked line later hYes q r
    obtain ⟨phase, hTold, hOpen, hLater⟩ := perform_waits hClosed
    have hPlay : q = r.precededBy p.happenings := by
      cases phase with
      | choosing s view =>
        -- The player was last asked for something else.
        have hPrompted : p.events.getLast? = some (.prompted view.choices.length) := hTold
        rw [hAsked] at hPrompted
        cases hPrompted
      | asking s =>
        show perform settings story (read ++ .text line :: later) = _
        rw [hLater, goOn_yes (isYes_iff.mpr hYes)]
      | stopped how => exact absurd rfl (hOpen how)
    rw [hPlay]
    exact ⟨rfl, written_precededBy _ _, events_precededBy _ _, rfl⟩

/-- A well that shows the coins before it gives any. -/
def well : Story := .ofScenes "well"
  [⟨"start", "\x7bcoins\x7d coins\x7bset coins = 3\x7d", [⟨"make a wish", "wish", none⟩]⟩,
    ⟨"wish", "\x7bcoins\x7d coins", []⟩]

/-- Over after a no, whatever follows; and played again after a yes, without the coins. -/
theorem incremental_and_fresh_on_restart_well :
    let once := perform {} well [.text "1"]
    let done := perform {} well [.text "1", .text "n"]
    let again := perform {} well [.text "1", .text " yes", .text "1", .text "n"]
    done.ending = .finished ∧
    perform {} well [.text "1", .text "n", .unreadable] = { done with unread := [.unreadable] } ∧
    once.ending = .inputClosed ∧ once.events <+: done.events ∧
    once.events.getLast? = some .asked ∧ again.ending = .finished ∧
    again.written = once.written ++ done.written := by
  intro once done again
  have hDone : done.ending = .finished := by decide +kernel
  have hEnded : done.ending ≠ .inputClosed := by decide +kernel
  have hUnread : done.unread = [] := by decide +kernel
  have hClosed : once.ending = .inputClosed := by decide +kernel
  have hAsked : once.events.getLast? = some .asked := by decide +kernel
  have hYes : Text.trimmed " yes" = "yes" := by decide +kernel
  obtain ⟨hSame, -, -⟩ := incremental_and_fresh_on_restart {} well [.text "1", .text "n"]
  obtain ⟨-, hPrefix, hFresh⟩ := incremental_and_fresh_on_restart {} well [.text "1"]
  obtain ⟨hEnding, hWritten, -, -⟩ := hFresh hClosed hAsked " yes" [.text "1", .text "n"]
    (Or.inr (Or.inr hYes))
  have hMore := hSame hEnded [.unreadable]
  rw [hUnread] at hMore
  exact ⟨hDone, hMore, hClosed, (hPrefix hClosed [.text "n"]).1, hAsked, hEnding.trans hDone,
    hWritten⟩

end Play

end Gamebook
