import Gamebook.Proofs.Choices
import Gamebook.Proofs.Rounds
import Gamebook.Proofs.Selecting

/-!
# Gamebook — a play makes no invalid call

A selection is checked against the view that was taken at the head of the outer
loop, and the session works out its choices anew when one is followed. Between
the two there may be any number of lines that select nothing, and before them
choices that could not be followed and restarts. If the view and the session ever
fell apart, a number that was shown could be refused, or lead somewhere else, and
the range in a question could be that of another scene. They stay together: the
inner loop only ever goes round with the view of its own session.

* `Loop.InStep` — the inner loop holds the view of its session, which is the last
  one shown.
* `Loop.inStep_after` — the invariant holds after any number of rounds.
* `Event.Fits` — what an event says fits the views before and behind it.
* `Play.fitting_perform` — every event of a play does.
* `Play.makes_no_invalid_call` — what follows for the calls and for what is announced.
-/

namespace Gamebook

open Phase Event

variable {settings : Settings} {story : Story} {phase : Phase} {s : Session}

-- ---------------------------------------------------------------------------
-- Calls
-- ---------------------------------------------------------------------------

/-- A choice that is shown is refused only for want of the scene that it leads to, and the session
stays as it was. -/
theorem Session.choose_shown {index : Nat} (hIndex : index < s.choiceCount)
    {cause : SessionError} {s' : Session} (hChoose : s.choose index = (.error cause, s')) :
    s' = s ∧ ∃ choice, s.available[index]? = some choice ∧ cause = .sceneNotFound choice.next := by
  rcases choose_cases s index with ⟨hHigh, -⟩ | ⟨choice, hChoice, hEnter⟩
  · exact absurd hIndex (Nat.not_lt.mpr hHigh)
  · rcases enter_cases s choice.next with ⟨-, hRefused⟩ | ⟨scene, -, -, hArrived⟩
    · cases hChoose.symm.trans (hEnter.trans hRefused)
      exact ⟨rfl, choice, hChoice, rfl⟩
    · cases hChoose.symm.trans (hEnter.trans hArrived)

/-- A story with a first scene is loaded by every session. -/
theorem Session.load_ok (hStart : story.contains Story.startId = true) (s : Session) :
    (s.load story).1 = .ok () := by
  obtain ⟨scene, hMem, hId⟩ := Story.contains_iff.mp hStart
  rcases load_cases s story with ⟨hAbsent, -⟩ | ⟨_, -, -, hLoad⟩
  · exact absurd hId (hAbsent scene hMem)
  · rw [hLoad]

-- ---------------------------------------------------------------------------
-- The loops stay in step with what is shown
-- ---------------------------------------------------------------------------

namespace Loop

/-- The inner loop goes round with the view of its session, which is the last one shown. -/
def InStep (events : List Event) : Loop → Prop
  | inner s view _ => view = s.view ∧ (viewsIn events).getLast? = some view
  | outer _ _ | left _ _ => True

theorem inStep_round {events : List Event} {now : Loop} (hStep : now.InStep events)
    (settings : Settings) (story : Story) :
    (now.round settings story).2.InStep (events ++ (now.round settings story).1) := by
  fun_cases round settings story now with
  | case1 | case2 | case3 | case4 | case5 | case6 | case8 | case9 | case10 | case11 | case13 =>
    trivial
  | case7 s lines notes hOpen =>
    refine ⟨rfl, ?_⟩
    rw [viewsIn_append, viewsIn_append, viewsIn_notes]
    exact List.getLast?_concat
  | case12 s view line lines cause hParse =>
    -- Nothing has been shown since, and the session is the same.
    have hNone : viewsIn [.prompted view.choices.length, .rejected cause] = [] := rfl
    refine ⟨hStep.1, ?_⟩
    rw [viewsIn_append, hNone, List.append_nil]
    exact hStep.2

theorem inStep_after (settings : Settings) (story : Story) (lines : List Line) (rounds : Nat) :
    (after settings story lines rounds).2.InStep (after settings story lines rounds).1 := by
  induction rounds with
  | zero =>
    show (start story lines).2.InStep (start story lines).1
    unfold start
    simp only
    split <;> trivial
  | succ rounds ih => exact inStep_round ih settings story

end Loop

-- ---------------------------------------------------------------------------
-- Events that fit
-- ---------------------------------------------------------------------------

namespace Event

/-- What an event says fits the last view before it and the next one behind it: a number of choices
is that of the last view, and after a choice that cannot be followed the same view comes again. -/
def Fits (last next : Option View) : Event → Prop
  | prompted count | rejected (.outOfRange count) =>
    ∃ view, last = some view ∧ view.choices.length = count
  | failed cause => (∃ id, cause = .sceneNotFound id) ∧ ∃ view, last = some view ∧ next = some view
  | shown _ | rejected .empty | handled | ended _ | asked | noted _ => True

/-- The last view after some events. -/
def lastView (last : Option View) (events : List Event) : Option View :=
  (viewsIn events).getLast?.or last

/-- The events fit one by one. -/
def Fitting (last : Option View) : List Event → Prop
  | [] => True
  | e :: events => e.Fits last (viewsIn events).head? ∧ Fitting (lastView last [e]) events

variable {last next : Option View} {earlier later events : List Event} {e : Event}

theorem lastView_append (last : Option View) (earlier later : List Event) :
    lastView last (earlier ++ later) = lastView (lastView last earlier) later := by
  rw [lastView, lastView, lastView, viewsIn_append, List.getLast?_append, Option.or_assoc]

theorem lastView_notes (last : Option View) (entries : List Entry) :
    lastView last (entries.map noted) = last := by
  rw [lastView, viewsIn_notes]
  rfl

theorem Fits.of_next {next' : Option View} (hFits : e.Fits last next)
    (hNext : ∀ view, next = some view → next' = some view) : e.Fits last next' := by
  cases e with
  | failed cause =>
    obtain ⟨hCause, view, hLast, hSame⟩ := hFits
    exact ⟨hCause, view, hLast, hNext view hSame⟩
  | rejected cause => cases cause <;> exact hFits
  | prompted count => exact hFits
  | shown _ | handled | ended _ | asked | noted _ => trivial

/-- Events that fit are put together. -/
theorem fitting_append (hEarlier : Fitting last earlier)
    (hLater : Fitting (lastView last earlier) later) : Fitting last (earlier ++ later) := by
  induction earlier generalizing last with
  | nil => exact hLater
  | cons e earlier ih =>
    obtain ⟨hFirst, hRest⟩ := hEarlier
    refine ⟨hFirst.of_next fun view hNext => ?_, ih hRest ?_⟩
    · show (viewsIn (earlier ++ later)).head? = some view
      rw [viewsIn_append, List.head?_append, hNext, Option.some_or]
    · rw [← lastView_append]
      exact hLater

theorem fitting_notes (last : Option View) (entries : List Entry) :
    Fitting last (entries.map noted) := by
  induction entries generalizing last with
  | nil => trivial
  | cons entry entries ih => exact ⟨trivial, ih _⟩

/-- Of events that fit, each one fits the views on its two sides. -/
theorem fits_of_fitting {before behind : List Event}
    (hFitting : Fitting last (before ++ e :: behind)) :
    e.Fits (lastView last before) (viewsIn behind).head? := by
  induction before generalizing last with
  | nil => exact hFitting.1
  | cons first before ih =>
    have hRest := ih hFitting.2
    rw [← lastView_append] at hRest
    exact hRest

end Event

-- ---------------------------------------------------------------------------
-- The events of a play fit
-- ---------------------------------------------------------------------------

namespace Phase

/-- What is waited for fits the last view that was shown. -/
def Shows (last : Option View) : Phase → Prop
  | choosing s view => view = s.view ∧ last = some view
  | asking _ | stopped _ => True

/-- A step goes through events that fit, and what the play waits for fits them too. -/
structure FitsOn (last : Option View) (happened : List Happening × Phase) : Prop where
  fitting : Fitting last (eventsOf happened)
  shows : happened.2.Shows (lastView last (eventsOf happened))

theorem fitsOn_arrive (last : Option View) (settings : Settings) (s : Session) :
    FitsOn last (arrive settings s) := by
  have hLast : lastView last (eventsOf (arrive settings s)) = some s.view := by
    rw [lastView, viewsIn_arrive]
    rfl
  rcases arrive_cases settings s with
    ⟨-, hPhase, hEvents⟩ | ⟨-, -, hPhase, hEvents⟩ | ⟨-, -, hPhase, hEvents⟩
  · refine ⟨?_, ?_⟩
    · rw [hEvents]
      exact fitting_append (fitting_notes last _) ⟨trivial, ⟨s.view, rfl, rfl⟩, trivial⟩
    · rw [hPhase, hLast]
      exact ⟨rfl, rfl⟩
  · refine ⟨?_, ?_⟩
    · rw [hEvents, List.append_assoc]
      exact fitting_append (fitting_notes last _) ⟨trivial, trivial, trivial, trivial⟩
    · rw [hPhase]
      trivial
  · refine ⟨?_, ?_⟩
    · rw [hEvents]
      exact fitting_append (fitting_notes last _) ⟨trivial, trivial, trivial⟩
    · rw [hPhase]
      trivial

/-- A step that arrives in a session fits if the events in front of the arrival do. -/
theorem FitsOn.of_arrival {last : Option View} {happened : List Happening × Phase}
    {earlier : List Event} (hPhase : happened.2 = (arrive settings s).2)
    (hEvents : eventsOf happened = earlier ++ eventsOf (arrive settings s))
    (hEarlier : Fitting last (eventsOf happened)) : FitsOn last happened where
  fitting := hEarlier
  shows := by
    rw [hPhase, hEvents, lastView_append]
    exact (fitsOn_arrive _ settings s).shows

theorem fitsOn_begin (last : Option View) (settings : Settings) (s : Session) (story : Story) :
    FitsOn last (begin settings s story) := by
  rcases begin_cases settings s story with
    ⟨cause, s', -, hPhase, hEvents⟩ | ⟨s', -, hPhase, hEvents⟩
  · refine ⟨?_, ?_⟩
    · rw [hEvents]
      exact fitting_notes last _
    · rw [hPhase]
      trivial
  · refine .of_arrival hPhase hEvents ?_
    rw [hEvents]
    exact fitting_append (fitting_notes last _) (fitsOn_arrive _ settings s').fitting

theorem fitsOn_follow {index : Nat} (hIndex : index < s.choiceCount) (settings : Settings) :
    FitsOn (some s.view) (follow settings s index) := by
  rcases follow_cases settings s index with
    ⟨cause, s', hChoose, hPhase, hEvents⟩ | ⟨s', -, hPhase, hEvents⟩
  · refine .of_arrival hPhase hEvents ?_
    -- The same session arrives once more, and shows the same view.
    obtain ⟨hSame, choice, -, hCause⟩ := Session.choose_shown hIndex hChoose
    have hNext : (viewsIn (eventsOf (arrive settings s))).head? = some s.view := by
      rw [viewsIn_arrive]
      rfl
    rw [hEvents, hSame, List.append_assoc]
    refine fitting_append (fitting_notes _ _) ?_
    rw [lastView_notes]
    exact ⟨trivial, ⟨⟨_, hCause⟩, s.view, rfl, hNext⟩, trivial,
      (fitsOn_arrive _ settings s).fitting⟩
  · refine .of_arrival hPhase hEvents ?_
    rw [hEvents, List.append_assoc]
    exact fitting_append (fitting_notes _ _) ⟨trivial, (fitsOn_arrive _ settings s').fitting⟩

theorem fitsOn_answer {last : Option View} (hShows : phase.Shows last) (settings : Settings)
    (story : Story) (line : String) : FitsOn last (phase.answer settings story line) := by
  cases phase with
  | stopped how => exact ⟨trivial, trivial⟩
  | asking s =>
    rw [answer]
    split
    · exact fitsOn_begin last settings s story
    · exact ⟨trivial, trivial⟩
  | choosing s view =>
    obtain ⟨rfl, rfl⟩ := hShows
    rw [answer]
    rcases Selection.parse_within line s.view.choices.length with
      ⟨index, hIndex, hParse⟩ | hParse | hParse
    · rw [hParse]
      rw [Session.length_view] at hIndex
      exact fitsOn_follow hIndex settings
    · rw [hParse]
      exact ⟨⟨trivial, ⟨s.view, rfl, rfl⟩, trivial⟩, rfl, rfl⟩
    · rw [hParse]
      exact ⟨⟨⟨s.view, rfl, rfl⟩, ⟨s.view, rfl, rfl⟩, trivial⟩, rfl, rfl⟩

end Phase

namespace Play

theorem fitting_goOn {last : Option View} (hShows : phase.Shows last) (settings : Settings)
    (story : Story) (lines : List Line) :
    Fitting last (goOn settings story phase lines).events := by
  -- The invariant is `Shows`: a line is answered by events that fit, up to a phase that does.
  revert last
  fun_induction goOn settings story phase lines with
  | case1 how lines => exact fun _ => trivial
  | case2 phase hOpen => exact fun _ => trivial
  | case3 phase lines hOpen => exact fun _ => trivial
  | case4 phase line lines hOpen happened rest =>
    rename_i ih
    intro last hShows
    obtain ⟨hFitting, hNext⟩ := fitsOn_answer hShows settings story line
    have hEvents : (rest.precededBy happened.1).events = eventsOf happened ++ rest.events :=
      events_precededBy rest happened.1
    show Fitting last (rest.precededBy happened.1).events
    rw [hEvents]
    exact fitting_append hFitting (ih hNext)

theorem fitting_perform (settings : Settings) (story : Story) (lines : List Line) :
    Fitting none (perform settings story lines).events := by
  obtain ⟨hFitting, hShows⟩ := fitsOn_begin none settings .blank story
  rw [perform_eq, events_precededBy]
  exact fitting_append hFitting (fitting_goOn hShows settings story lines)

/--
**A play makes no invalid call.** In a play of a story with a first scene, under any
settings and on any input, take the loops after any number of rounds. Where a line
is read that selects a choice, the view is that of the session and the last one
shown, the choice is one of those that the session offers, and if it cannot be
followed the scene that it leads to is missing and the session stays as it was.
Where a line is read that starts the story again, the story is loaded. In the
events of the play, a number of choices that is asked for or insisted on is that of
the last view, and behind a choice that could not be followed the last view comes
again.
-/
theorem makes_no_invalid_call (hStart : story.contains Story.startId = true)
    (settings : Settings) (lines : List Line) :
    let p := perform settings story lines
    let now := Loop.after settings story lines
    (∀ rounds, 2 * lines.length + 2 ≤ rounds →
      now rounds = (p.events, .left p.ending p.unread)) ∧
    (∀ rounds events s view line unread,
      now rounds = (events, .inner s view (.text line :: unread)) →
      view = s.view ∧ (viewsIn events).getLast? = some view ∧
      ∀ index, Selection.parse line view.choices.length = .ok index →
        index < s.choiceCount ∧
        ∀ cause s', s.choose index = (.error cause, s') → s' = s ∧
          ∃ choice, s.available[index]? = some choice ∧ cause = .sceneNotFound choice.next) ∧
    (∀ rounds events s line unread,
      now rounds = (events, .outer s (.text line :: unread)) → isYes line = true →
      (s.load story).1 = .ok ()) ∧
    (∀ cause, p.ending ≠ .refused cause) ∧
    ∀ before e behind, p.events = before ++ e :: behind →
      (∀ count, e = .prompted count ∨ e = .rejected (.outOfRange count) →
        ∃ view, (viewsIn before).getLast? = some view ∧ view.choices.length = count) ∧
      ∀ cause, e = .failed cause → (∃ id, cause = .sceneNotFound id) ∧
        ∃ view, (viewsIn before).getLast? = some view ∧ (viewsIn behind).head? = some view := by
  intro p now
  refine ⟨fun rounds => Loop.after_eq_perform settings story lines, ?_,
    fun _ _ s _ _ _ _ => Session.load_ok hStart s,
    ending_goOn_ne_refused hStart settings (isUnderWay_begin hStart settings .blank) lines, ?_⟩
  · intro rounds events s view line unread hNow
    have hStep : (now rounds).2.InStep (now rounds).1 :=
      Loop.inStep_after settings story lines rounds
    rw [hNow] at hStep
    obtain ⟨rfl, hLast⟩ := hStep
    refine ⟨rfl, hLast, fun index hParse => ?_⟩
    have hIndex : index < s.choiceCount := by
      rw [← Session.length_view]
      rcases Selection.parse_within line s.view.choices.length with
        ⟨place, hPlace, hOther⟩ | hOther | hOther
      · cases hParse.symm.trans hOther
        exact hPlace
      · cases hParse.symm.trans hOther
      · cases hParse.symm.trans hOther
    exact ⟨hIndex, fun _ _ => Session.choose_shown hIndex⟩
  · intro before e behind hEvents
    have hFitting : Fitting none p.events := fitting_perform settings story lines
    rw [hEvents] at hFitting
    have hFits := fits_of_fitting hFitting
    rw [lastView, Option.or_none] at hFits
    refine ⟨?_, ?_⟩
    · rintro count (rfl | rfl)
      · exact hFits
      · exact hFits
    · rintro cause rfl
      exact hFits

/-- A ruin whose cellar is missing. -/
def ruin : Story := .ofScenes "ruin"
  [⟨"start", "the ruin", [⟨"door", "hall", none⟩, ⟨"stairs", "cellar", none⟩]⟩,
    ⟨"hall", "the hall", []⟩]

/-- The ruin is shown again after the stairs, and it has two choices before and after. -/
theorem makes_no_invalid_call_ruin :
    let p := perform {} ruin [.text "7", .text "2", .text "1"]
    ruin.contains Story.startId = true ∧ (∀ cause, p.ending ≠ .refused cause) ∧
    ∃ before behind, p.events = before ++ .failed (.sceneNotFound "cellar") :: behind ∧
      ∃ view, (viewsIn before).getLast? = some view ∧ (viewsIn behind).head? = some view := by
  intro p
  have hStart : ruin.contains Story.startId = true := by decide +kernel
  have hEvents : p.events =
      p.events.take 8 ++ .failed (.sceneNotFound "cellar") :: p.events.drop 9 := by
    decide +kernel
  obtain ⟨-, -, -, hEnding, hFits⟩ :=
    makes_no_invalid_call hStart {} [.text "7", .text "2", .text "1"]
  exact ⟨hStart, hEnding, _, _, hEvents, ((hFits _ _ _ hEvents).2 _ rfl).2⟩

end Play

end Gamebook
