import Gamebook.Proofs.Presentation
import Gamebook.Proofs.Steps

/-!
# Gamebook — a play ends on every input

A player is served by two loops that have no end of their own. The outer one
shows a scene, the inner one asks for a choice until one can be followed, and a
yes at the end of a story goes back to the outer loop. A story may go in circles,
its choices may lead nowhere, and it may be over as soon as it is started; each of
these goes round without an end unless every way round takes a line of input.
Two rounds in a row take one or come to an end: the outer loop takes a line or
hands over to the inner one, and the inner one takes a line whatever comes of it.

* `Loop`, `Loop.round` — where the loops stand, and one round of the one that runs.
* `Loop.begins_round` — a round goes through the next events of the play.
* `Loop.size_round_le` — the measure that every round lowers.
* `Loop.after_eq_perform` — the loops are left after boundedly many rounds, and what they
  went through is the play.
* `Play.ends_on_every_input` — how a play ends, what it reads and how much it shows.
-/

namespace Gamebook

open Phase

variable {settings : Settings} {story : Story} {lines : List Line}

-- ---------------------------------------------------------------------------
-- Rounds
-- ---------------------------------------------------------------------------

/-- Where the loops of a play stand between two rounds. -/
inductive Loop where
  /-- A scene is about to be shown. -/
  | outer (session : Session) (lines : List Line)
  /-- The player is about to be asked for a choice from the view. -/
  | inner (session : Session) (view : View) (lines : List Line)
  | left (how : Ending) (unread : List Line)

namespace Loop

/-- The input that has not been read. -/
def unread : Loop → List Line
  | outer _ lines => lines
  | inner _ _ lines => lines
  | left _ lines => lines

/-- One round: the events that it goes through, and where it leads. -/
def round (settings : Settings) (story : Story) : Loop → List Event × Loop
  | outer s lines =>
    let notes := s.hiddenEntries.map Event.noted
    if s.view.finished then
      let closing := notes ++ [.ended s.view, .noted (.storyFinished s.view.sceneId)]
      if settings.askRestart then
        match lines with
        | [] => (closing ++ [.asked], left .inputClosed [])
        | .unreadable :: lines => (closing ++ [.asked], left .unreadable lines)
        | .text line :: lines =>
          if isYes line then
            let restart := closing ++ [.asked] ++ (s.loadEntries story).map Event.noted
            match s.load story with
            | (.ok (), s') => (restart, outer s' lines)
            | (.error cause, _) => (restart, left (.refused cause) lines)
          else (closing ++ [.asked], left .finished lines)
      else (closing, left .finished lines)
    else (notes ++ [.shown s.view], inner s s.view lines)
  | inner _ view [] => ([.prompted view.choices.length], left .inputClosed [])
  | inner _ view (.unreadable :: lines) =>
    ([.prompted view.choices.length], left .unreadable lines)
  | inner s view (.text line :: lines) =>
    match Selection.parse line view.choices.length with
    | .ok index =>
      let notes := .prompted view.choices.length :: (s.chooseEntries index).map Event.noted
      match s.choose index with
      | (.ok (), s') => (notes ++ [.handled], outer s' lines)
      | (.error cause, s') =>
        (notes ++ [.noted (.choiceFailed cause), .failed cause, .handled], outer s' lines)
    | .error cause => ([.prompted view.choices.length, .rejected cause], inner s view lines)
  | left how lines => ([], left how lines)

/-- The start of a play, in front of the loops. -/
def start (story : Story) (lines : List Line) : List Event × Loop :=
  let notes := (Session.blank.loadEntries story).map Event.noted
  match Session.blank.load story with
  | (.ok (), s) => (notes, outer s lines)
  | (.error cause, _) => (notes, left (.refused cause) lines)

/-- The events of a play so far and where its loops stand, after a number of rounds. -/
def after (settings : Settings) (story : Story) (lines : List Line) : Nat → List Event × Loop
  | 0 => start story lines
  | rounds + 1 =>
    let now := after settings story lines rounds
    let next := now.2.round settings story
    (now.1 ++ next.1, next.2)

-- ---------------------------------------------------------------------------
-- The rest of a play
-- ---------------------------------------------------------------------------

/-- The rest of the play. -/
def rest (settings : Settings) (story : Story) : Loop → Play
  | outer s lines =>
    (Play.goOn settings story (arrive settings s).2 lines).precededBy (arrive settings s).1
  | inner s view lines =>
    let count := view.choices.length
    (Play.goOn settings story (choosing s view) lines).precededBy
      [.question settings (.prompted count) (View.prompt count)]
  | left how lines => ⟨[], how, lines⟩

/-- A play begins with these events, and the rest of it is a play of its own. -/
structure Begins (p : Play) (events : List Event) (later : Play) : Prop where
  events_eq : p.events = events ++ later.events
  ending_eq : p.ending = later.ending
  unread_eq : p.unread = later.unread

theorem Begins.trans {p q r : Play} {earlier later : List Event} (hFirst : Begins p earlier q)
    (hNext : Begins q later r) : Begins p (earlier ++ later) r where
  events_eq := by rw [hFirst.events_eq, hNext.events_eq, List.append_assoc]
  ending_eq := hFirst.ending_eq.trans hNext.ending_eq
  unread_eq := hFirst.unread_eq.trans hNext.unread_eq

theorem begins_precededBy (p : Play) (earlier : List Happening) :
    Begins (p.precededBy earlier) (earlier.map Happening.event) p where
  events_eq := Play.events_precededBy p earlier
  ending_eq := rfl
  unread_eq := rfl

theorem begins_nil (p : Play) : Begins p [] p := ⟨rfl, rfl, rfl⟩

theorem goOn_stopped (how : Ending) (lines : List Line) :
    Play.goOn settings story (stopped how) lines = ⟨[], how, lines⟩ := by
  rw [Play.goOn]

/-- A step that arrives in a session leads to the head of the outer loop. -/
theorem begins_arrival {happened : List Happening × Phase} {s : Session} {events : List Event}
    (hPhase : happened.2 = (arrive settings s).2)
    (hEvents : eventsOf happened = events ++ eventsOf (arrive settings s)) (lines : List Line) :
    Begins ((Play.goOn settings story happened.2 lines).precededBy happened.1) events
      ((outer s lines).rest settings story) where
  events_eq := by
    rw [Play.events_precededBy, rest, Play.events_precededBy, ← List.append_assoc, hPhase]
    exact congrArg (· ++ _) hEvents
  ending_eq := by rw [hPhase]; rfl
  unread_eq := by rw [hPhase]; rfl

/-- A step that stops the play leaves both loops. -/
theorem begins_stop {happened : List Happening × Phase} {how : Ending}
    (hPhase : happened.2 = stopped how) (lines : List Line) :
    Begins ((Play.goOn settings story happened.2 lines).precededBy happened.1) (eventsOf happened)
      ((left how lines).rest settings story) := by
  rw [hPhase, goOn_stopped]
  exact begins_precededBy _ _

variable {s : Session}

/-- Where choices can be seen the play goes on in the inner loop. -/
theorem begins_shown (hOpen : s.view.finished = false) (settings : Settings) (story : Story)
    (lines : List Line) :
    Begins ((outer s lines).rest settings story)
      (s.hiddenEntries.map Event.noted ++ [.shown s.view])
      ((inner s s.view lines).rest settings story) := by
  rcases arrive_cases settings s with
    ⟨-, hPhase, hEvents⟩ | ⟨hOver, -⟩ | ⟨hOver, -⟩
  · refine ⟨?_, ?_, ?_⟩
    · rw [rest, rest, hPhase, Play.events_precededBy, Play.events_precededBy, ← List.append_assoc,
        List.append_assoc _ [_]]
      exact congrArg (· ++ _) hEvents
    · rw [rest, hPhase]
      rfl
    · rw [rest, hPhase]
      rfl
  · rw [hOpen] at hOver
    cases hOver
  · rw [hOpen] at hOver
    cases hOver

/-- At the end of a story that is not played again both loops are left. -/
theorem begins_closing (hOver : s.view.finished = true) (hAsk : settings.askRestart = false)
    (story : Story) (lines : List Line) :
    Begins ((outer s lines).rest settings story)
      (s.hiddenEntries.map Event.noted ++ [.ended s.view, .noted (.storyFinished s.view.sceneId)])
      ((left .finished lines).rest settings story) := by
  rcases arrive_cases settings s with
    ⟨hOpen, -⟩ | ⟨-, hOther, -⟩ | ⟨-, -, hPhase, hEvents⟩
  · rw [hOver] at hOpen
    cases hOpen
  · rw [hAsk] at hOther
    cases hOther
  · rw [← hEvents]
    exact begins_stop hPhase lines

/-- At the end of any other story the player is asked whether to play again. -/
theorem begins_asked (hOver : s.view.finished = true) (hAsk : settings.askRestart = true)
    (story : Story) (lines : List Line) :
    Begins ((outer s lines).rest settings story)
      (s.hiddenEntries.map Event.noted ++ [.ended s.view, .noted (.storyFinished s.view.sceneId)] ++
        [.asked])
      (Play.goOn settings story (asking s) lines) := by
  rcases arrive_cases settings s with
    ⟨hOpen, -⟩ | ⟨-, -, hPhase, hEvents⟩ | ⟨-, hOther, -⟩
  · rw [hOver] at hOpen
    cases hOpen
  · rw [← hEvents, ← hPhase]
    exact begins_precededBy _ _
  · rw [hAsk] at hOther
    cases hOther

/-- A story that is loaded leads to the head of the outer loop. -/
theorem begins_loaded {s' : Session} (hLoad : s.load story = (.ok (), s')) (settings : Settings)
    (lines : List Line) :
    Begins ((Play.goOn settings story (begin settings s story).2 lines).precededBy
        (begin settings s story).1)
      ((s.loadEntries story).map Event.noted) ((outer s' lines).rest settings story) := by
  rcases begin_cases settings s story with ⟨_, _, hOther, -⟩ | ⟨_, hOther, hPhase, hEvents⟩
  · cases hLoad.symm.trans hOther
  · cases hLoad.symm.trans hOther
    exact begins_arrival hPhase hEvents lines

/-- A story that is refused leads out of both loops. -/
theorem begins_refused {s' : Session} {cause : SessionError}
    (hLoad : s.load story = (.error cause, s')) (settings : Settings) (lines : List Line) :
    Begins ((Play.goOn settings story (begin settings s story).2 lines).precededBy
        (begin settings s story).1)
      ((s.loadEntries story).map Event.noted)
      ((left (.refused cause) lines).rest settings story) := by
  rcases begin_cases settings s story with ⟨_, _, hOther, hPhase, hEvents⟩ | ⟨_, hOther, -⟩
  · cases hLoad.symm.trans hOther
    rw [← hEvents]
    exact begins_stop hPhase lines
  · cases hLoad.symm.trans hOther

/-- A round goes through the next events of the play. -/
theorem begins_round (settings : Settings) (story : Story) (now : Loop) :
    Begins (now.rest settings story) (now.round settings story).1
      ((now.round settings story).2.rest settings story) := by
  have hAsking : ∀ s how, asking s ≠ .stopped how := nofun
  have hChoosing : ∀ s view how, choosing s view ≠ .stopped how := nofun
  fun_cases round settings story now with
  | case1 s notes hOver closing hAsk => exact begins_asked hOver hAsk story []
  | case2 s notes hOver closing hAsk lines => exact begins_asked hOver hAsk story _
  | case3 s notes hOver closing hAsk line lines hYes restart s' hLoad =>
    refine (begins_asked hOver hAsk story _).trans ?_
    rw [Play.goOn_text (hAsking s), answer, if_pos hYes]
    exact begins_loaded hLoad settings lines
  | case4 s notes hOver closing hAsk line lines hYes restart cause s' hLoad =>
    refine (begins_asked hOver hAsk story _).trans ?_
    rw [Play.goOn_text (hAsking s), answer, if_pos hYes]
    exact begins_refused hLoad settings lines
  | case5 s notes hOver closing hAsk line lines hNo =>
    rw [← List.append_nil (closing ++ [Event.asked])]
    refine (begins_asked hOver hAsk story _).trans ?_
    rw [Play.goOn_text (hAsking s), answer, if_neg hNo]
    exact begins_stop rfl lines
  | case6 s lines notes hOver closing hAsk =>
    exact begins_closing hOver (Bool.eq_false_iff.mpr hAsk) story lines
  | case7 s lines notes hOpen =>
    exact begins_shown (Bool.eq_false_iff.mpr hOpen) settings story lines
  | case8 s view => exact ⟨rfl, rfl, rfl⟩
  | case9 s view lines => exact ⟨rfl, rfl, rfl⟩
  | case10 s view line lines index hParse notes s' hChoose =>
    refine (begins_precededBy _ _).trans ?_
    rw [Play.goOn_text (hChoosing s view), answer, hParse]
    rcases follow_cases settings s index with ⟨_, _, hOther, -⟩ | ⟨_, hOther, hPhase, hEvents⟩
    · cases hChoose.symm.trans hOther
    · cases hChoose.symm.trans hOther
      exact begins_arrival hPhase hEvents lines
  | case11 s view line lines index hParse notes cause s' hChoose =>
    refine (begins_precededBy _ _).trans ?_
    rw [Play.goOn_text (hChoosing s view), answer, hParse]
    rcases follow_cases settings s index with ⟨_, _, hOther, hPhase, hEvents⟩ | ⟨_, hOther, -⟩
    · cases hChoose.symm.trans hOther
      exact begins_arrival hPhase hEvents lines
    · cases hChoose.symm.trans hOther
  | case12 s view line lines cause hParse =>
    refine (begins_precededBy _ _).trans ?_
    rw [Play.goOn_text (hChoosing s view), answer, hParse]
    exact ⟨rfl, rfl, rfl⟩
  | case13 how lines => exact begins_nil _

/-- The play is what is told in front of the loops, and what they go through. -/
theorem begins_start (settings : Settings) (story : Story) (lines : List Line) :
    Begins (Play.perform settings story lines) (start story lines).1
      ((start story lines).2.rest settings story) := by
  rw [Play.perform_eq]
  unfold start
  simp only
  split
  · rename_i hLoad
    exact begins_loaded hLoad settings lines
  · rename_i hLoad
    exact begins_refused hLoad settings lines

/-- The play is what the loops have gone through so far, and what is left of it. -/
theorem begins_after (settings : Settings) (story : Story) (lines : List Line) (rounds : Nat) :
    Begins (Play.perform settings story lines) (after settings story lines rounds).1
      ((after settings story lines rounds).2.rest settings story) := by
  induction rounds with
  | zero => exact begins_start settings story lines
  | succ rounds ih => exact ih.trans (begins_round settings story _)

-- ---------------------------------------------------------------------------
-- Leaving the loops
-- ---------------------------------------------------------------------------

/-- A round reads the next line or none at all. -/
theorem unread_round (settings : Settings) (story : Story) (now : Loop) :
    now.unread = (now.round settings story).2.unread ∨
      ∃ line, now.unread = line :: (now.round settings story).2.unread := by
  fun_cases round settings story now with
  | case1 | case6 | case7 | case8 | case13 => exact Or.inl rfl
  | case2 | case3 | case4 | case5 | case9 | case10 | case11 | case12 => exact Or.inr ⟨_, rfl⟩

/-- How far the loops are from being left: each line can be read by one round, and a round in front
of it can go from the outer loop to the inner one. -/
def size : Loop → Nat
  | outer _ lines => 2 * lines.length + 2
  | inner _ _ lines => 2 * lines.length + 1
  | left _ _ => 0

/-- Every round comes closer to the end, until it is there. -/
theorem size_round_le (settings : Settings) (story : Story) (now : Loop) :
    (now.round settings story).2.size ≤ now.size - 1 := by
  fun_cases round settings story now with
  | case1 | case2 | case4 | case5 | case6 | case8 | case9 | case13 => exact Nat.zero_le _
  | case3 | case7 | case10 | case11 | case12 =>
    simp only [size, List.length_cons]
    omega

theorem unread_start (story : Story) (lines : List Line) :
    (start story lines).2.unread = lines := by
  unfold start
  simp only
  split <;> rfl

theorem size_start_le (story : Story) (lines : List Line) :
    (start story lines).2.size ≤ 2 * lines.length + 2 := by
  unfold start
  simp only
  split
  · exact Nat.le_refl _
  · exact Nat.zero_le _

theorem size_after_le (settings : Settings) (story : Story) (lines : List Line) (rounds : Nat) :
    (after settings story lines rounds).2.size ≤ 2 * lines.length + 2 - rounds := by
  induction rounds with
  | zero => exact size_start_le story lines
  | succ rounds ih =>
    have hRound := size_round_le settings story (after settings story lines rounds).2
    show ((after settings story lines rounds).2.round settings story).2.size ≤ _
    omega

/-- The loops are left after two rounds for each line and two more, and what they have gone through
by then is the play. -/
theorem after_eq_perform (settings : Settings) (story : Story) (lines : List Line) {rounds : Nat}
    (hRounds : 2 * lines.length + 2 ≤ rounds) :
    after settings story lines rounds = ((Play.perform settings story lines).events,
      left (Play.perform settings story lines).ending
        (Play.perform settings story lines).unread) := by
  obtain ⟨hEvents, hEnding, hUnread⟩ := begins_after settings story lines rounds
  have hSize : (after settings story lines rounds).2.size = 0 := by
    have hAfter := size_after_le settings story lines rounds
    omega
  rw [hEvents, hEnding, hUnread]
  cases hNow : (after settings story lines rounds).2 with
  | left how unread =>
    rw [rest, Play.events, List.map_nil, List.append_nil, ← hNow]
  | outer s lines | inner s view lines =>
    rw [hNow] at hSize
    cases hSize

end Loop

-- ---------------------------------------------------------------------------
-- Views
-- ---------------------------------------------------------------------------

namespace Event

def view? : Event → Option View
  | shown view | ended view => some view
  | _ => none

/-- The views among some events. -/
def viewsIn (events : List Event) : List View := events.filterMap view?

theorem viewsIn_append (earlier later : List Event) :
    viewsIn (earlier ++ later) = viewsIn earlier ++ viewsIn later :=
  List.filterMap_append

theorem viewsIn_notes (entries : List Entry) : viewsIn (entries.map noted) = [] := by
  rw [viewsIn, List.filterMap_map]
  exact List.filterMap_eq_nil_iff.mpr fun _ _ => rfl

end Event

namespace Phase

open Event

/-- Arriving in a session shows its view, once. -/
theorem viewsIn_arrive (settings : Settings) (s : Session) :
    viewsIn (eventsOf (arrive settings s)) = [s.view] := by
  rcases arrive_cases settings s with
    ⟨-, -, hEvents⟩ | ⟨-, -, -, hEvents⟩ | ⟨-, -, -, hEvents⟩
  · rw [hEvents, viewsIn_append, viewsIn_notes]
    rfl
  · rw [hEvents, viewsIn_append, viewsIn_append, viewsIn_notes]
    rfl
  · rw [hEvents, viewsIn_append, viewsIn_notes]
    rfl

theorem length_viewsIn_begin (settings : Settings) (s : Session) (story : Story) :
    (viewsIn (eventsOf (begin settings s story))).length ≤ 1 := by
  rcases begin_cases settings s story with ⟨_, _, -, -, hEvents⟩ | ⟨s', -, -, hEvents⟩
  · rw [hEvents, viewsIn_notes]
    exact Nat.zero_le 1
  · rw [hEvents, viewsIn_append, viewsIn_notes, viewsIn_arrive]
    exact Nat.le_refl 1

theorem viewsIn_follow (settings : Settings) (s : Session) (index : Nat) :
    viewsIn (eventsOf (follow settings s index)) = [(s.choose index).2.view] := by
  rcases follow_cases settings s index with
    ⟨_, s', hChoose, -, hEvents⟩ | ⟨s', hChoose, -, hEvents⟩
  · rw [hEvents, hChoose, viewsIn_append, viewsIn_append, viewsIn_notes, viewsIn_arrive]
    rfl
  · rw [hEvents, hChoose, viewsIn_append, viewsIn_append, viewsIn_notes, viewsIn_arrive]
    rfl

/-- A line is answered by one view at most. -/
theorem length_viewsIn_answer (settings : Settings) (story : Story) (line : String)
    (phase : Phase) :
    (viewsIn (eventsOf (phase.answer settings story line))).length ≤ 1 := by
  cases phase with
  | choosing s view =>
    rw [answer]
    cases Selection.parse line view.choices.length with
    | ok index =>
      simp only [viewsIn_follow]
      exact Nat.le_refl 1
    | error cause => exact Nat.zero_le 1
  | asking s =>
    rw [answer]
    split
    · exact length_viewsIn_begin settings s story
    · exact Nat.zero_le 1
  | stopped how => exact Nat.zero_le 1

end Phase

namespace Play

open Event

/-- Every view but the first is the answer to a line. -/
theorem length_viewsIn_goOn (settings : Settings) (story : Story) (phase : Phase)
    (lines : List Line) :
    (viewsIn (goOn settings story phase lines).events).length +
      (goOn settings story phase lines).unread.length ≤ lines.length := by
  fun_induction goOn settings story phase lines with
  | case1 how lines => exact Nat.le_of_eq (Nat.zero_add _)
  | case2 phase hOpen => exact Nat.le_refl 0
  | case3 phase lines hOpen =>
    show 0 + lines.length ≤ lines.length + 1
    omega
  | case4 phase line lines hOpen happened rest =>
    rename_i ih
    have hAnswer : (viewsIn (eventsOf happened)).length ≤ 1 :=
      length_viewsIn_answer settings story line phase
    have hRest : (viewsIn rest.events).length + rest.unread.length ≤ lines.length := ih
    have hViews : viewsIn (rest.precededBy happened.1).events =
        viewsIn (eventsOf happened) ++ viewsIn rest.events := by
      rw [events_precededBy, viewsIn_append]
      rfl
    show (viewsIn (rest.precededBy happened.1).events).length + rest.unread.length ≤ _
    rw [hViews, List.length_append, List.length_cons]
    omega

theorem length_viewsIn_perform (settings : Settings) (story : Story) (lines : List Line) :
    (viewsIn (perform settings story lines).events).length +
      (perform settings story lines).unread.length ≤ lines.length + 1 := by
  have hFirst := length_viewsIn_begin settings .blank story
  have hLater := length_viewsIn_goOn settings story (begin settings .blank story).2 lines
  have hViews : viewsIn (perform settings story lines).events =
      viewsIn (eventsOf (begin settings .blank story)) ++
        viewsIn (goOn settings story (begin settings .blank story).2 lines).events := by
    rw [perform_eq, events_precededBy, viewsIn_append]
    rfl
  have hUnread : (perform settings story lines).unread =
      (goOn settings story (begin settings .blank story).2 lines).unread := rfl
  rw [hViews, hUnread, List.length_append]
  omega

end Play

-- ---------------------------------------------------------------------------
-- Endings
-- ---------------------------------------------------------------------------

/-- What it takes for a play of the story to end in some way, with some lines left unread. -/
def Ending.Justified (story : Story) (lines unread : List Line) : Ending → Prop
  | finished => True
  | inputClosed => unread = []
  | unreadable => .unreadable ∈ lines
  | refused cause => cause = .missingStart ∧ story.contains Story.startId = false

namespace Loop

/-- Some of the input has been read from the front, and the loops are left for a reason only. -/
def Sound (story : Story) (lines : List Line) (now : Loop) : Prop :=
  now.unread <:+ lines ∧ ∀ how unread, now = left how unread → how.Justified story lines unread

theorem justified_of_load {s s' : Session} {cause : SessionError} {unread : List Line}
    (hLoad : s.load story = (.error cause, s')) :
    (Ending.refused cause).Justified story lines unread := by
  have hError : (s.load story).1 = .error cause := by rw [hLoad]
  obtain ⟨hCause, hAbsent⟩ := Session.load_error_iff.mp hError
  exact ⟨hCause, Story.contains_eq_false_iff.mpr hAbsent⟩

theorem sound_start (story : Story) (lines : List Line) :
    (start story lines).2.Sound story lines := by
  unfold start
  simp only
  split
  · exact ⟨List.suffix_rfl, nofun⟩
  · rename_i hLoad
    refine ⟨List.suffix_rfl, ?_⟩
    rintro how unread ⟨⟩
    exact justified_of_load hLoad

theorem sound_round {now : Loop} (hSound : now.Sound story lines) (settings : Settings) :
    (now.round settings story).2.Sound story lines := by
  obtain ⟨hSuffix, hLeft⟩ := hSound
  refine ⟨?_, ?_⟩
  · rcases unread_round settings story now with hSame | ⟨line, hNext⟩
    · rw [← hSame]
      exact hSuffix
    · rw [hNext] at hSuffix
      exact (List.suffix_cons line _).trans hSuffix
  · fun_cases round settings story now with
    | case1 | case8 =>
      rintro how unread ⟨⟩
      rfl
    | case2 | case9 =>
      rintro how unread ⟨⟩
      exact hSuffix.subset List.mem_cons_self
    | case3 | case7 | case10 | case11 | case12 => exact nofun
    | case4 s notes hOver closing hAsk line lines hYes restart cause s' hLoad =>
      rintro how unread ⟨⟩
      exact justified_of_load hLoad
    | case5 | case6 =>
      rintro how unread ⟨⟩
      trivial
    | case13 how lines => exact hLeft

theorem sound_after (settings : Settings) (story : Story) (lines : List Line) (rounds : Nat) :
    (after settings story lines rounds).2.Sound story lines := by
  induction rounds with
  | zero => exact sound_start story lines
  | succ rounds ih => exact sound_round ih settings

end Loop

namespace Play

open Event

/-- A play ends for a reason. -/
theorem justified_perform (settings : Settings) (story : Story) (lines : List Line) :
    (perform settings story lines).ending.Justified story lines
      (perform settings story lines).unread := by
  obtain ⟨-, hLeft⟩ := Loop.sound_after settings story lines (2 * lines.length + 2)
  rw [Loop.after_eq_perform settings story lines (Nat.le_refl _)] at hLeft
  exact hLeft _ _ rfl

/-- **A play ends on every input.** Whatever the story and the settings are, the loops that serve
the player are left after at most two rounds for each line of input and two more; what they have
gone through by then is the play. No round reads more than the next line, so the lines are read in
their order and none of them twice. Every view but the first is the answer to a line. A play ends
for want of input only if all lines have been read, and if all lines can be read it goes wrong only
if the story has no first scene. -/
theorem ends_on_every_input (settings : Settings) (story : Story) (lines : List Line) :
    let p := perform settings story lines
    let now := Loop.after settings story lines
    (∀ rounds, 2 * lines.length + 2 ≤ rounds →
      now rounds = (p.events, .left p.ending p.unread)) ∧
    (now 0).2.unread = lines ∧
    (∀ rounds, (now rounds).2.unread = (now (rounds + 1)).2.unread ∨
      ∃ line, (now rounds).2.unread = line :: (now (rounds + 1)).2.unread) ∧
    p.unread <:+ lines ∧
    (viewsIn p.events).length + p.unread.length ≤ lines.length + 1 ∧
    (p.ending = .inputClosed → p.unread = []) ∧
    ((∀ line ∈ lines, line ≠ .unreadable) → p.ending = .finished ∨ p.ending = .inputClosed ∨
      (p.ending = .refused .missingStart ∧ story.contains Story.startId = false)) := by
  intro p now
  have hJustified : p.ending.Justified story lines p.unread :=
    justified_perform settings story lines
  refine ⟨fun rounds => Loop.after_eq_perform settings story lines,
    Loop.unread_start story lines, fun rounds => Loop.unread_round settings story _,
    unread_suffix_goOn settings story _ lines, length_viewsIn_perform settings story lines,
    ?_, ?_⟩
  · intro hClosed
    rw [hClosed] at hJustified
    exact hJustified
  · intro hReadable
    cases hEnding : p.ending with
    | finished => exact Or.inl rfl
    | inputClosed => exact Or.inr (Or.inl rfl)
    | unreadable =>
      rw [hEnding] at hJustified
      exact absurd rfl (hReadable _ hJustified)
    | refused cause =>
      rw [hEnding] at hJustified
      obtain ⟨rfl, hAbsent⟩ := hJustified
      exact Or.inr (Or.inr ⟨rfl, hAbsent⟩)

-- The bound on the views is met where every line is followed at once.
example :
    let circle : Story := .ofScenes "circle" [⟨"start", "again", [⟨"go on", "start", none⟩]⟩]
    let p := perform {} circle [.text "1", .text "1"]
    (viewsIn p.events).length = 3 ∧ p.unread = [] := by
  decide +kernel

end Play

end Gamebook
