import Gamebook.Player.Play

/-!
# Gamebook — what one step of a play does

A play goes on in steps. It starts a story, follows a choice or answers a line,
and then it arrives at a scene or stops. The case lemmas say which events a step
goes through and what the play waits for after it; what is proved about the
events of whole plays goes through them.

* `Phase.eventsOf` — the events of a step.
* `Phase.arrive_cases`, `Phase.begin_cases`, `Phase.follow_cases` — all that can
  come of arriving, of starting a story and of following a choice.
* `Play.goOn_text`, `Play.perform_eq` — a play as one step, with a play behind it.
-/

namespace Gamebook

variable {settings : Settings} {story : Story} {phase : Phase}

namespace Phase

-- ---------------------------------------------------------------------------
-- All that can come of a step
-- ---------------------------------------------------------------------------

/-- The events of a step. -/
def eventsOf (happened : List Happening × Phase) : List Event :=
  happened.1.map Happening.event

theorem map_event_note (entries : List Entry) :
    (entries.map Happening.note).map Happening.event = entries.map Event.noted := by
  rw [List.map_map]
  rfl

/-- Where choices are shown the player is asked for one of them. Where none are the story is over,
and the player is asked whether to play again if the settings say so. -/
theorem arrive_cases (settings : Settings) (s : Session) :
    let notes := s.hiddenEntries.map Event.noted
    let closing : List Event := [.ended s.view, .noted (.storyFinished s.view.sceneId)]
    (s.view.finished = false ∧ (arrive settings s).2 = choosing s s.view ∧
      eventsOf (arrive settings s) =
        notes ++ [.shown s.view, .prompted s.view.choices.length]) ∨
    (s.view.finished = true ∧ settings.askRestart = true ∧
      (arrive settings s).2 = asking s ∧
      eventsOf (arrive settings s) = notes ++ closing ++ [.asked]) ∨
    (s.view.finished = true ∧ settings.askRestart = false ∧
      (arrive settings s).2 = stopped .finished ∧
      eventsOf (arrive settings s) = notes ++ closing) := by
  intro notes closing
  unfold eventsOf arrive
  simp only
  split
  · rename_i hOver
    split
    · rename_i hAsk
      refine Or.inr (Or.inl ⟨hOver, hAsk, rfl, ?_⟩)
      rw [List.map_append, List.map_append, map_event_note]
      rfl
    · rename_i hAsk
      refine Or.inr (Or.inr ⟨hOver, Bool.eq_false_iff.mpr hAsk, rfl, ?_⟩)
      rw [List.map_append, map_event_note]
      rfl
  · rename_i hOver
    refine Or.inl ⟨Bool.eq_false_iff.mpr hOver, rfl, ?_⟩
    rw [List.map_append, map_event_note]
    rfl

/-- Starting a story ends the play, or it arrives in the session that the load gives. -/
theorem begin_cases (settings : Settings) (s : Session) (story : Story) :
    let notes := (s.loadEntries story).map Event.noted
    (∃ cause s', s.load story = (.error cause, s') ∧
      (begin settings s story).2 = stopped (.refused cause) ∧
      eventsOf (begin settings s story) = notes) ∨
    ∃ s', s.load story = (.ok (), s') ∧
      (begin settings s story).2 = (arrive settings s').2 ∧
      eventsOf (begin settings s story) = notes ++ eventsOf (arrive settings s') := by
  intro notes
  unfold begin
  rcases s.load story with ⟨cause | _, s'⟩
  · exact Or.inl ⟨cause, s', rfl, rfl, map_event_note _⟩
  · refine Or.inr ⟨s', rfl, rfl, ?_⟩
    rw [eventsOf, List.map_append, map_event_note]
    rfl

/-- Following a choice arrives in the session that the choice leaves behind, after a word on why it
is refused if it is. -/
theorem follow_cases (settings : Settings) (s : Session) (index : Nat) :
    let notes := (s.chooseEntries index).map Event.noted
    (∃ cause s', s.choose index = (.error cause, s') ∧
      (follow settings s index).2 = (arrive settings s').2 ∧
      eventsOf (follow settings s index) = notes ++
        [.noted (.choiceFailed cause), .failed cause, .handled] ++
          eventsOf (arrive settings s')) ∨
    ∃ s', s.choose index = (.ok (), s') ∧
      (follow settings s index).2 = (arrive settings s').2 ∧
      eventsOf (follow settings s index) =
        notes ++ [.handled] ++ eventsOf (arrive settings s') := by
  intro notes
  unfold follow
  rcases s.choose index with ⟨cause | _, s'⟩
  · refine Or.inl ⟨cause, s', rfl, rfl, ?_⟩
    rw [eventsOf, List.map_append, map_event_note, List.append_assoc]
    rfl
  · refine Or.inr ⟨s', rfl, rfl, ?_⟩
    rw [eventsOf, List.map_append, map_event_note, List.append_assoc]
    rfl

end Phase

-- ---------------------------------------------------------------------------
-- A play as a step and the play behind it
-- ---------------------------------------------------------------------------

namespace Play

open Phase

/-- A play with happenings in front. -/
def precededBy (p : Play) (earlier : List Happening) : Play :=
  { p with happenings := earlier ++ p.happenings }

theorem precededBy_precededBy (p : Play) (earlier later : List Happening) :
    (p.precededBy later).precededBy earlier = p.precededBy (earlier ++ later) := by
  rw [precededBy, precededBy, precededBy, List.append_assoc]

theorem written_precededBy (p : Play) (earlier : List Happening) :
    (p.precededBy earlier).written =
      String.join (earlier.map Happening.written) ++ p.written := by
  rw [written, precededBy, List.map_append, String.join_append]
  rfl

theorem events_precededBy (p : Play) (earlier : List Happening) :
    (p.precededBy earlier).events = earlier.map Happening.event ++ p.events :=
  List.map_append

/-- A phase that waits is answered by a line of text. -/
theorem goOn_text (hOpen : ∀ how, phase ≠ .stopped how) (line : String) (lines : List Line) :
    goOn settings story phase (.text line :: lines) =
      (goOn settings story (phase.answer settings story line).2 lines).precededBy
        (phase.answer settings story line).1 := by
  rw [goOn]
  · rfl
  · exact hOpen

theorem perform_eq (settings : Settings) (story : Story) (lines : List Line) :
    perform settings story lines =
      (goOn settings story (begin settings .blank story).2 lines).precededBy
        (begin settings .blank story).1 := rfl

end Play

end Gamebook
