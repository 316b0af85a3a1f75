import Gamebook.Player.Output
import Gamebook.Proofs.Moves
import Gamebook.Proofs.WrittenJson

/-!
# Gamebook — settings never affect play

A play puts out text or JSON at every turn, and the settings decide which. If
they only agree on whether the player is asked to play again, two plays of one
story on the same input go through the same events, and each puts out what its
settings make of them. Both are one statement: the play under some settings is
the play under others, with each happening told anew.

* `Happening.retold`, `Play.retold` — an event, and a whole play, as settings tell it.
* `arrive_retold`, `answer_retold` — one step of a play.
* `perform_retold` — a whole play.
* `presentation_never_affects_play` — what follows for events, endings, input
  and output.
-/

namespace Gamebook

open Json

variable {settings settings' : Settings} {story : Story} {lines : List Line} {phase : Phase}

-- ---------------------------------------------------------------------------
-- Telling anew
-- ---------------------------------------------------------------------------

namespace Happening

/-- The same event with what it comes to under the settings. -/
def retold (settings : Settings) (h : Happening) : Happening := ⟨h.event, h.event.output settings⟩

theorem retold_note (settings : Settings) (entry : Entry) :
    (note entry).retold settings = note entry := by
  have hNothing : Event.output settings (.noted entry) = "" := ite_self _
  rw [retold, note, hNothing]

theorem map_retold_note (settings : Settings) (entries : List Entry) :
    (entries.map note).map (retold settings) = entries.map note := by
  rw [List.map_map]
  exact List.map_congr_left fun entry _ => retold_note settings entry

theorem retold_rejected (cause : SelectionError) :
    (report settings' (.rejected cause) "" cause.message).retold settings =
      report settings (.rejected cause) "" cause.message := by
  rw [report, report, String.empty_append]
  rfl

end Happening

namespace Phase

open Happening

/-- What happens under some settings is what happens under others, told anew, and the play goes on
in the same phase. -/
def Retells (settings : Settings) (ours theirs : List Happening × Phase) : Prop :=
  ours = (theirs.1.map (retold settings), theirs.2)

theorem arrive_retold (hAsk : settings.askRestart = settings'.askRestart) (s : Session) :
    Retells settings (arrive settings s) (arrive settings' s) := by
  unfold Retells arrive
  simp only [hAsk]
  split
  · split
    · simp only [List.map_append, List.map_cons, List.map_nil, map_retold_note, retold_note]
      rfl
    · simp only [List.map_append, List.map_cons, List.map_nil, map_retold_note, retold_note]
      rfl
  · simp only [List.map_append, List.map_cons, List.map_nil, map_retold_note]
    rfl

theorem begin_retold (hAsk : settings.askRestart = settings'.askRestart) (s : Session)
    (story : Story) : Retells settings (begin settings s story) (begin settings' s story) := by
  unfold Retells begin
  simp only
  split
  · rw [arrive_retold hAsk, List.map_append, map_retold_note]
  · rw [map_retold_note]

theorem follow_retold (hAsk : settings.askRestart = settings'.askRestart) (s : Session)
    (index : Nat) : Retells settings (follow settings s index) (follow settings' s index) := by
  unfold Retells follow
  simp only
  split
  · rw [arrive_retold hAsk, List.map_append, List.map_cons, map_retold_note]
    rfl
  · rw [arrive_retold hAsk, List.map_append, List.map_cons, List.map_cons, List.map_cons,
      map_retold_note, retold_note]
    rfl

/-- A line of input is answered alike. -/
theorem answer_retold (hAsk : settings.askRestart = settings'.askRestart) (story : Story)
    (line : String) (phase : Phase) :
    Retells settings (phase.answer settings story line) (phase.answer settings' story line) := by
  cases phase with
  | choosing s view =>
    unfold answer
    simp only
    split
    · exact follow_retold hAsk s _
    · unfold Retells
      rw [List.map_cons, List.map_cons, retold_rejected]
      rfl
  | asking s =>
    unfold answer
    simp only
    split
    · exact begin_retold hAsk s story
    · rfl
  | stopped how => rfl

end Phase

namespace Play

open Phase

/-- A play as it is told under the settings. -/
def retold (settings : Settings) (p : Play) : Play :=
  { p with happenings := p.happenings.map (Happening.retold settings) }

/-- A play goes on alike, from the same phase and on the same input. -/
theorem goOn_retold (hAsk : settings.askRestart = settings'.askRestart) (story : Story)
    (phase : Phase) (lines : List Line) :
    goOn settings story phase lines = (goOn settings' story phase lines).retold settings := by
  -- A line leads to one phase under both settings, and the other lines are read from there.
  fun_induction goOn settings' story phase lines with
  | case1 how lines =>
    rw [goOn]
    rfl
  | case2 phase hOpen =>
    rw [goOn]
    · rfl
    · exact hOpen
  | case3 phase lines hOpen =>
    rw [goOn]
    · rfl
    · exact hOpen
  | case4 phase line lines hOpen happened rest ih =>
    rw [goOn, answer_retold hAsk story line phase]
    · simp only
      rw [ih, retold, retold, List.map_append]
    · exact hOpen

/-- **A play under some settings is the play under others, told anew.** -/
theorem perform_retold (hAsk : settings.askRestart = settings'.askRestart) (story : Story)
    (lines : List Line) :
    perform settings story lines = (perform settings' story lines).retold settings := by
  unfold perform
  rw [begin_retold hAsk .blank story]
  simp only
  rw [goOn_retold hAsk, retold, retold, List.map_append]

theorem events_retold (p : Play) : (p.retold settings).events = p.events := by
  rw [events, events, retold, List.map_map]
  rfl

/-- A play has put out what its events come to under its own settings. -/
theorem written_perform (settings : Settings) (story : Story) (lines : List Line) :
    (perform settings story lines).written = (perform settings story lines).output settings := by
  have hTold := perform_retold (Eq.refl settings.askRestart) story lines
  rw [written, hTold, output, events_retold, retold, events, List.map_map, List.map_map]
  rfl

-- ---------------------------------------------------------------------------
-- Input and endings
-- ---------------------------------------------------------------------------

/-- Lines are read from the front. -/
theorem unread_suffix_goOn (settings : Settings) (story : Story) (phase : Phase)
    (lines : List Line) : (goOn settings story phase lines).unread <:+ lines := by
  fun_induction goOn settings story phase lines with
  | case1 how lines => exact List.suffix_rfl
  | case2 phase hOpen => exact List.suffix_rfl
  | case3 phase lines hOpen => exact List.suffix_cons _ _
  | case4 phase line lines hOpen happened rest ih => exact ih.trans (List.suffix_cons _ _)

end Play

namespace Phase

/-- The phase does not come from a story that cannot be started. -/
def IsUnderWay (phase : Phase) : Prop := ∀ cause, phase ≠ .stopped (.refused cause)

theorem isUnderWay_arrive (settings : Settings) (s : Session) :
    (arrive settings s).2.IsUnderWay := by
  intro cause
  unfold arrive
  simp only
  split
  · split <;> exact nofun
  · exact nofun

theorem isUnderWay_begin (hStart : story.contains Story.startId = true) (settings : Settings)
    (s : Session) : (begin settings s story).2.IsUnderWay := by
  unfold begin
  rcases Session.load_cases s story with ⟨hAbsent, -⟩ | ⟨scene, -, -, hLoad⟩
  · obtain ⟨scene, hMem, hId⟩ := Story.contains_iff.mp hStart
    exact absurd hId (hAbsent scene hMem)
  · rw [hLoad]
    exact isUnderWay_arrive settings _

theorem isUnderWay_answer (hStart : story.contains Story.startId = true)
    (hPhase : phase.IsUnderWay) (settings : Settings) (line : String) :
    (phase.answer settings story line).2.IsUnderWay := by
  cases phase with
  | stopped how => exact hPhase
  | asking s =>
    unfold answer
    simp only
    split
    · exact isUnderWay_begin hStart settings s
    · exact nofun
  | choosing s view =>
    unfold answer
    simp only
    split
    · unfold follow
      simp only
      split
      · exact isUnderWay_arrive settings _
      · exact isUnderWay_arrive settings _
    · exact nofun

end Phase

namespace Play

/-- A story that has a first scene is played to its end, or as far as the input goes. -/
theorem ending_goOn_ne_refused (hStart : story.contains Story.startId = true) (settings : Settings)
    (hPhase : phase.IsUnderWay) (lines : List Line) (cause : SessionError) :
    (goOn settings story phase lines).ending ≠ .refused cause := by
  fun_induction goOn settings story phase lines with
  | case1 how lines => exact fun hEnding => hPhase cause (congrArg Phase.stopped hEnding)
  | case2 phase hOpen => exact nofun
  | case3 phase lines hOpen => exact nofun
  | case4 phase line lines hOpen happened rest ih =>
    exact ih (Phase.isUnderWay_answer hStart hPhase settings line)

end Play

-- ---------------------------------------------------------------------------
-- Output
-- ---------------------------------------------------------------------------

namespace Event

theorem isExact_toJson (v : View) : v.toJson.isExact = true := by
  have hChoices : areExact (v.choices.map ChoiceView.toJson) = true :=
    areExact_map fun _ _ => rfl
  have hParts : v.toJson.isExact = (true && (true && (areExact (v.choices.map ChoiceView.toJson) &&
      (true && true)))) := rfl
  rw [hParts, hChoices]
  rfl

theorem isExact_of_json? {e : Event} {value : Json} (hValue : e.json? = some value) :
    value.isExact = true := by
  cases e with
  | shown v | ended v =>
    cases hValue
    exact isExact_toJson v
  | rejected cause | failed cause =>
    cases hValue
    rfl
  | prompted count | handled | asked | noted entry => cases hValue

/-- As JSON, events come to one line for each of them that is told. -/
theorem join_line (events : List Event) :
    String.join (events.map line) =
      String.join ((events.filterMap json?).map fun value => value.text ++ "\n") := by
  induction events with
  | nil => rfl
  | cons e events ih =>
    cases hValue : e.json? with
    | none =>
      have hNothing : e.line = "" := by rw [line, hValue]
      rw [List.filterMap_cons_none hValue, List.map_cons, String.join_cons, hNothing,
        String.empty_append, ih]
    | some value =>
      have hLine : e.line = value.text ++ "\n" := by rw [line, hValue]
      rw [List.filterMap_cons_some hValue, List.map_cons, String.join_cons, hLine, ih,
        List.map_cons, String.join_cons]

end Event

namespace Play

/-- As JSON, a play puts out a line for each view and each error, and nothing else. -/
theorem written_of_json (hJson : settings.jsonOutput = true) (story : Story) (lines : List Line) :
    let p := perform settings story lines
    p.written =
      String.join ((p.events.filterMap Event.json?).map fun value => value.text ++ "\n") := by
  have hLine : Event.output settings = Event.line := by
    funext e
    rw [Event.output, if_pos hJson]
  simp only
  rw [written_perform, output, hLine, Event.join_line]

/-- As text, a play puts out the text of each event. -/
theorem written_of_text (hText : settings.jsonOutput = false) (story : Story) (lines : List Line) :
    let p := perform settings story lines
    p.written = String.join (p.events.map (Event.text settings)) := by
  have hEvent : Event.output settings = Event.text settings := by
    funext e
    rw [Event.output, hText, if_neg Bool.false_ne_true]
  simp only
  rw [written_perform, output, hEvent]

/-- **Settings that only tell a play do not affect it.** Two settings that agree on whether the
player is asked to play again lead, on every input, to the same events, the same ending and the
same lines left unread; a story with a first scene is never refused. What is put out follows from
the events alone: as JSON one line for each view and each error, as text what each event says under
the settings. -/
theorem presentation_never_affects_play (hAsk : settings.askRestart = settings'.askRestart)
    (story : Story) (lines : List Line) :
    let p := perform settings story lines
    let p' := perform settings' story lines
    p.events = p'.events ∧ p.ending = p'.ending ∧ p.unread = p'.unread ∧ p.unread <:+ lines ∧
    (story.contains Story.startId = true →
      p.ending = .finished ∨ p.ending = .inputClosed ∨ p.ending = .unreadable) ∧
    (settings.jsonOutput = true →
      p.written = String.join ((p.events.filterMap Event.json?).map fun v => v.text ++ "\n") ∧
      ∀ value ∈ p.events.filterMap Event.json?, '\n' ∉ value.text.toList) ∧
    (settings.jsonOutput = false →
      p.written = String.join (p.events.map (Event.text settings))) := by
  intro p p'
  have hRetold : p = p'.retold settings := perform_retold hAsk story lines
  refine ⟨?_, ?_, ?_, unread_suffix_goOn settings story _ lines, ?_, fun hJson => ⟨?_, ?_⟩, ?_⟩
  · rw [hRetold, events_retold]
  · rw [hRetold]
    rfl
  · rw [hRetold]
    rfl
  · intro hStart
    have hNotRefused : ∀ cause, p.ending ≠ .refused cause :=
      ending_goOn_ne_refused hStart settings (Phase.isUnderWay_begin hStart settings .blank) lines
    cases hEnding : p.ending with
    | finished => exact Or.inl rfl
    | inputClosed => exact Or.inr (Or.inl rfl)
    | unreadable => exact Or.inr (Or.inr rfl)
    | refused cause => exact absurd hEnding (hNotRefused cause)
  · exact written_of_json hJson story lines
  · intro value hMem
    obtain ⟨e, -, hValue⟩ := List.mem_filterMap.mp hMem
    rw [Json.text, String.toList_ofList]
    exact (noControl_write value (Event.isExact_of_json? hValue)).newline_not_mem
  · intro hText
    exact written_of_text hText story lines

/-- A story that goes in a circle. -/
def circle : Story := .ofScenes "circle" [⟨"start", "again", [⟨"go on", "start", none⟩]⟩]

/-- The circle, told as JSON and as text, up to a line that cannot be read. -/
theorem presentation_never_affects_play_circle :
    let lines : List Line := [.text "1", .text "x", .unreadable, .text "1"]
    let told := perform { jsonOutput := true, askRestart := false } circle lines
    let usual := run false circle lines
    told.events = usual.events ∧ told.ending = usual.ending ∧ usual.unread = [.text "1"] ∧
    (told.ending = .finished ∨ told.ending = .inputClosed ∨ told.ending = .unreadable) ∧
    told.written =
      String.join ((told.events.filterMap Event.json?).map fun v => v.text ++ "\n") := by
  intro lines told usual
  have hAsk : Settings.askRestart { jsonOutput := true, askRestart := false } =
      Settings.askRestart { askRestart := false } := rfl
  have hStart : circle.contains Story.startId = true := by decide +kernel
  have hUnread : told.unread = [.text "1"] := by decide +kernel
  obtain ⟨hEvents, hEnding, hSame, -, hEnds, hJson, -⟩ :=
    presentation_never_affects_play hAsk circle lines
  exact ⟨hEvents, hEnding, hSame.symm.trans hUnread, hEnds hStart, (hJson rfl).1⟩

end Play

end Gamebook
