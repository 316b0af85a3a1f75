import Gamebook.Proofs.Choices
import Gamebook.Proofs.Presentation
import Gamebook.Proofs.Steps

/-!
# Gamebook — the lines that a play says as JSON

With JSON as output a play says something whenever a view is shown, a line of
input selects nothing, or a choice cannot be followed, and it says nothing else.
Each time it says one line. Names and texts may hold any characters, line feeds
among them, so the lines could run into each other; they do not, and each of
them is read back as what it was made from.

What is said follows from the session alone. A line of input is a turn, which
either makes a move of the session or is refused as a selection. The loop of the
play, its questions and its notes for the journal add nothing.

* `View.read_toJson` — a view is read back from its tree.
* `Said` — what a line of JSON says; `Event.said?` — what an event says.
* `splitOn_join_lines` — lines without line feeds can be told apart.
* `Turn`, `Session.told` — turns, and what a session says on them.
* `Phase.takes_answer`, `Play.said_goOn` — one line of input, and all of them.
* `Play.says_lines` — the output of a whole play.
-/

namespace Gamebook

open Json

variable {settings : Settings} {story : Story} {s : Session} {phase : Phase}

-- ---------------------------------------------------------------------------
-- Views are read back
-- ---------------------------------------------------------------------------

/-- A numbered choice is read back, as long as its number fits 64 bits. -/
theorem ChoiceView.read_toJson (c : ChoiceView) (hIndex : c.index < Nat.pow 2 64) (depth : Nat) :
    reader (depth + 2) c.toJson.tree = .ok c := by
  have hMembers : c.toJson.tree = .object
      [(⟨.ok "index", .ok ()⟩, (count c.index).tree),
        (⟨.ok "text", .ok ()⟩, (string c.text).tree)] .closed := rfl
  have hFill : ((Reader.count (depth + 1) (count c.index).tree).bind fun index =>
      .ok { ({} : Partly) with index := some index }) = .ok { index := some c.index } := by
    rw [count_tree hIndex]
    rfl
  rw [reader, hMembers, Record.read_object, Record.fillMembers_cons rfl rfl hFill,
    Record.fillMembers_cons rfl rfl rfl]
  rfl

namespace View

variable {v : View}

/-- A view is read back, as long as the numbers of its choices fit 64 bits. -/
theorem read_toJson (hIndex : ∀ c ∈ v.choices, c.index < Nat.pow 2 64) (depth : Nat) :
    reader (depth + 4) v.toJson.tree = .ok v := by
  have hChoices : Reader.list ChoiceView.reader (depth + 3)
      (array (v.choices.map ChoiceView.toJson)).tree = .ok v.choices :=
    list_tree fun c hMem => c.read_toJson (hIndex c hMem) depth
  have hMembers : v.toJson.tree = .object
      [(⟨.ok "scene_id", .ok ()⟩, (string v.sceneId).tree),
        (⟨.ok "text", .ok ()⟩, (string v.text).tree),
        (⟨.ok "choices", .ok ()⟩, (array (v.choices.map ChoiceView.toJson)).tree),
        (⟨.ok "finished", .ok ()⟩, (bool v.finished).tree)] .closed := rfl
  have hFill : ((Reader.list ChoiceView.reader (depth + 3)
      (array (v.choices.map ChoiceView.toJson)).tree).bind fun choices =>
        .ok { ({ sceneId := some v.sceneId, text := some v.text } : Partly) with
          choices := some choices }) =
      .ok { sceneId := some v.sceneId, text := some v.text, choices := some v.choices } := by
    rw [hChoices]
    rfl
  rw [reader, hMembers, Record.read_object, Record.fillMembers_cons rfl rfl rfl,
    Record.fillMembers_cons rfl rfl rfl, Record.fillMembers_cons rfl rfl hFill,
    Record.fillMembers_cons rfl rfl rfl]
  rfl

/-- The choices of a session are numbered from zero on. -/
theorem index_lt_of_mem {c : ChoiceView} (hMem : c ∈ s.view.choices) :
    c.index < s.view.choices.length := by
  obtain ⟨⟨choice, place⟩, hPlace, rfl⟩ := List.mem_map.mp hMem
  have hLt : place < s.available.length := by
    have hBound := List.snd_lt_add_of_mem_zipIdx hPlace
    omega
  have hLength : s.view.choices.length = s.available.length := s.length_view
  show place < _
  omega

end View

-- ---------------------------------------------------------------------------
-- What is said
-- ---------------------------------------------------------------------------

/-- What a line of JSON says. -/
inductive Said where
  | view (v : View)
  /-- A line of input selects nothing. -/
  | rejected (cause : SelectionError)
  /-- The selected choice cannot be followed. -/
  | failed (cause : SessionError)
deriving DecidableEq

namespace Said

def json : Said → Json
  | view v => v.toJson
  | rejected cause => errorObject cause.message
  | failed cause => errorObject cause.message

/-- The message of an error that is said. -/
def message? : Said → Option String
  | view _ => none
  | rejected cause => some cause.message
  | failed cause => some cause.message

end Said

namespace Event

/-- What an event says. -/
def said? : Event → Option Said
  | shown v | ended v => some (.view v)
  | rejected cause => some (.rejected cause)
  | failed cause => some (.failed cause)
  | prompted _ | handled | asked | noted _ => none

theorem json?_eq_map (e : Event) : e.json? = e.said?.map Said.json := by
  cases e <;> rfl

end Event

namespace Said

variable {x : Said}

theorem isExact_json (x : Said) : x.json.isExact = true := by
  cases x with
  | view v => exact Event.isExact_toJson v
  | rejected cause => rfl
  | failed cause => rfl

theorem newline_not_mem (x : Said) : '\n' ∉ x.json.text.toList := by
  rw [Json.text, String.toList_ofList]
  exact (noControl_write x.json x.isExact_json).newline_not_mem

theorem json_of_message? {message : String} (hMessage : x.message? = some message) :
    x.json = errorObject message := by
  cases x with
  | view v => cases hMessage
  | rejected cause =>
    cases hMessage
    rfl
  | failed cause =>
    cases hMessage
    rfl

/-- An error is read back as the only member of its object. -/
theorem ofText_of_message? {message : String} (hMessage : x.message? = some message) :
    ofText (Reader.pairs Reader.string) x.json.text = .ok [("error", message)] := by
  refine ofText_text ?_
  rw [json_of_message? hMessage]
  rfl

/-- The view of a session is read back. No list in a memory of 64 bits is longer than that. -/
theorem ofText_view (hLength : s.view.choices.length ≤ Nat.pow 2 64) :
    ofText View.reader (view s.view).json.text = .ok s.view := by
  have hIndex : ∀ c ∈ s.view.choices, c.index < Nat.pow 2 64 := by
    intro c hMem
    have hLt := View.index_lt_of_mem hMem
    omega
  -- The limit of nesting leaves room for a view and its choices.
  exact ofText_text (View.read_toJson hIndex 124)

end Said

/-- Lines without line feeds can be told apart by the line feeds behind them. -/
theorem splitOn_join_lines {lines : List String} (hLines : ∀ line ∈ lines, '\n' ∉ line.toList) :
    (String.join (lines.map (· ++ "\n"))).toList.splitOn '\n' =
      lines.map String.toList ++ [[]] := by
  induction lines with
  | nil => rfl
  | cons line lines ih =>
    obtain ⟨hFirst, hRest⟩ := List.forall_mem_cons.mp hLines
    have hText : (String.join ((line :: lines).map (· ++ "\n"))).toList =
        line.toList ++ '\n' :: (String.join (lines.map (· ++ "\n"))).toList := by
      rw [List.map_cons, String.join_cons, String.toList_append, String.toList_append,
        List.append_assoc]
      rfl
    rw [hText, List.splitOn_append_cons_self_of_not_mem hFirst, ih hRest, List.map_cons,
      List.cons_append]

-- ---------------------------------------------------------------------------
-- Turns
-- ---------------------------------------------------------------------------

/-- What a line of input comes to for a session. -/
inductive Turn where
  | move (m : Move)
  /-- The line is refused as a selection. -/
  | reject (cause : SelectionError)

namespace Session

/-- What a session says on a turn, and the session that the turn leaves behind. A move ends in a
view, and one that is refused says so first. -/
def take (s : Session) : Turn → List Said × Session
  | .move m =>
    match s.perform m with
    | (.ok (), s') => ([.view s'.view], s')
    | (.error cause, s') => ([.failed cause, .view s'.view], s')
  | .reject cause => ([.rejected cause], s)

/-- The turn that a line is for a session: the answer whether to play again if the story is over, a
selection if it is not. `none` ends the play. -/
def turn? (ask : Bool) (story : Story) (s : Session) (line : String) : Option Turn :=
  if s.view.finished then
    if ask && Phase.isYes line then some (.move (.load story)) else none
  else
    match Selection.parse line s.view.choices.length with
    | .ok index => some (.move (.choose index))
    | .error cause => some (.reject cause)

/-- What a session says on lines of input. -/
def told (ask : Bool) (story : Story) : Session → List Line → List Said
  | _, [] | _, .unreadable :: _ => []
  | s, .text line :: lines =>
    match s.turn? ask story line with
    | some t => (s.take t).1 ++ told ask story (s.take t).2 lines
    | none => []

/-- What a new session says that starts a story and goes on with lines of input. -/
def tells (ask : Bool) (story : Story) (lines : List Line) : List Said :=
  let opening := blank.take (.move (.load story))
  opening.1 ++ told ask story opening.2 lines

theorem told_of_over (hOver : s.view.finished = true) (lines : List Line) :
    s.told false story lines = [] := by
  cases lines with
  | nil => rfl
  | cons line lines =>
    cases line with
    | unreadable => rfl
    | text line =>
      have hNone : s.turn? false story line = none := by
        rw [turn?, if_pos hOver]
        rfl
      rw [told, hNone]

end Session

/-- What events say. -/
def Event.saidIn (events : List Event) : List Said := events.filterMap said?

theorem Event.saidIn_append (earlier later : List Event) :
    saidIn (earlier ++ later) = saidIn earlier ++ saidIn later :=
  List.filterMap_append

/-- Notes are for the journal. -/
theorem Event.saidIn_notes (entries : List Entry) : saidIn (entries.map noted) = [] := by
  rw [saidIn, List.filterMap_map]
  exact List.filterMap_eq_nil_iff.mpr fun entry _ => rfl

namespace Phase

open Event

/-- The play has come to the session, and waits for what the session is due. -/
def IsAt (settings : Settings) (s : Session) : Phase → Prop
  | choosing s' view => s' = s ∧ view = s.view ∧ s.view.finished = false
  | asking s' => s' = s ∧ s.view.finished = true ∧ settings.askRestart = true
  | stopped _ => s.view.finished = true ∧ settings.askRestart = false

/-- What happens says what the session says on the turn, and leads to the session that the turn
leaves behind. -/
structure Takes (settings : Settings) (s : Session) (t : Turn)
    (happened : List Happening × Phase) : Prop where
  said : saidIn (eventsOf happened) = (s.take t).1
  isAt : happened.2.IsAt settings (s.take t).2

/-- On arriving somewhere a play says the view. -/
theorem said_arrive (settings : Settings) (s : Session) :
    saidIn (eventsOf (arrive settings s)) = [.view s.view] := by
  rcases arrive_cases settings s with
    ⟨-, -, hEvents⟩ | ⟨-, -, -, hEvents⟩ | ⟨-, -, -, hEvents⟩
  · rw [hEvents, saidIn_append, saidIn_notes]
    rfl
  · rw [hEvents, saidIn_append, saidIn_append, saidIn_notes]
    rfl
  · rw [hEvents, saidIn_append, saidIn_notes]
    rfl

theorem isAt_arrive (settings : Settings) (s : Session) :
    (arrive settings s).2.IsAt settings s := by
  rcases arrive_cases settings s with
    ⟨hGoing, hPhase, -⟩ | ⟨hOver, hAsk, hPhase, -⟩ | ⟨hOver, hAsk, hPhase, -⟩
  · rw [hPhase]
    exact ⟨rfl, rfl, hGoing⟩
  · rw [hPhase]
    exact ⟨rfl, hOver, hAsk⟩
  · rw [hPhase]
    exact ⟨hOver, hAsk⟩

theorem takes_begin (hStart : story.contains Story.startId = true) (settings : Settings)
    (s : Session) : Takes settings s (.move (.load story)) (begin settings s story) := by
  rcases begin_cases settings s story with
    ⟨cause, s', hLoad, -, -⟩ | ⟨s', hLoad, hPhase, hEvents⟩
  · obtain ⟨scene, hMem, hId⟩ := Story.contains_iff.mp hStart
    have hRefused : (s.load story).1 = .error cause := by rw [hLoad]
    exact absurd hId ((Session.load_error_iff.mp hRefused).2 scene hMem)
  · have hTake : s.take (.move (.load story)) = ([.view s'.view], s') := by
      rw [Session.take, Session.perform, hLoad]
    constructor
    · rw [hTake, hEvents, saidIn_append, saidIn_notes, said_arrive]
      rfl
    · rw [hTake, hPhase]
      exact isAt_arrive settings s'

theorem takes_follow (settings : Settings) (s : Session) (index : Nat) :
    Takes settings s (.move (.choose index)) (follow settings s index) := by
  rcases follow_cases settings s index with
    ⟨cause, s', hChoose, hPhase, hEvents⟩ | ⟨s', hChoose, hPhase, hEvents⟩
  · have hTake : s.take (.move (.choose index)) = ([.failed cause, .view s'.view], s') := by
      rw [Session.take, Session.perform, hChoose]
    constructor
    · rw [hTake, hEvents, saidIn_append, saidIn_append, saidIn_notes, said_arrive]
      rfl
    · rw [hTake, hPhase]
      exact isAt_arrive settings s'
  · have hTake : s.take (.move (.choose index)) = ([.view s'.view], s') := by
      rw [Session.take, Session.perform, hChoose]
    constructor
    · rw [hTake, hEvents, saidIn_append, saidIn_append, saidIn_notes, said_arrive]
      rfl
    · rw [hTake, hPhase]
      exact isAt_arrive settings s'

/-- A line ends the play without a word, or it is a turn of the session. -/
theorem takes_answer (hStart : story.contains Story.startId = true)
    (hAt : phase.IsAt settings s) (hOpen : ∀ how, phase ≠ .stopped how) (line : String) :
    (s.turn? settings.askRestart story line = none ∧
      phase.answer settings story line = ([], .stopped .finished)) ∨
    ∃ t, s.turn? settings.askRestart story line = some t ∧
      Takes settings s t (phase.answer settings story line) := by
  unfold Session.turn?
  cases phase with
  | choosing s' view =>
    obtain ⟨rfl, rfl, hGoing⟩ := hAt
    rw [hGoing, if_neg Bool.false_ne_true, answer]
    cases Selection.parse line s'.view.choices.length with
    | ok index => exact Or.inr ⟨_, rfl, takes_follow settings s' index⟩
    | error cause => exact Or.inr ⟨_, rfl, rfl, rfl, rfl, hGoing⟩
  | asking s' =>
    obtain ⟨rfl, hOver, hAsk⟩ := hAt
    rw [hOver, hAsk, if_pos rfl, Bool.true_and, answer]
    by_cases hYes : isYes line = true
    · rw [if_pos hYes, if_pos hYes]
      exact Or.inr ⟨_, rfl, takes_begin hStart settings s'⟩
    · rw [if_neg hYes, if_neg hYes]
      exact Or.inl ⟨rfl, rfl⟩
  | stopped how => exact absurd rfl (hOpen how)

end Phase

-- ---------------------------------------------------------------------------
-- Whole plays
-- ---------------------------------------------------------------------------

namespace Play

open Phase Event

/-- What a play says. -/
def said (p : Play) : List Said := saidIn p.events

/-- From a phase on, a play says what the session says that it has come to. -/
theorem said_goOn (hStart : story.contains Story.startId = true) (hAt : phase.IsAt settings s)
    (lines : List Line) :
    (goOn settings story phase lines).said = s.told settings.askRestart story lines := by
  -- A line is one turn, and the other lines are read by the session that it leaves behind.
  revert s
  fun_induction goOn settings story phase lines with
  | case1 how lines =>
    rintro s ⟨hOver, hAsk⟩
    rw [hAsk, Session.told_of_over hOver]
    rfl
  | case2 phase hOpen => exact fun _ => rfl
  | case3 phase lines hOpen => exact fun _ => rfl
  | case4 phase line lines hOpen happened rest =>
    rename_i ih
    intro s hAt
    have hSaid : (rest.precededBy happened.1).said = saidIn (eventsOf happened) ++ rest.said := by
      rw [said, events_precededBy, saidIn_append]
      rfl
    show (rest.precededBy happened.1).said = _
    rcases takes_answer hStart hAt hOpen line with ⟨hNone, hAnswer⟩ | ⟨t, hTurn, hTakes⟩
    · have hRest : rest.said = [] := by
        show (goOn settings story (phase.answer settings story line).2 lines).said = []
        rw [hAnswer, goOn]
        rfl
      have hHappened : saidIn (eventsOf happened) = [] :=
        congrArg (fun happened => saidIn (eventsOf happened)) hAnswer
      rw [hSaid, hRest, hHappened, Session.told, hNone]
      rfl
    · rw [hSaid, hTakes.said, ih hTakes.isAt, Session.told, hTurn]

theorem said_perform (hStart : story.contains Story.startId = true) (settings : Settings)
    (lines : List Line) :
    (perform settings story lines).said = Session.tells settings.askRestart story lines := by
  have hBegin := takes_begin hStart settings .blank
  have hSaid : (perform settings story lines).said =
      saidIn (eventsOf (begin settings .blank story)) ++
        (goOn settings story (begin settings .blank story).2 lines).said := by
    rw [perform_eq, said, events_precededBy, saidIn_append]
    rfl
  rw [hSaid, hBegin.said, said_goOn hStart hBegin.isAt, Session.tells]

/-- As JSON, a play puts out what it says, and nothing else. -/
theorem written_eq_said (hJson : settings.jsonOutput = true) (story : Story)
    (lines : List Line) :
    let p := perform settings story lines
    p.written = String.join (p.said.map fun x => x.json.text ++ "\n") := by
  have hSaid : Event.json? = fun e => e.said?.map Said.json := funext Event.json?_eq_map
  intro p
  have hWritten : p.written = _ := written_of_json hJson story lines
  rw [hWritten, hSaid, said, saidIn, ← List.map_filterMap, List.map_map]
  rfl

end Play

namespace Session

variable {v : View}

theorem exists_view_of_mem_take {t : Turn} (hMem : .view v ∈ (s.take t).1) :
    ∃ s' : Session, v = s'.view := by
  cases t with
  | move m =>
    rw [take] at hMem
    rcases hReply : s.perform m with ⟨cause | _, s'⟩
    · simp only [hReply, List.mem_cons, reduceCtorEq, false_or, Said.view.injEq,
        List.not_mem_nil, or_false] at hMem
      exact ⟨s', hMem⟩
    · simp only [hReply, List.mem_cons, Said.view.injEq, List.not_mem_nil, or_false] at hMem
      exact ⟨s', hMem⟩
  | reject cause =>
    rw [take] at hMem
    simp only [List.mem_cons, reduceCtorEq, List.not_mem_nil, or_false] at hMem

theorem exists_view_of_mem_told {ask : Bool} {lines : List Line}
    (hMem : .view v ∈ s.told ask story lines) : ∃ s' : Session, v = s'.view := by
  induction lines generalizing s with
  | nil => cases hMem
  | cons line lines ih =>
    cases line with
    | unreadable => cases hMem
    | text line =>
      rw [told] at hMem
      cases hTurn : s.turn? ask story line with
      | none =>
        rw [hTurn] at hMem
        cases hMem
      | some t =>
        simp only [hTurn] at hMem
        rcases List.mem_append.mp hMem with hTake | hRest
        · exact exists_view_of_mem_take hTake
        · exact ih hRest

theorem exists_view_of_mem_tells {ask : Bool} {lines : List Line}
    (hMem : .view v ∈ tells ask story lines) : ∃ s' : Session, v = s'.view := by
  rcases List.mem_append.mp hMem with hTake | hRest
  · exact exists_view_of_mem_take hTake
  · exact exists_view_of_mem_told hRest

end Session

namespace Play

/--
**With JSON as output a play says one line at a time.** Whatever characters the
story holds, what a play has put out can be cut at the line feeds into one line
for each view shown, each line of input refused as a selection and each choice
that cannot be followed, in the order in which they happen, and nothing else.
What is said is what the session tells on the same input: the view it has now,
after each move, and why a selection or a move is refused. Each line is read
back, a view as the same view and an error as its message. For a view this
needs the numbers of its choices to fit 64 bits, and no list in memory is too
long for that.
-/
theorem says_lines (hJson : settings.jsonOutput = true)
    (hStart : story.contains Story.startId = true) (lines : List Line) :
    let p := perform settings story lines
    p.written = String.join (p.said.map fun x => x.json.text ++ "\n") ∧
    p.written.toList.splitOn '\n' = p.said.map (fun x => x.json.text.toList) ++ [[]] ∧
    p.said = Session.tells settings.askRestart story lines ∧
    (∀ v, .view v ∈ p.said → v.choices.length ≤ Nat.pow 2 64 →
      ofText View.reader v.toJson.text = .ok v) ∧
    ∀ x ∈ p.said, ∀ message, x.message? = some message →
      x.json = errorObject message ∧
      ofText (Reader.pairs Reader.string) x.json.text = .ok [("error", message)] := by
  intro p
  have hWritten : p.written = _ := written_eq_said hJson story lines
  have hSaid : p.said = _ := said_perform hStart settings lines
  refine ⟨hWritten, ?_, hSaid, ?_, ?_⟩
  · have hLines : ∀ line ∈ p.said.map fun x => x.json.text, '\n' ∉ line.toList := by
      intro line hMem
      obtain ⟨x, -, rfl⟩ := List.mem_map.mp hMem
      exact x.newline_not_mem
    have hSplit := splitOn_join_lines hLines
    rw [List.map_map, List.map_map] at hSplit
    rw [hWritten]
    exact hSplit
  · intro v hMem hLength
    rw [hSaid] at hMem
    obtain ⟨s, rfl⟩ := Session.exists_view_of_mem_tells hMem
    exact Said.ofText_view hLength
  · intro x _ message hMessage
    exact ⟨Said.json_of_message? hMessage, Said.ofText_of_message? hMessage⟩

/-- A shore with line feeds, quotes and a control character, and a way that leads nowhere. -/
def shore : Story := .ofScenes "shore"
  [⟨"start", "The \"sea\"\nand \x07 a bell", [⟨"swim\n", "deep", none⟩, ⟨"wait", "\n", none⟩]⟩,
    ⟨"\n", "Night.", []⟩]

/-- A line that selects nothing, the way to nowhere, and the end: five lines are said. -/
theorem says_lines_shore :
    let p := perform { jsonOutput := true } shore [.text "x", .text "1", .text "2"]
    let sea : View :=
      ⟨"start", "The \"sea\"\nand \x07 a bell", [⟨0, "swim\n"⟩, ⟨1, "wait"⟩], false⟩
    p.said = [.view sea, .rejected (.outOfRange 2), .failed (.sceneNotFound "deep"), .view sea,
      .view ⟨"\n", "Night.", [], true⟩] ∧
    p.written.toList.splitOn '\n' = p.said.map (fun x => x.json.text.toList) ++ [[]] ∧
    ofText View.reader sea.toJson.text = .ok sea := by
  intro p sea
  have hStart : shore.contains Story.startId = true := by decide +kernel
  have hJson : Settings.jsonOutput { jsonOutput := true } = true := rfl
  have hSaid : p.said = [.view sea, .rejected (.outOfRange 2), .failed (.sceneNotFound "deep"),
      .view sea, .view ⟨"\n", "Night.", [], true⟩] := by decide +kernel
  obtain ⟨-, hSplit, -, hRead, -⟩ := says_lines hJson hStart [.text "x", .text "1", .text "2"]
  have hMem : .view sea ∈ p.said := by
    rw [hSaid]
    exact List.mem_cons_self
  have hLength : sea.choices.length ≤ Nat.pow 2 64 := by decide
  exact ⟨hSaid, hSplit, hRead sea hMem hLength⟩

end Play

end Gamebook
