import Gamebook.Session.Basic

/-!
# Gamebook — what the moves of a session do

Every move either arrives in a scene or is refused. The three case lemmas say
all that can come of a move, the reasons for a refusal included; whatever else
is proved about sessions goes through them and opens no move again.

* `enter_cases`, `load_cases`, `choose_cases` — one for each move.
* `perform_cases` — the same for all moves at once.
* `refused_move_changes_nothing` — wherever a session has come to, a refused
  move leaves all of it as it was, and each move is refused for its own reasons
  only. Loading overwrites the story and forgets the variables before it enters
  the first scene, so this rests on that scene being found there.
-/

namespace Gamebook.Session

variable {s : Session} {story : Story} {scene : Scene} {id : String} {index : Nat}
  {cause : SessionError}

-- ---------------------------------------------------------------------------
-- Arriving in a scene
-- ---------------------------------------------------------------------------

/-- The session that has entered a scene. -/
def inScene (s : Session) (scene : Scene) : Session where
  story := s.story
  vars := Template.assign scene.text s.vars
  cursor := scene.id
  entered := Template.shown scene.text s.vars

/-- The session that has just been started on a story, in its first scene. -/
def opening (story : Story) (scene : Scene) : Session where
  story := story
  vars := Template.assign scene.text ∅
  cursor := scene.id
  entered := Template.shown scene.text ∅

theorem enter_of_mem (hScene : scene ∈ s.story.scenes) :
    s.enter scene.id = (.ok (), s.inScene scene) := by
  have hFound : s.story.scene? scene.id = some scene :=
    Story.scene?_eq_some_iff.mpr ⟨hScene, rfl⟩
  unfold enter
  rw [hFound]
  simp only [Template.process_eq]
  rfl

theorem enter_of_absent (hAbsent : ∀ scene ∈ s.story.scenes, scene.id ≠ id) :
    s.enter id = (.error (.sceneNotFound id), s) := by
  have hNone : s.story.scene? id = none := Story.scene?_eq_none_iff.mpr hAbsent
  unfold enter
  rw [hNone]

-- ---------------------------------------------------------------------------
-- Choices that can be seen
-- ---------------------------------------------------------------------------

theorem mem_available_iff {choice : Choice} : choice ∈ s.available ↔
    ∃ scene, s.scene? = some scene ∧ choice ∈ scene.choices ∧ s.sees choice = true := by
  rw [available]
  cases s.scene? with
  | none => simp only [List.not_mem_nil, reduceCtorEq, false_and, exists_false]
  | some scene => simp only [List.mem_filter, Option.some.injEq, exists_eq_left']

theorem available_blank : blank.available = [] := rfl

-- ---------------------------------------------------------------------------
-- All that can come of a move
-- ---------------------------------------------------------------------------

theorem enter_cases (s : Session) (id : String) :
    ((∀ scene ∈ s.story.scenes, scene.id ≠ id) ∧
      s.enter id = (.error (.sceneNotFound id), s)) ∨
    ∃ scene ∈ s.story.scenes, scene.id = id ∧ s.enter id = (.ok (), s.inScene scene) := by
  by_cases hScene : ∃ scene ∈ s.story.scenes, scene.id = id
  · obtain ⟨scene, hMem, rfl⟩ := hScene
    exact Or.inr ⟨scene, hMem, rfl, enter_of_mem hMem⟩
  · have hAbsent : ∀ scene ∈ s.story.scenes, scene.id ≠ id := by
      intro scene hMem hId
      exact hScene ⟨scene, hMem, hId⟩
    exact Or.inl ⟨hAbsent, enter_of_absent hAbsent⟩

/-- What a load leaves behind depends on the story alone. -/
theorem load_cases (s : Session) (story : Story) :
    ((∀ scene ∈ story.scenes, scene.id ≠ Story.startId) ∧
      s.load story = (.error .missingStart, s)) ∨
    ∃ scene ∈ story.scenes, scene.id = Story.startId ∧
      s.load story = (.ok (), opening story scene) := by
  unfold load
  split
  · rename_i hContains
    obtain ⟨scene, hMem, hId⟩ := Story.contains_iff.mp hContains
    refine Or.inr ⟨scene, hMem, hId, ?_⟩
    -- The story is in place by now, and its first scene is looked up in it.
    have hMem' : scene ∈ ({ s with story := story, vars := ∅ } : Session).story.scenes := hMem
    rw [← hId, enter_of_mem hMem']
    rfl
  · rename_i hContains
    refine Or.inl ⟨?_, rfl⟩
    intro scene hMem hId
    exact hContains (Story.contains_iff.mpr ⟨scene, hMem, hId⟩)

/-- A story without a first scene is refused by all sessions. -/
theorem load_of_absent (hAbsent : ∀ scene ∈ story.scenes, scene.id ≠ Story.startId) (s : Session) :
    s.load story = (.error .missingStart, s) := by
  rcases load_cases s story with ⟨-, hLoad⟩ | ⟨scene, hMem, hId, -⟩
  · exact hLoad
  · exact absurd hId (hAbsent scene hMem)

theorem choose_cases (s : Session) (index : Nat) :
    (s.available.length ≤ index ∧
      s.choose index = (.error (.invalidChoice index s.available.length), s)) ∨
    ∃ choice, s.available[index]? = some choice ∧ s.choose index = s.enter choice.next := by
  unfold choose
  cases hChoice : s.available[index]? with
  | none => exact Or.inl ⟨List.getElem?_eq_none_iff.mp hChoice, rfl⟩
  | some choice => exact Or.inr ⟨choice, rfl, rfl⟩

/-- A move is refused and leaves the session alone, or it arrives in a scene. A load does so from
a session with the new story and no variables. -/
theorem perform_cases (s : Session) (m : Move) :
    (∃ cause, s.perform m = (.error cause, s)) ∨
    ∃ (base : Session) (scene : Scene), scene ∈ base.story.scenes ∧
      s.perform m = (.ok (), base.inScene scene) := by
  cases m with
  | load story =>
    rcases load_cases s story with ⟨-, hLoad⟩ | ⟨scene, hMem, -, hLoad⟩
    · exact Or.inl ⟨_, hLoad⟩
    · -- `opening` is the arrival from the session with the new story and no variables.
      exact Or.inr ⟨{ s with story := story, vars := ∅ }, scene, hMem, hLoad⟩
  | enter id =>
    rcases enter_cases s id with ⟨-, hEnter⟩ | ⟨scene, hMem, -, hEnter⟩
    · exact Or.inl ⟨_, hEnter⟩
    · exact Or.inr ⟨s, scene, hMem, hEnter⟩
  | choose index =>
    rcases choose_cases s index with ⟨-, hChoose⟩ | ⟨choice, -, hChoose⟩
    · exact Or.inl ⟨_, hChoose⟩
    · -- The choice can be seen, and may still lead nowhere.
      rcases enter_cases s choice.next with ⟨-, hEnter⟩ | ⟨scene, hMem, -, hEnter⟩
      · exact Or.inl ⟨_, hChoose.trans hEnter⟩
      · exact Or.inr ⟨s, scene, hMem, hChoose.trans hEnter⟩

-- ---------------------------------------------------------------------------
-- Refusals
-- ---------------------------------------------------------------------------

theorem perform_eq_of_error {m : Move} (hError : (s.perform m).1 = .error cause) :
    s.perform m = (.error cause, s) := by
  rcases perform_cases s m with ⟨cause', hMove⟩ | ⟨base, scene, -, hMove⟩
  · rw [hMove] at hError ⊢
    cases hError
    rfl
  · rw [hMove] at hError
    cases hError

/-- A reply that arrives in a scene unless the scene is absent is refused exactly if it is. -/
theorem error_iff_of_arrival {reply : Reply} {scenes : List Scene} {refusal : SessionError}
    {arrived : Scene → Session}
    (hCases : ((∀ scene ∈ scenes, scene.id ≠ id) ∧ reply = (.error refusal, s)) ∨
      ∃ scene ∈ scenes, scene.id = id ∧ reply = (.ok (), arrived scene)) :
    reply.1 = .error cause ↔ cause = refusal ∧ ∀ scene ∈ scenes, scene.id ≠ id := by
  rcases hCases with ⟨hAbsent, hReply⟩ | ⟨scene, hMem, hId, hReply⟩
  · rw [hReply]
    constructor
    · intro hError
      cases hError
      exact ⟨rfl, hAbsent⟩
    · rintro ⟨rfl, -⟩
      rfl
  · rw [hReply]
    constructor
    · intro hError
      cases hError
    · rintro ⟨-, hAbsent⟩
      exact absurd hId (hAbsent scene hMem)

theorem load_error_iff : (s.load story).1 = .error cause ↔
    cause = .missingStart ∧ ∀ scene ∈ story.scenes, scene.id ≠ Story.startId :=
  error_iff_of_arrival (load_cases s story)

theorem enter_error_iff : (s.enter id).1 = .error cause ↔
    cause = .sceneNotFound id ∧ ∀ scene ∈ s.story.scenes, scene.id ≠ id :=
  error_iff_of_arrival (enter_cases s id)

theorem choose_error_iff : (s.choose index).1 = .error cause ↔
    (s.available.length ≤ index ∧ cause = .invalidChoice index s.available.length) ∨
    ∃ choice, s.available[index]? = some choice ∧ cause = .sceneNotFound choice.next ∧
      ∀ scene ∈ s.story.scenes, scene.id ≠ choice.next := by
  rcases choose_cases s index with ⟨hLength, hChoose⟩ | ⟨choice, hChoice, hChoose⟩
  · rw [hChoose]
    constructor
    · intro hError
      cases hError
      exact Or.inl ⟨hLength, rfl⟩
    · rintro (⟨-, rfl⟩ | ⟨choice, hChoice, -, -⟩)
      · rfl
      · rw [List.getElem?_eq_none hLength] at hChoice
        cases hChoice
  · rw [hChoose, enter_error_iff]
    constructor
    · intro hRefused
      exact Or.inr ⟨choice, hChoice, hRefused⟩
    · rintro (⟨hLength, -⟩ | ⟨choice', hChoice', hRefused⟩)
      · rw [List.getElem?_eq_none hLength] at hChoice
        cases hChoice
      · rw [hChoice] at hChoice'
        cases hChoice'
        exact hRefused

/--
**Refused moves change nothing.** Wherever a session has come to after any
moves, a move that is refused leaves it as it was: the story, the variables, the
cursor and the text of the scene. A load is refused exactly if the story has no
first scene, and never once the story is in place; entering exactly if the
scene is absent; a choice exactly if its number is too high or its target is
absent.
-/
theorem refused_move_changes_nothing (moves : List Move) :
    let s := blank.play moves
    (∀ (m : Move) (cause : SessionError), (s.perform m).1 = .error cause → (s.perform m).2 = s) ∧
    (∀ (story : Story) (cause : SessionError), (s.load story).1 = .error cause ↔
      cause = .missingStart ∧ ∀ scene ∈ story.scenes, scene.id ≠ Story.startId) ∧
    (∀ story : Story, (∃ scene ∈ story.scenes, scene.id = Story.startId) →
      (enter { s with story := story, vars := ∅ } Story.startId).1 = .ok ()) ∧
    (∀ (id : String) (cause : SessionError), (s.enter id).1 = .error cause ↔
      cause = .sceneNotFound id ∧ ∀ scene ∈ s.story.scenes, scene.id ≠ id) ∧
    ∀ (index : Nat) (cause : SessionError), (s.choose index).1 = .error cause ↔
      (s.available.length ≤ index ∧ cause = .invalidChoice index s.available.length) ∨
      ∃ choice, s.available[index]? = some choice ∧ cause = .sceneNotFound choice.next ∧
        ∀ scene ∈ s.story.scenes, scene.id ≠ choice.next := by
  intro s
  -- None of this depends on the moves: the story has its index in every session.
  refine ⟨?_, fun _ _ => load_error_iff, ?_, fun _ _ => enter_error_iff,
    fun _ _ => choose_error_iff⟩
  · intro m cause hError
    rw [perform_eq_of_error hError]
  · rintro story ⟨scene, hMem, hId⟩
    have hMem' : scene ∈ ({ s with story := story, vars := ∅ } : Session).story.scenes := hMem
    rw [← hId, enter_of_mem hMem']

end Gamebook.Session
