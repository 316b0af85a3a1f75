import Gamebook.Proofs.Snapshot

/-!
# Gamebook — a playthrough is told by its story and its scenes

A load leaves nothing of what was played before: the session that it gives is
determined by the story. From then on the variables are what the directives of
the entered scenes make of them, in the order in which the scenes are entered.

* `Visit` — a move that stays in the story, and the scene it asks for.
* `Session.trail` — the scenes that a list of visits enters.
* `Session.ComesFrom` — the sessions that visits lead to from the start of a story.
* `vars_tour` — the variables after visits are those before, with the directives
  along the trail carried out.
* `tour_after_load` — a load makes every history alike, and what follows it is
  told by the trail.
-/

namespace Gamebook

/-- A move that stays in the story. -/
inductive Visit where
  | enter (id : String)
  | choose (index : Nat)

def Visit.move : Visit → Move
  | enter id => .enter id
  | choose index => .choose index

/-- The name of the scene that a visit asks for. -/
def Visit.target? (s : Session) : Visit → Option String
  | enter id => some id
  | choose index => s.available[index]?.map Choice.next

/-- The directives of the scene of that name, in their order. -/
def Story.directivesOf (story : Story) (id : String) : List Directive :=
  match story.scene? id with
  | some scene => Template.directives scene.text
  | none => []

theorem Story.directivesOf_id {story : Story} {scene : Scene} (hMem : scene ∈ story.scenes) :
    story.directivesOf scene.id = Template.directives scene.text := by
  have hFound : story.scene? scene.id = some scene := Story.scene?_eq_some_iff.mpr ⟨hMem, rfl⟩
  rw [Story.directivesOf, hFound]

namespace Session

variable {s : Session} {story : Story} {scene : Scene}

/-- The session after a list of visits. -/
def tour (s : Session) (visits : List Visit) : Session := s.play (visits.map Visit.move)

/-- The names of the scenes that a list of visits enters: the targets of those that are not
refused. -/
def trail (s : Session) : List Visit → List String
  | [] => []
  | v :: visits =>
    match s.perform v.move with
    | (.ok (), s') => (v.target? s).toList ++ trail s' visits
    | (.error _, s') => trail s' visits

-- ---------------------------------------------------------------------------
-- One visit
-- ---------------------------------------------------------------------------

/-- A visit is refused and leaves the session alone, or it enters the scene it asks for. -/
theorem visit_cases (s : Session) (v : Visit) :
    (∃ cause, s.perform v.move = (.error cause, s)) ∨
    ∃ scene ∈ s.story.scenes, v.target? s = some scene.id ∧
      s.perform v.move = (.ok (), s.inScene scene) := by
  cases v with
  | enter id =>
    rcases enter_cases s id with ⟨-, hEnter⟩ | ⟨scene, hMem, rfl, hEnter⟩
    · exact Or.inl ⟨_, hEnter⟩
    · exact Or.inr ⟨scene, hMem, rfl, hEnter⟩
  | choose index =>
    rcases choose_cases s index with ⟨-, hChoose⟩ | ⟨choice, hChoice, hChoose⟩
    · exact Or.inl ⟨_, hChoose⟩
    · rcases enter_cases s choice.next with ⟨-, hEnter⟩ | ⟨scene, hMem, hId, hEnter⟩
      · exact Or.inl ⟨_, hChoose.trans hEnter⟩
      · refine Or.inr ⟨scene, hMem, ?_, hChoose.trans hEnter⟩
        rw [Visit.target?, hChoice, hId]
        rfl

theorem tour_append (s : Session) (earlier later : List Visit) :
    s.tour (earlier ++ later) = (s.tour earlier).tour later := by
  rw [tour, tour, tour, play, play, play, List.map_append, List.foldl_append]

theorem tour_cons_of_error {v : Visit} {cause : SessionError}
    (hVisit : s.perform v.move = (.error cause, s)) (visits : List Visit) :
    s.tour (v :: visits) = s.tour visits ∧ s.trail (v :: visits) = s.trail visits := by
  constructor
  · rw [tour, play, List.map_cons, List.foldl_cons, after, hVisit]
    rfl
  · rw [trail, hVisit]

theorem tour_cons_of_ok {v : Visit} (hTarget : v.target? s = some scene.id)
    (hVisit : s.perform v.move = (.ok (), s.inScene scene)) (visits : List Visit) :
    s.tour (v :: visits) = (s.inScene scene).tour visits ∧
      s.trail (v :: visits) = scene.id :: (s.inScene scene).trail visits := by
  constructor
  · rw [tour, play, List.map_cons, List.foldl_cons, after, hVisit]
    rfl
  · rw [trail, hVisit]
    simp only [hTarget]
    rfl

-- ---------------------------------------------------------------------------
-- Lists of visits
-- ---------------------------------------------------------------------------

/-- Visits stay in the story. -/
theorem story_tour (s : Session) (visits : List Visit) : (s.tour visits).story = s.story := by
  induction visits generalizing s with
  | nil => rfl
  | cons v visits ih =>
    rcases visit_cases s v with ⟨cause, hVisit⟩ | ⟨scene, -, hTarget, hVisit⟩
    · rw [(tour_cons_of_error hVisit visits).1, ih]
    · rw [(tour_cons_of_ok hTarget hVisit visits).1, ih]
      rfl

/-- Visits do to the variables what the directives along their trail do. -/
theorem vars_tour (s : Session) (visits : List Visit) :
    (s.tour visits).vars =
      ((s.trail visits).flatMap s.story.directivesOf).foldl Directive.setIn s.vars := by
  induction visits generalizing s with
  | nil => rfl
  | cons v visits ih =>
    rcases visit_cases s v with ⟨cause, hVisit⟩ | ⟨scene, hMem, hTarget, hVisit⟩
    · obtain ⟨hTour, hTrail⟩ := tour_cons_of_error hVisit visits
      rw [hTour, hTrail, ih]
    · obtain ⟨hTour, hTrail⟩ := tour_cons_of_ok hTarget hVisit visits
      rw [hTour, hTrail, ih, List.flatMap_cons, List.foldl_append, Story.directivesOf_id hMem]
      -- Entering the scene has carried out its directives, and the story is the same.
      rfl

/-- Between two sessions of a tour no variable is forgotten, and only the directives along the
trail from the one to the other change any. -/
theorem vars_tour_append (s : Session) (earlier later : List Visit) (name : String) :
    (name ∈ (s.tour earlier).vars → name ∈ (s.tour (earlier ++ later)).vars) ∧
    ((∀ d ∈ ((s.tour earlier).trail later).flatMap s.story.directivesOf, d.target ≠ name) →
      (s.tour (earlier ++ later)).vars[name]? = (s.tour earlier).vars[name]?) := by
  rw [tour_append, vars_tour (s.tour earlier) later, story_tour]
  exact ⟨Directive.mem_foldl_of_mem, Directive.getElem?_foldl_of_forall_ne⟩

-- ---------------------------------------------------------------------------
-- Starting a story
-- ---------------------------------------------------------------------------

/-- A story starts in its first scene, or not at all. -/
theorem start_cases (story : Story) :
    ((∀ scene ∈ story.scenes, scene.id ≠ Story.startId) ∧
      start story = .error .missingStart) ∨
    ∃ scene ∈ story.scenes, scene.id = Story.startId ∧
      start story = .ok (opening story scene) := by
  rw [start]
  rcases load_cases blank story with ⟨hAbsent, hLoad⟩ | ⟨scene, hMem, hId, hLoad⟩
  · rw [hLoad]
    exact Or.inl ⟨hAbsent, rfl⟩
  · rw [hLoad]
    exact Or.inr ⟨scene, hMem, hId, rfl⟩

theorem opening_of_start {s₀ : Session} (hStart : start story = .ok s₀) :
    ∃ scene ∈ story.scenes, scene.id = Story.startId ∧ s₀ = opening story scene := by
  rcases start_cases story with ⟨-, hNone⟩ | ⟨scene, hMem, hId, hOpening⟩
  · rw [hNone] at hStart
    cases hStart
  · rw [hOpening] at hStart
    cases hStart
    exact ⟨scene, hMem, hId, rfl⟩

/-- A load that succeeds gives the session in which the story starts. -/
theorem load_eq_of_start {s₀ : Session} (hStart : start story = .ok s₀) (s : Session) :
    s.load story = (.ok (), s₀) := by
  obtain ⟨scene, hMem, hId, rfl⟩ := opening_of_start hStart
  rcases load_cases s story with ⟨hAbsent, -⟩ | ⟨scene', hMem', hId', hLoad⟩
  · exact absurd hId (hAbsent scene hMem)
  · -- Both are the scene of that name, and names are distinct.
    have hFound := Story.scene?_eq_some_iff.mpr ⟨hMem, hId⟩
    have hFound' := Story.scene?_eq_some_iff.mpr ⟨hMem', hId'⟩
    rw [hFound] at hFound'
    cases hFound'
    exact hLoad

/-- The first scene of a story makes its variables from none. -/
theorem vars_of_start {s₀ : Session} (hStart : start story = .ok s₀) :
    s₀.story = story ∧ s₀.vars = (story.directivesOf Story.startId).foldl Directive.setIn ∅ := by
  obtain ⟨scene, hMem, hId, rfl⟩ := opening_of_start hStart
  rw [← hId, Story.directivesOf_id hMem]
  exact ⟨rfl, rfl⟩

/-- Some visits lead to the session from the start of the story. -/
def ComesFrom (s : Session) (story : Story) : Prop :=
  ∃ (s₀ : Session) (visits : List Visit), start story = .ok s₀ ∧ s = s₀.tour visits

/-- Such a session is in a scene of the story. -/
theorem shows_of_comesFrom (hComes : s.ComesFrom story) :
    s.story = story ∧ ∃ scene, s.Shows scene := by
  obtain ⟨s₀, visits, hStart, rfl⟩ := hComes
  obtain ⟨scene, hMem, -, rfl⟩ := opening_of_start hStart
  exact ⟨story_tour _ visits, shows_play (shows_opening hMem) _⟩

/--
**A load makes every history alike.** Whatever was played before, loading a
story that has a first scene and then making any visits gives the same session
and the same answers as making them on a new session of the story. The variables
are those of the directives of the first scene and of the scenes that were
entered since, carried out in order from none: each sets its variable to what its
value reads as, whatever the variable was before. From any point of the tour on, no
variable is forgotten, and those that no directive of a scene entered since sets
keep their values.
-/
theorem tour_after_load (moves : List Move) (story : Story) (visits : List Visit)
    (hFirst : ∃ scene ∈ story.scenes, scene.id = Story.startId) :
    ∃ s₀, start story = .ok s₀ ∧
      ((blank.play moves).load story).1 = .ok () ∧
      ((blank.play moves).load story).2.tour visits = s₀.tour visits ∧
      ((blank.play moves).load story).2.log (visits.map Visit.move) =
        s₀.log (visits.map Visit.move) ∧
      (s₀.tour visits).vars =
        ((Story.startId :: s₀.trail visits).flatMap story.directivesOf).foldl
          (fun vars d => vars.insert d.target (.ofLiteral (String.ofList d.value))) ∅ ∧
      ∀ (earlier later : List Visit) (name : String), visits = earlier ++ later →
        (name ∈ (s₀.tour earlier).vars → name ∈ (s₀.tour visits).vars) ∧
        ((∀ d ∈ ((s₀.tour earlier).trail later).flatMap story.directivesOf, d.target ≠ name) →
          (s₀.tour visits).vars[name]? = (s₀.tour earlier).vars[name]?) := by
  obtain ⟨scene, hMem, hId⟩ := hFirst
  rcases start_cases story with ⟨hAbsent, -⟩ | ⟨scene', -, -, hStart⟩
  · exact absurd hId (hAbsent scene hMem)
  · obtain ⟨hStory, hVars⟩ := vars_of_start hStart
    have hLoad := load_eq_of_start hStart (blank.play moves)
    rw [hLoad]
    refine ⟨_, hStart, rfl, rfl, rfl, ?_, ?_⟩
    · have hStep : (fun vars d => vars.insert d.target (.ofLiteral (String.ofList d.value))) =
          Directive.setIn := rfl
      -- The first scene has been entered by the load, the others along the trail.
      rw [hStep, vars_tour, hStory, hVars, List.flatMap_cons, List.foldl_append]
    · intro earlier later name hSplit
      have hAppend := vars_tour_append (opening story scene') earlier later name
      rw [hStory] at hAppend
      rw [hSplit]
      exact hAppend

/-- A gate to a hall and to a cellar that is not there; both scenes set the gold. -/
def gate : Story := .ofScenes "gate"
  [⟨"start", "\x7bset gold = 10\x7dGate", [⟨"in", "hall", none⟩, ⟨"down", "cellar", none⟩]⟩,
    ⟨"hall", "\x7bset gold = 3\x7dHall \x7bgold\x7d", [⟨"out", "start", some "gold >= 3"⟩]⟩]

/-- Played once and loaded again, the cellar tried first and the hall entered then. -/
theorem tour_after_load_gate :
    (∃ scene ∈ gate.scenes, scene.id = Story.startId) ∧
    (((blank.play [.load gate, .choose 0]).load gate).2.trail [.choose 1, .choose 0] = ["hall"]) ∧
    ∃ s₀, start gate = .ok s₀ ∧
      ((blank.play [.load gate, .choose 0]).load gate).2.tour [.choose 1, .choose 0] =
        s₀.tour [.choose 1, .choose 0] ∧
      (s₀.tour [.choose 1, .choose 0]).vars =
        ((Story.startId :: s₀.trail [.choose 1, .choose 0]).flatMap gate.directivesOf).foldl
          (fun vars d => vars.insert d.target (.ofLiteral (String.ofList d.value))) ∅ := by
  have hFirst : ∃ scene ∈ gate.scenes, scene.id = Story.startId :=
    Story.contains_iff.mp (by decide +kernel)
  obtain ⟨s₀, hStart, -, hTour, -, hVars, -⟩ :=
    tour_after_load [.load gate, .choose 0] gate [.choose 1, .choose 0] hFirst
  exact ⟨hFirst, by decide +kernel, s₀, hStart, hTour, hVars⟩

end Session

end Gamebook
