import Gamebook.Proofs.Assignment
import Gamebook.Proofs.Moves

/-!
# Gamebook — what a session shows is up to date

The text of a scene is made when the scene is entered and kept from then on,
while the story, the variables and the cursor are fields of their own. `Shows`
says that the four fit together. Arriving in a scene brings it about, whatever
was there before, and a refused move leaves it alone.

* `Session.log` — the moves of a run with their answers.
* `shows_play` — once a session shows a scene it always shows some scene.
* `blank_or_shows` — every session is either still blank, because no load has
  succeeded, or shows its current scene.
-/

namespace Gamebook.Session

variable {s : Session} {scene : Scene}

/-- The moves of a run, each with its answer. -/
def log (s : Session) : List Move → List (Move × Except SessionError Unit)
  | [] => []
  | m :: moves => (m, (s.perform m).1) :: log (s.after m) moves

/-- The session is in the scene, and what it holds is what the scene makes of it. -/
structure Shows (s : Session) (scene : Scene) : Prop where
  current : s.scene? = some scene
  named : scene.id = s.cursor
  /-- The text is the plain text of the scene with the values that the variables have now. -/
  text_eq : s.text = String.ofList (interpolate s.vars
    (Text.trim ((Template.segments scene.text).flatMap Segment.text)))
  /-- A variable that the scene sets has the value of the last directive that does. -/
  last_set : ∀ (before : List Directive) (d : Directive) (behind : List Directive),
    Template.directives scene.text = before ++ d :: behind →
    (∀ d' ∈ behind, d'.target ≠ d.target) → s.vars[d.target]? = some d.assigned

-- ---------------------------------------------------------------------------
-- Arriving
-- ---------------------------------------------------------------------------

theorem scene?_inScene (hMem : scene ∈ s.story.scenes) :
    (s.inScene scene).scene? = some scene :=
  Story.scene?_eq_some_iff.mpr ⟨hMem, rfl⟩

theorem shows_inScene (hMem : scene ∈ s.story.scenes) : (s.inScene scene).Shows scene where
  current := scene?_inScene hMem
  named := rfl
  text_eq := by
    have hContains : (s.inScene scene).story.contains (s.inScene scene).cursor = true :=
      Story.contains_iff.mpr ⟨scene, hMem, rfl⟩
    rw [text, if_pos hContains]
    rfl
  last_set := by
    intro before d behind hSplit hLast
    show (Template.assign scene.text s.vars)[d.target]? = some d.assigned
    rw [Template.assign, hSplit]
    exact Directive.getElem?_foldl_of_last hLast

theorem shows_opening {story : Story} (hMem : scene ∈ story.scenes) :
    (opening story scene).Shows scene :=
  shows_inScene (s := { blank with story := story, vars := ∅ }) hMem

-- ---------------------------------------------------------------------------
-- Runs
-- ---------------------------------------------------------------------------

theorem shows_after (hShows : s.Shows scene) (m : Move) : ∃ scene', (s.after m).Shows scene' := by
  rcases perform_cases s m with ⟨cause, hMove⟩ | ⟨base, scene', hMem, hMove⟩
  · rw [after, hMove]
    exact ⟨scene, hShows⟩
  · rw [after, hMove]
    exact ⟨scene', shows_inScene hMem⟩

theorem shows_play (hShows : s.Shows scene) (moves : List Move) :
    ∃ scene', (s.play moves).Shows scene' := by
  -- On the moves. The scene that is shown may change with each of them.
  induction moves generalizing s scene with
  | nil => exact ⟨scene, hShows⟩
  | cons m moves ih =>
    obtain ⟨scene', hAfter⟩ := shows_after hShows m
    exact ih hAfter

/-- In a blank session every move is refused, unless it loads a story. -/
theorem perform_blank_cases (m : Move) :
    (∃ cause, blank.perform m = (.error cause, blank)) ∨
    ∃ (story : Story) (scene : Scene), m = .load story ∧ scene ∈ story.scenes ∧
      blank.perform m = (.ok (), opening story scene) := by
  cases m with
  | load story =>
    rcases load_cases blank story with ⟨-, hLoad⟩ | ⟨scene, hMem, -, hLoad⟩
    · exact Or.inl ⟨_, hLoad⟩
    · exact Or.inr ⟨story, scene, rfl, hMem, hLoad⟩
  | enter id =>
    rcases enter_cases blank id with ⟨-, hEnter⟩ | ⟨scene, hMem, -, -⟩
    · exact Or.inl ⟨_, hEnter⟩
    · cases hMem
  | choose index =>
    rcases choose_cases blank index with ⟨-, hChoose⟩ | ⟨choice, hChoice, -⟩
    · exact Or.inl ⟨_, hChoose⟩
    · rw [available_blank] at hChoice
      cases hChoice

/-- A run from a blank session stays blank until a load succeeds, and from then on shows a
scene. -/
theorem play_blank_cases (moves : List Move) :
    ((∀ story, (Move.load story, Except.ok ()) ∉ blank.log moves) ∧ blank.play moves = blank) ∨
    (∃ story, (Move.load story, Except.ok ()) ∈ blank.log moves) ∧
      ∃ scene, (blank.play moves).Shows scene := by
  -- On the moves: a refused one leaves the session blank, so the rest of the run starts from
  -- a blank session again; one that is not refused is a load, and `shows_play` does the rest.
  induction moves with
  | nil =>
    refine Or.inl ⟨?_, rfl⟩
    intro story hMem
    cases hMem
  | cons m moves ih =>
    rcases perform_blank_cases m with ⟨cause, hMove⟩ | ⟨story, scene, rfl, hMem, hMove⟩
    · have hLog : blank.log (m :: moves) = (m, .error cause) :: blank.log moves := by
        rw [log, after, hMove]
      have hPlay : blank.play (m :: moves) = blank.play moves := by
        rw [play, List.foldl_cons, after, hMove]
        rfl
      rw [hLog, hPlay]
      rcases ih with ⟨hNone, hBlank⟩ | ⟨⟨story, hLoaded⟩, hShows⟩
      · refine Or.inl ⟨?_, hBlank⟩
        intro story hLoaded
        rcases List.mem_cons.mp hLoaded with hHead | hTail
        · cases hHead
        · exact hNone story hTail
      · exact Or.inr ⟨⟨story, List.mem_cons_of_mem _ hLoaded⟩, hShows⟩
    · have hLog : blank.log (.load story :: moves) =
          (.load story, .ok ()) :: (opening story scene).log moves := by
        rw [log, after, hMove]
      have hPlay : blank.play (.load story :: moves) = (opening story scene).play moves := by
        rw [play, List.foldl_cons, after, hMove]
        rfl
      rw [hLog, hPlay]
      exact Or.inr ⟨⟨story, List.mem_cons_self⟩, shows_play (shows_opening hMem) moves⟩

/--
**What a session shows is up to date.** After any moves, refused or not, either
no load has succeeded yet and the session is blank, or the current scene exists
under the name at the cursor, the text is its plain text with the values that
the variables have now, and each variable that it sets has the value of the last
directive that sets it.
-/
theorem blank_or_shows (moves : List Move) :
    let s := blank.play moves
    ((∀ story, (Move.load story, Except.ok ()) ∉ blank.log moves) ∧
      s.story = .empty "" ∧ s.vars = ∅ ∧ s.available = [] ∧ s.cursor = Story.startId ∧
      s.text = notFoundText) ∨
    (∃ story, (Move.load story, Except.ok ()) ∈ blank.log moves) ∧
      ∃ scene, s.Shows scene := by
  intro s
  rcases play_blank_cases moves with ⟨hNone, hBlank⟩ | hShows
  · have hs : s = blank := hBlank
    rw [hs]
    exact Or.inl ⟨hNone, rfl, rfl, rfl, rfl, rfl⟩
  · exact Or.inr hShows

end Gamebook.Session
