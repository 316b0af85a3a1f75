import Gamebook.Story.Basic

/-!
# Gamebook — reachable scenes

* `Search` — a search through the story graph: the names that are marked, and
  the scenes whose choices are still to be followed.
* `Search.follow`, `Search.followAll` — the search after following one choice,
  or several.
* `Search.turn` — the search after following all choices of the next scene.
* `Story.explore` — takes turns until the queue is empty.
* `Story.reachable` — the names of the scenes that can be reached from the
  start, whatever the conditions of the choices.

A scene is queued only when it is marked for the first time. So a search ends on
cyclic stories too: each scene that is taken from the queue makes the unmarked
and the queued scenes fewer by one, and no choice makes them more.
-/

namespace Gamebook

/-- A search through the story graph. -/
structure Search where
  /-- The names that have been reached. -/
  marked : List String
  /-- The scenes that have been reached and not been left, in the order of their turns. -/
  queue : List Scene

namespace Search

variable {story : Story} {search : Search}

/-- Follows a choice: the scene it leads to is marked and queued. Nothing happens if there is no
such scene or if it has been marked before. -/
def follow (story : Story) (search : Search) (choice : Choice) : Search :=
  match story.scene? choice.next with
  | none => search
  | some scene =>
    if search.marked.contains scene.id then search
    else { marked := scene.id :: search.marked, queue := search.queue ++ [scene] }

/-- Follows choices one after the other. -/
def followAll (story : Story) (search : Search) (choices : List Choice) : Search :=
  choices.foldl (follow story) search

/-- The scenes not yet marked. -/
def unmarked (story : Story) (search : Search) : List Scene :=
  story.scenes.filter fun scene => !search.marked.contains scene.id

/-- How many scenes a search has before it. -/
def work (story : Story) (search : Search) : Nat :=
  (search.unmarked story).length + search.queue.length

/-- Marking a scene leaves fewer unmarked. -/
theorem length_unmarked_lt {scene : Scene} (queue : List Scene) (hmem : scene ∈ story.scenes)
    (hm : search.marked.contains scene.id = false) :
    (unmarked story ⟨scene.id :: search.marked, queue⟩).length <
      (search.unmarked story).length := by
  -- What is unmarked afterwards was unmarked before and has another name.
  have hsplit : unmarked story ⟨scene.id :: search.marked, queue⟩ =
      (search.unmarked story).filter fun other => other.id != scene.id := by
    simp only [unmarked, List.filter_filter, List.contains_cons, Bool.not_or]
    rfl
  rw [hsplit, List.length_filter_lt_length_iff_exists]
  exact ⟨scene, List.mem_filter.2 ⟨hmem, by rw [hm]; rfl⟩, by simp⟩

/-- Following a choice is no additional work. -/
theorem work_follow_le (search : Search) (choice : Choice) :
    (search.follow story choice).work story ≤ search.work story := by
  unfold follow
  split
  · exact Nat.le_refl _
  · rename_i scene hs
    split
    · exact Nat.le_refl _
    · rename_i hm
      have := length_unmarked_lt (search.queue ++ [scene])
        (Story.scene?_eq_some_iff.1 hs).1 (Bool.eq_false_iff.2 hm)
      simp only [work, List.length_append, List.length_singleton]
      omega

theorem work_followAll_le (search : Search) (choices : List Choice) :
    (search.followAll story choices).work story ≤ search.work story := by
  induction choices generalizing search with
  | nil => exact Nat.le_refl _
  | cons choice choices ih => exact Nat.le_trans (ih _) (work_follow_le search choice)

/-- One turn of a search: the choices of the first scene in the queue are followed. -/
def turn (story : Story) (search : Search) : Search :=
  match search.queue with
  | [] => search
  | scene :: queue => followAll story { search with queue } scene.choices

/-- Every turn leaves less work. -/
theorem work_turn_lt (hq : search.queue.isEmpty = false) :
    (search.turn story).work story < search.work story := by
  unfold turn
  split
  · rename_i hnil
    rw [hnil] at hq
    cases hq
  · rename_i scene queue hcons
    refine Nat.lt_of_le_of_lt (work_followAll_le _ _) ?_
    simp only [work, unmarked, hcons, List.length_cons]
    omega

/-- The search that begins with the start of a story. -/
def begin (story : Story) : Search :=
  match story.scene? Story.startId with
  | some scene => ⟨[scene.id], [scene]⟩
  | none => ⟨[], []⟩

end Search

namespace Story

/-- The names that are marked when the queue of a search has been worked off. -/
def explore (story : Story) (search : Search) : List String :=
  if _hq : search.queue.isEmpty then search.marked else explore story (search.turn story)
termination_by search.work story
decreasing_by exact Search.work_turn_lt (Bool.eq_false_iff.2 _hq)

/-- The names of the scenes that can be reached from the start. -/
def reachable (story : Story) : List String := story.explore (.begin story)

end Story

end Gamebook
