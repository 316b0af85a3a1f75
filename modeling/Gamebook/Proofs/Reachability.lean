import Mathlib.Logic.Function.Iterate
import Gamebook.Proofs.Choices
import Gamebook.Proofs.Remarks

/-!
# Gamebook — reachable scenes and the scenes of a play

A search through the story graph ends, because each turn leaves less work, and
what it has marked by then is the least set that has the start and is closed
under following choices. So this set bounds every play by choices, whatever the
conditions hide; without conditions it is exactly where choices can lead.

* `Story.Closed` — a set of names that following choices does not leave.
* `Search.Grows` — what following choices does to a search.
* `explore_eq_iterate` — a search ends, and how many turns it takes at most.
* `closed_reachable`, `of_mem_reachable` — the reachable names are closed, and
  they are in every closed set.
* `reachable_bounds_play` — where choices lead from the start of a story.
-/

namespace Gamebook

namespace Story

variable {story : Story}

/-- A set of names that has the start of the story, if there is one, and with a scene every scene
that a choice of it leads to. -/
structure Closed (story : Story) (names : String → Prop) : Prop where
  start : ∀ scene ∈ story.scenes, scene.id = startId → names scene.id
  follow : ∀ scene ∈ story.scenes, names scene.id → ∀ choice ∈ scene.choices,
    ∀ target ∈ story.scenes, target.id = choice.next → names target.id

theorem closed_true (story : Story) : story.Closed fun _ => True :=
  ⟨fun _ _ _ => trivial, fun _ _ _ _ _ _ _ _ => trivial⟩

/-- Scenes of a story have different names. -/
theorem eq_of_id_eq {a b : Scene} (hA : a ∈ story.scenes) (hB : b ∈ story.scenes)
    (hId : a.id = b.id) : a = b := by
  have hFoundA : story.scene? b.id = some a := scene?_eq_some_iff.mpr ⟨hA, hId⟩
  have hFoundB : story.scene? b.id = some b := scene?_eq_some_iff.mpr ⟨hB, rfl⟩
  rw [hFoundA] at hFoundB
  exact Option.some.inj hFoundB

end Story

namespace Search

variable {story : Story} {search : Search} {choice : Choice} {names : String → Prop}

-- ---------------------------------------------------------------------------
-- Following choices
-- ---------------------------------------------------------------------------

/-- Following a choice leads nowhere, or to a marked scene, or marks and queues a new one. -/
theorem follow_cases (story : Story) (search : Search) (choice : Choice) :
    ((∀ target ∈ story.scenes, target.id ≠ choice.next) ∧ search.follow story choice = search) ∨
    ∃ target ∈ story.scenes, target.id = choice.next ∧
      ((target.id ∈ search.marked ∧ search.follow story choice = search) ∨
        search.follow story choice =
          { marked := target.id :: search.marked, queue := search.queue ++ [target] }) := by
  unfold follow
  split
  · rename_i hNone
    exact Or.inl ⟨Story.scene?_eq_none_iff.mp hNone, rfl⟩
  · rename_i target hTarget
    obtain ⟨hMem, hId⟩ := Story.scene?_eq_some_iff.mp hTarget
    refine Or.inr ⟨target, hMem, hId, ?_⟩
    split
    · rename_i hMarked
      exact Or.inl ⟨List.contains_iff_mem.mp hMarked, rfl⟩
    · exact Or.inr rfl

/-- The second search comes from the first by following choices: nothing is unmarked or dropped
from the queue, and what is newly marked is in the queue. -/
structure Grows (before after : Search) : Prop where
  marked : ∀ id ∈ before.marked, id ∈ after.marked
  queue : ∀ scene ∈ before.queue, scene ∈ after.queue
  fresh : ∀ id ∈ after.marked, id ∈ before.marked ∨ ∃ scene ∈ after.queue, scene.id = id

theorem Grows.refl (search : Search) : search.Grows search :=
  ⟨fun _ => id, fun _ => id, fun _ => Or.inl⟩

theorem Grows.trans {a b c : Search} (hAB : a.Grows b) (hBC : b.Grows c) : a.Grows c where
  marked := fun id hMem => hBC.marked id (hAB.marked id hMem)
  queue := fun scene hMem => hBC.queue scene (hAB.queue scene hMem)
  fresh := by
    intro id hMem
    rcases hBC.fresh id hMem with hOld | hQueued
    · rcases hAB.fresh id hOld with hOlder | ⟨scene, hQueue, hId⟩
      · exact Or.inl hOlder
      · exact Or.inr ⟨scene, hBC.queue scene hQueue, hId⟩
    · exact Or.inr hQueued

theorem grows_follow (story : Story) (search : Search) (choice : Choice) :
    search.Grows (search.follow story choice) := by
  rcases follow_cases story search choice with ⟨-, hSame⟩ | ⟨target, -, -, ⟨-, hSame⟩ | hNew⟩
  · rw [hSame]
    exact .refl search
  · rw [hSame]
    exact .refl search
  · rw [hNew]
    refine ⟨fun _ => List.mem_cons_of_mem _, fun _ => List.mem_append_left _, ?_⟩
    intro id hMem
    rcases List.mem_cons.mp hMem with rfl | hOld
    · exact Or.inr ⟨target, List.mem_append_right _ List.mem_cons_self, rfl⟩
    · exact Or.inl hOld

theorem grows_followAll (story : Story) (search : Search) (choices : List Choice) :
    search.Grows (search.followAll story choices) := by
  induction choices generalizing search with
  | nil => exact .refl search
  | cons choice choices ih => exact (grows_follow story search choice).trans (ih _)

/-- A choice that has been followed has its target marked. -/
theorem marked_followAll {choices : List Choice} (hChoice : choice ∈ choices) {target : Scene}
    (hTarget : target ∈ story.scenes) (hNext : target.id = choice.next) :
    target.id ∈ (search.followAll story choices).marked := by
  induction choices generalizing search with
  | nil => cases hChoice
  | cons first choices ih =>
    rcases List.mem_cons.mp hChoice with rfl | hLater
    · -- The choices behind it leave its target marked.
      refine (grows_followAll story _ choices).marked _ ?_
      rcases follow_cases story search choice with
        ⟨hAbsent, -⟩ | ⟨target', hTarget', hNext', ⟨hMarked, hSame⟩ | hNew⟩
      · exact absurd hNext (hAbsent target hTarget)
      · rw [hSame, hNext, ← hNext']
        exact hMarked
      · rw [hNew, hNext, ← hNext']
        exact List.mem_cons_self
    · exact ih hLater

-- ---------------------------------------------------------------------------
-- Taking turns
-- ---------------------------------------------------------------------------

/-- A search stays within a set of names, and its queue within the story. -/
structure Within (story : Story) (names : String → Prop) (search : Search) : Prop where
  marked : ∀ id ∈ search.marked, names id
  queue : ∀ scene ∈ search.queue, scene ∈ story.scenes ∧ names scene.id

theorem within_followAll {choices : List Choice} (hWithin : search.Within story names)
    (hNames : ∀ choice ∈ choices, ∀ target ∈ story.scenes, target.id = choice.next →
      names target.id) : (search.followAll story choices).Within story names := by
  induction choices generalizing search with
  | nil => exact hWithin
  | cons choice choices ih =>
    refine ih ?_ fun choice' hChoice => hNames choice' (List.mem_cons_of_mem _ hChoice)
    rcases follow_cases story search choice with
      ⟨-, hSame⟩ | ⟨target, hTarget, hNext, ⟨-, hSame⟩ | hNew⟩
    · rwa [hSame]
    · rwa [hSame]
    · have hName : names target.id := hNames choice List.mem_cons_self target hTarget hNext
      rw [hNew]
      constructor
      · exact List.forall_mem_cons.mpr ⟨hName, hWithin.marked⟩
      · intro scene hScene
        rcases List.mem_append.mp hScene with hQueue | hLast
        · exact hWithin.queue scene hQueue
        · rw [List.mem_singleton.mp hLast]
          exact ⟨hTarget, hName⟩

/-- What a search has marked and left: the choices of such a scene have their targets marked. -/
def Settled (story : Story) (search : Search) : Prop :=
  ∀ scene ∈ story.scenes, scene.id ∈ search.marked → scene ∈ search.queue ∨
    ∀ choice ∈ scene.choices, ∀ target ∈ story.scenes, target.id = choice.next →
      target.id ∈ search.marked

theorem within_turn (hClosed : story.Closed names) (hWithin : search.Within story names) :
    (search.turn story).Within story names := by
  unfold turn
  split
  · exact hWithin
  · rename_i scene queue hQueue
    obtain ⟨hMem, hName⟩ := hWithin.queue scene (hQueue ▸ List.mem_cons_self)
    refine within_followAll ⟨hWithin.marked, ?_⟩ (hClosed.follow scene hMem hName)
    intro scene' hScene'
    exact hWithin.queue scene' (hQueue ▸ List.mem_cons_of_mem _ hScene')

theorem settled_turn (hWithin : search.Within story fun _ => True)
    (hSettled : search.Settled story) : (search.turn story).Settled story := by
  unfold turn
  split
  · exact hSettled
  · rename_i scene queue hQueue
    intro other hOther hMarked
    have hGrows := grows_followAll story { search with queue } scene.choices
    have hWithin' : (followAll story { search with queue } scene.choices).Within story
        fun _ => True :=
      within_followAll ⟨hWithin.marked, fun scene' hScene' =>
        hWithin.queue scene' (hQueue ▸ List.mem_cons_of_mem _ hScene')⟩
        fun _ _ _ _ _ => trivial
    rcases hGrows.fresh other.id hMarked with hOld | ⟨fresh, hFresh, hId⟩
    · rcases hSettled other hOther hOld with hQueued | hFollowed
      · rw [hQueue] at hQueued
        rcases List.mem_cons.mp hQueued with rfl | hLater
        · -- The scene whose turn it is: all its choices have just been followed.
          exact Or.inr fun choice hChoice target hTarget => marked_followAll hChoice hTarget
        · exact Or.inl (hGrows.queue other hLater)
      · refine Or.inr fun choice hChoice target hTarget hNext => ?_
        exact hGrows.marked _ (hFollowed choice hChoice target hTarget hNext)
    · -- A newly marked scene waits in the queue, under a name that is its own.
      rw [← Story.eq_of_id_eq (hWithin'.queue fresh hFresh).1 hOther hId]
      exact Or.inl hFresh

theorem within_iterate (hClosed : story.Closed names) (hWithin : search.Within story names)
    (turns : Nat) : ((turn story)^[turns] search).Within story names := by
  induction turns with
  | zero => exact hWithin
  | succ turns ih =>
    rw [Function.iterate_succ_apply']
    exact within_turn hClosed ih

theorem settled_iterate (hWithin : search.Within story fun _ => True)
    (hSettled : search.Settled story) (turns : Nat) :
    ((turn story)^[turns] search).Settled story := by
  induction turns with
  | zero => exact hSettled
  | succ turns ih =>
    rw [Function.iterate_succ_apply']
    exact settled_turn (within_iterate story.closed_true hWithin turns) ih

theorem grows_turn_marked (search : Search) : ∀ id ∈ search.marked,
    id ∈ (search.turn story).marked := by
  unfold turn
  split
  · exact fun _ => id
  · rename_i scene queue _
    exact (grows_followAll story { search with queue } scene.choices).marked

theorem marked_iterate (turns : Nat) : ∀ id ∈ search.marked,
    id ∈ ((turn story)^[turns] search).marked := by
  induction turns with
  | zero => exact fun _ => id
  | succ turns ih =>
    intro id hMem
    rw [Function.iterate_succ_apply']
    exact grows_turn_marked _ id (ih id hMem)

-- ---------------------------------------------------------------------------
-- The end of a search
-- ---------------------------------------------------------------------------

/-- A search ends, after no more turns than it has work. -/
theorem explore_eq_iterate (story : Story) (search : Search) : ∃ turns ≤ search.work story,
    ((turn story)^[turns] search).queue = [] ∧
      story.explore search = ((turn story)^[turns] search).marked := by
  fun_induction story.explore search with
  | case1 search hQueue => exact ⟨0, Nat.zero_le _, List.isEmpty_iff.mp hQueue, rfl⟩
  | case2 search hQueue ih =>
    obtain ⟨turns, hTurns, hEnd, hMarked⟩ := ih
    have hLess : (search.turn story).work story < search.work story :=
      work_turn_lt (Bool.eq_false_iff.mpr hQueue)
    exact ⟨turns + 1, by omega, hEnd, hMarked⟩

theorem begin_cases (story : Story) :
    ((∀ scene ∈ story.scenes, scene.id ≠ Story.startId) ∧ begin story = ⟨[], []⟩) ∨
    ∃ scene ∈ story.scenes, scene.id = Story.startId ∧ begin story = ⟨[scene.id], [scene]⟩ := by
  unfold begin
  split
  · rename_i scene hScene
    obtain ⟨hMem, hId⟩ := Story.scene?_eq_some_iff.mp hScene
    exact Or.inr ⟨scene, hMem, hId, rfl⟩
  · rename_i hNone
    exact Or.inl ⟨Story.scene?_eq_none_iff.mp hNone, rfl⟩

/-- From the start there is work for each scene of the story at most. -/
theorem work_begin_le (story : Story) : (begin story).work story ≤ story.size := by
  have hAll : ∀ queue, (unmarked story ⟨[], queue⟩).length ≤ story.size :=
    fun _ => List.length_filter_le _ _
  rcases begin_cases story with ⟨-, hBegin⟩ | ⟨scene, hMem, -, hBegin⟩
  · rw [hBegin]
    exact hAll []
  · have hLess : (unmarked story ⟨[scene.id], [scene]⟩).length <
        (unmarked story ⟨[], []⟩).length :=
      @length_unmarked_lt story ⟨[], []⟩ scene [scene] hMem rfl
    have := hAll []
    rw [hBegin, work, List.length_singleton]
    omega

theorem within_begin (hClosed : story.Closed names) : (begin story).Within story names := by
  rcases begin_cases story with ⟨-, hBegin⟩ | ⟨scene, hMem, hId, hBegin⟩
  · rw [hBegin]
    exact ⟨List.forall_mem_nil _, List.forall_mem_nil _⟩
  · have hName := hClosed.start scene hMem hId
    rw [hBegin]
    exact ⟨List.forall_mem_singleton.mpr hName, List.forall_mem_singleton.mpr ⟨hMem, hName⟩⟩

theorem settled_begin (story : Story) : (begin story).Settled story := by
  intro other hOther hMarked
  rcases begin_cases story with ⟨-, hBegin⟩ | ⟨scene, hMem, -, hBegin⟩
  · rw [hBegin] at hMarked
    cases hMarked
  · rw [hBegin] at hMarked ⊢
    exact Or.inl (List.mem_singleton.mpr
      (Story.eq_of_id_eq hOther hMem (List.mem_singleton.mp hMarked)))

end Search

namespace Story

variable {story : Story} {names : String → Prop} {id : String}

/-- The reachable names have the start and are closed under following choices. -/
theorem closed_reachable (story : Story) : story.Closed (· ∈ story.reachable) := by
  obtain ⟨turns, -, hEnd, hReachable⟩ := Search.explore_eq_iterate story (.begin story)
  have hSettled := Search.settled_iterate (Search.within_begin story.closed_true)
    (Search.settled_begin story) turns
  rw [reachable, hReachable]
  constructor
  · intro scene hMem hId
    refine Search.marked_iterate turns _ ?_
    rcases Search.begin_cases story with ⟨hAbsent, -⟩ | ⟨start, hStart, hStartId, hBegin⟩
    · exact absurd hId (hAbsent scene hMem)
    · rw [hBegin, hId, ← hStartId]
      exact List.mem_singleton.mpr rfl
  · intro scene hMem hMarked choice hChoice target hTarget hNext
    rcases hSettled scene hMem hMarked with hQueued | hFollowed
    · rw [hEnd] at hQueued
      cases hQueued
    · exact hFollowed choice hChoice target hTarget hNext

/-- A reachable name is in every closed set. -/
theorem of_mem_reachable (hClosed : story.Closed names) (hMem : id ∈ story.reachable) :
    names id := by
  obtain ⟨turns, -, -, hReachable⟩ := Search.explore_eq_iterate story (.begin story)
  rw [reachable, hReachable] at hMem
  exact (Search.within_iterate hClosed (Search.within_begin hClosed) turns).marked id hMem

end Story

-- ---------------------------------------------------------------------------
-- Walks
-- ---------------------------------------------------------------------------

namespace Session

variable {s s₀ : Session} {story : Story} {names : String → Prop}

/-- The session after choices have been made one after the other, those that are refused among
them. -/
def walk (s : Session) (indices : List Nat) : Session := s.play (indices.map Move.choose)

theorem walk_concat (s : Session) (indices : List Nat) (index : Nat) :
    s.walk (indices ++ [index]) = ((s.walk indices).choose index).2 := by
  rw [walk, play, List.map_append, List.foldl_append]
  rfl

/-- A choice does not leave a closed set. -/
theorem choose_within (hClosed : story.Closed names) (hStory : s.story = story)
    (hName : names s.cursor) (index : Nat) :
    (s.choose index).2.story = story ∧ names (s.choose index).2.cursor := by
  rcases choose_cases s index with ⟨-, hRefused⟩ | ⟨choice, hChoice, hChoose⟩
  · rw [hRefused]
    exact ⟨hStory, hName⟩
  · rw [hChoose]
    rcases enter_cases s choice.next with ⟨-, hRefused⟩ | ⟨target, hTarget, hNext, hArrived⟩
    · rw [hRefused]
      exact ⟨hStory, hName⟩
    · -- The choice is one of the current scene, which is the scene of that name.
      obtain ⟨scene, hCurrent, hMem, -⟩ := mem_available_iff.mp (List.mem_of_getElem? hChoice)
      obtain ⟨hScene, hId⟩ := Story.scene?_eq_some_iff.mp hCurrent
      rw [hStory] at hScene hTarget
      rw [hArrived]
      exact ⟨hStory,
        hClosed.follow scene hScene (hId.symm ▸ hName) choice hMem target hTarget hNext⟩

theorem walk_within (hClosed : story.Closed names) (hStart : start story = .ok s₀)
    (indices : List Nat) :
    (s₀.walk indices).story = story ∧ names (s₀.walk indices).cursor := by
  -- On the choices, from any session that is in the story and in the set.
  have hFrom : ∀ s : Session, s.story = story → names s.cursor →
      (s.walk indices).story = story ∧ names (s.walk indices).cursor := by
    induction indices with
    | nil => exact fun s hStory hName => ⟨hStory, hName⟩
    | cons index indices ih =>
      intro s hStory hName
      obtain ⟨hStory', hName'⟩ := choose_within hClosed hStory hName index
      exact ih _ hStory' hName'
  obtain ⟨scene, hMem, hId, rfl⟩ := opening_of_start hStart
  exact hFrom _ rfl (hClosed.start scene hMem hId)

/-- Without conditions all choices of the current scene can be seen. -/
theorem available_of_unconditional {scene : Scene} (hCurrent : s.scene? = some scene)
    (hNone : ∀ choice ∈ scene.choices, choice.condition = none) : s.available = scene.choices := by
  rw [available_eq_filter hCurrent, List.filter_eq_self]
  intro choice hChoice
  exact decide_eq_true (Or.inl (hNone choice hChoice))

/-- Without conditions the scenes that choices lead to are a closed set. -/
theorem closed_walk (hStart : start story = .ok s₀)
    (hNone : ∀ scene ∈ story.scenes, ∀ choice ∈ scene.choices, choice.condition = none) :
    story.Closed fun id => ∃ indices, (s₀.walk indices).cursor = id where
  start := by
    intro scene hMem hId
    obtain ⟨scene', -, hId', rfl⟩ := opening_of_start hStart
    exact ⟨[], hId'.trans hId.symm⟩
  follow := by
    rintro scene hMem ⟨indices, hCursor⟩ choice hChoice target hTarget hNext
    have hStory := (walk_within story.closed_true hStart indices).1
    have hCurrent : (s₀.walk indices).scene? = some scene := by
      rw [scene?, hStory, hCursor]
      exact Story.scene?_eq_some_iff.mpr ⟨hMem, rfl⟩
    obtain ⟨index, hIndex⟩ := List.getElem?_of_mem hChoice
    rw [← available_of_unconditional hCurrent (hNone scene hMem)] at hIndex
    refine ⟨indices ++ [index], ?_⟩
    rw [walk_concat, choose_eq_enter hIndex, ← hNext, enter_of_mem (hStory ▸ hTarget)]
    rfl

end Session

namespace Story

variable {story : Story} {id : String}

/-- A scene that a report calls unreachable is not among the reachable ones. -/
theorem not_mem_reachable_of_mem_check
    (hMem : Problem.unreachable.finding story.id (some id) ∈ story.check) :
    id ∉ story.reachable := by
  obtain ⟨-, scene, -, hAbsent, hPlace⟩ := unreachable_mem_check_iff.mp hMem
  rw [Option.some.inj hPlace]
  exact hAbsent

/--
**What can be reached bounds every play.** The search for reachable scenes is
over after no more turns than the story has scenes. It gives the least set that
has the start, if there is one, and with a scene every existing scene that a
choice of it leads to. From the start of the story no choices lead out of this
set, so a scene that a report calls unreachable is never entered by choosing;
and if no choice of the story has a condition, choices lead to every scene of
the set.
-/
theorem reachable_bounds_play (story : Story) :
    (∃ turns ≤ story.size, ((Search.turn story)^[turns] (.begin story)).queue = [] ∧
      story.reachable = ((Search.turn story)^[turns] (.begin story)).marked) ∧
    story.Closed (· ∈ story.reachable) ∧
    (∀ names : String → Prop, story.Closed names → ∀ id ∈ story.reachable, names id) ∧
    (∀ s₀ : Session, Session.start story = .ok s₀ → ∀ indices : List Nat,
      (s₀.walk indices).cursor ∈ story.reachable) ∧
    (∀ id : String, Problem.unreachable.finding story.id (some id) ∈ story.check →
      ∀ s₀ : Session, Session.start story = .ok s₀ → ∀ indices : List Nat,
        (s₀.walk indices).cursor ≠ id) ∧
    ((∀ scene ∈ story.scenes, ∀ choice ∈ scene.choices, choice.condition = none) →
      ∀ id ∈ story.reachable, ∃ s₀ : Session, Session.start story = .ok s₀ ∧
        ∃ indices : List Nat, (s₀.walk indices).cursor = id) := by
  have hWalk : ∀ s₀ : Session, Session.start story = .ok s₀ → ∀ indices : List Nat,
      (s₀.walk indices).cursor ∈ story.reachable :=
    fun s₀ hStart indices => (Session.walk_within story.closed_reachable hStart indices).2
  refine ⟨?_, story.closed_reachable, fun names hClosed id => of_mem_reachable hClosed, hWalk,
    ?_, ?_⟩
  · obtain ⟨turns, hTurns, hEnd⟩ := Search.explore_eq_iterate story (.begin story)
    exact ⟨turns, Nat.le_trans hTurns (Search.work_begin_le story), hEnd⟩
  · intro id hMem s₀ hStart indices hCursor
    exact not_mem_reachable_of_mem_check hMem (hCursor ▸ hWalk s₀ hStart indices)
  · intro hNone id hMem
    rcases Session.start_cases story with ⟨hAbsent, -⟩ | ⟨scene, -, -, hStart⟩
    · -- Without a start the empty set is closed.
      have hEmpty : story.Closed fun _ => False := ⟨hAbsent, fun _ _ hName => hName.elim⟩
      exact (of_mem_reachable hEmpty hMem).elim
    · exact ⟨_, hStart, of_mem_reachable (Session.closed_walk hStart hNone) hMem⟩

-- A cycle, a target that does not exist, and a scene to which no choice leads.
example : (Story.ofScenes "house" [⟨"start", "Gate", [⟨"in", "hall", none⟩]⟩,
    ⟨"hall", "Hall", [⟨"out", "start", none⟩, ⟨"down", "cellar", none⟩]⟩,
    ⟨"attic", "Attic", [⟨"down", "hall", none⟩]⟩]).reachable = ["hall", "start"] := by
  decide +kernel

end Story

end Gamebook
