import Mathlib.Data.List.Induction
import Mathlib.Data.List.Nodup
import Gamebook.Story.Basic

/-!
# Gamebook — the scenes of a story

A story keeps its scenes in a list and their places in an index, and both change
together. A scene of a new name goes to the end and gets a place; a scene of a
known name takes the place of the earlier one, and the index stays as it is. So
a name keeps the place where it was first met, while the scene at that place is
the last one of the name.

* `scene?_eq_bind` — a look-up goes through the index and then into the list.
* `map_id_insert`, `scene?_insert` — what one insertion does to the names and to
  what is found under them.
* `map_id_ofScenes`, `scene?_ofScenes` — the same for all scenes of a list.
* `ofScenes_scenes` — a story is made of its own scenes.
* `keeps_first_places_and_last_scenes` — all of it together.
-/

namespace Gamebook

/-- A name at the end counts only if it is new. -/
theorem eraseDups_concat (names : List String) (name : String) :
    (names ++ [name]).eraseDups =
      if name ∈ names then names.eraseDups else names.eraseDups ++ [name] := by
  rw [List.eraseDups_append]
  by_cases hMem : name ∈ names
  · simp [List.removeAll, hMem]
  · simp [List.removeAll, hMem, List.eraseDups_cons]

namespace Story

variable {story : Story} {scene other : Scene} {scenes : List Scene} {name : String}

-- ---------------------------------------------------------------------------
-- Looking up
-- ---------------------------------------------------------------------------

/-- A look-up goes through the index and then into the list. -/
theorem scene?_eq_bind (story : Story) (name : String) :
    story.scene? name = story.index[name]?.bind fun i => story.scenes[i]? := by
  unfold scene?
  split
  · rename_i i hPlace
    have hLess := story.indexed.lt_length hPlace
    simp [hPlace, hLess]
  · rename_i hNone
    simp [hNone]

/-- No two scenes of a story have the same name. -/
theorem nodup_map_id (story : Story) : (story.scenes.map Scene.id).Nodup := by
  rw [List.nodup_iff_getElem?_ne_getElem?]
  intro i j hLess hBound hSame
  have hName := List.getElem?_eq_getElem hBound
  -- Both places would be the one that the index has for the name.
  have hSecond := (story.indexed _ j).mpr hName
  have hFirst := (story.indexed _ i).mpr (hSame.trans hName)
  rw [hFirst] at hSecond
  have hEqual : i = j := Option.some.inj hSecond
  omega

/-- The name of a scene is looked up at the place of the scene. -/
theorem scene?_of_getElem? {i : Nat} (hScene : story.scenes[i]? = some scene) :
    story.scene? scene.id = some scene :=
  scene?_eq_some_iff.mpr ⟨List.mem_of_getElem? hScene, rfl⟩

-- ---------------------------------------------------------------------------
-- One insertion
-- ---------------------------------------------------------------------------

theorem id_insert (story : Story) (scene : Scene) : (story.insert scene).id = story.id := by
  unfold insert
  split <;> rfl

/-- A scene of a new name goes to the end. -/
theorem scenes_insert (hNew : ∀ other ∈ story.scenes, other.id ≠ scene.id) :
    (story.insert scene).scenes = story.scenes ++ [scene] := by
  unfold insert
  split
  · rename_i i hPlace
    have hName := List.mem_of_getElem? ((story.indexed scene.id i).mp hPlace)
    obtain ⟨other, hMem, hId⟩ := List.mem_map.mp hName
    exact absurd hId (hNew other hMem)
  · rfl

/-- A known name stays where it is, and a new one goes to the end. -/
theorem map_id_insert (story : Story) (scene : Scene) :
    (story.insert scene).scenes.map Scene.id =
      if scene.id ∈ story.scenes.map Scene.id then story.scenes.map Scene.id
      else story.scenes.map Scene.id ++ [scene.id] := by
  by_cases hMem : scene.id ∈ story.scenes.map Scene.id
  · rw [if_pos hMem]
    unfold insert
    split
    · rename_i i hPlace
      exact Scene.map_id_set ((story.indexed scene.id i).mp hPlace)
    · rename_i hNone
      obtain ⟨other, hOther, hId⟩ := List.mem_map.mp hMem
      obtain ⟨i, -, hPlace, -⟩ := story.indexed.exists_place hOther
      rw [hId, hNone] at hPlace
      cases hPlace
  · have hNew : ∀ other ∈ story.scenes, other.id ≠ scene.id :=
      fun other hOther hId => hMem (hId ▸ List.mem_map_of_mem hOther)
    rw [if_neg hMem, scenes_insert hNew, List.map_append, List.map_singleton]

/-- An inserted scene is found under its name, and nothing else changes. -/
theorem scene?_insert (story : Story) (scene : Scene) (name : String) :
    (story.insert scene).scene? name =
      if scene.id = name then some scene else story.scene? name := by
  rw [scene?_eq_bind, scene?_eq_bind]
  unfold insert
  split
  · rename_i i hPlace
    have hBound := story.indexed.lt_length hPlace
    by_cases hName : scene.id = name
    · subst hName
      simp [hPlace, hBound]
    · rw [if_neg hName]
      cases hOther : story.index[name]? with
      | none => rfl
      | some j =>
        -- A place belongs to one name only.
        have hApart : i ≠ j := by
          rintro rfl
          have hFirst := (story.indexed _ _).mp hPlace
          rw [(story.indexed _ _).mp hOther] at hFirst
          exact hName (Option.some.inj hFirst).symm
        show (story.scenes.set i scene)[j]? = story.scenes[j]?
        exact List.getElem?_set_ne hApart
  · rw [Std.ExtTreeMap.getElem?_insert]
    by_cases hName : scene.id = name
    · subst hName
      rw [if_pos rfl, if_pos Std.ReflCmp.compare_self]
      exact List.getElem?_concat_length
    · rw [if_neg hName, if_neg fun hEq => hName (Std.LawfulEqCmp.eq_of_compare hEq)]
      cases hOther : story.index[name]? with
      | none => rfl
      | some j =>
        show (story.scenes ++ [scene])[j]? = story.scenes[j]?
        exact List.getElem?_append_left (story.indexed.lt_length hOther)

-- ---------------------------------------------------------------------------
-- All scenes of a list
-- ---------------------------------------------------------------------------

theorem id_foldl_insert (scenes : List Scene) (story : Story) :
    (scenes.foldl insert story).id = story.id := by
  induction scenes generalizing story with
  | nil => rfl
  | cons scene scenes ih => rw [List.foldl_cons, ih, id_insert]

theorem ofScenes_concat (id : String) (scenes : List Scene) (scene : Scene) :
    ofScenes id (scenes ++ [scene]) = (ofScenes id scenes).insert scene :=
  List.foldl_concat insert (empty id) scene scenes

/-- The names of a story are those of its list, each at its first place. -/
theorem map_id_ofScenes (id : String) (scenes : List Scene) :
    (ofScenes id scenes).scenes.map Scene.id = (scenes.map Scene.id).eraseDups := by
  -- The last scene of the list is the one that was inserted last.
  induction scenes using List.reverseRecOn with
  | nil => rfl
  | append_singleton scenes scene ih =>
    rw [ofScenes_concat, map_id_insert, ih, List.map_append, List.map_singleton, eraseDups_concat]
    simp only [List.mem_eraseDups]

/-- Under a name the last scene of the list with that name is found. -/
theorem scene?_ofScenes (id : String) (scenes : List Scene) (name : String) :
    (ofScenes id scenes).scene? name = (scenes.filter (·.id == name)).getLast? := by
  induction scenes using List.reverseRecOn with
  | nil => rfl
  | append_singleton scenes scene ih =>
    rw [ofScenes_concat, scene?_insert, ih, List.filter_append, List.getLast?_append]
    by_cases hName : scene.id = name
    · simp [hName]
    · have hNone : [scene].filter (·.id == name) = [] := by
        simp [hName]
      rw [if_neg hName, hNone]
      rfl

/-- Scenes with different names make up a story in their order. -/
theorem scenes_ofScenes (hNames : (scenes.map Scene.id).Nodup) (id : String) :
    (ofScenes id scenes).scenes = scenes := by
  induction scenes using List.reverseRecOn with
  | nil => rfl
  | append_singleton scenes scene ih =>
    rw [List.map_append, List.map_singleton, List.nodup_append] at hNames
    obtain ⟨hBefore, -, hApart⟩ := hNames
    have hNew : ∀ other ∈ (ofScenes id scenes).scenes, other.id ≠ scene.id := by
      rw [ih hBefore]
      intro other hMem
      exact hApart _ (List.mem_map_of_mem hMem) _ List.mem_cons_self
    rw [ofScenes_concat, scenes_insert hNew, ih hBefore]

/-- A story is made of its own scenes. -/
theorem ofScenes_scenes (story : Story) : ofScenes story.id story.scenes = story :=
  Story.ext (id_foldl_insert _ _) (scenes_ofScenes story.nodup_map_id _)

/--
**Every name keeps its first place and its last scene.** In the story of a list
of scenes, in which names may repeat, no name stands twice, and the names are
those of the list in the order in which they are first met. What is found under
a name is the last scene of the list that has it, so something is found exactly
if there is one, and exactly if the story contains the name. Each scene of the
story is found under its own name, because the index gives to each name the
place where it stands and no other; and a story is made of its own scenes.
-/
theorem keeps_first_places_and_last_scenes (id : String) (scenes : List Scene) :
    ((ofScenes id scenes).scenes.map Scene.id).Nodup ∧
    (ofScenes id scenes).scenes.map Scene.id = (scenes.map Scene.id).eraseDups ∧
    (∀ name, (ofScenes id scenes).scene? name = (scenes.filter (·.id == name)).getLast?) ∧
    (∀ name, (ofScenes id scenes).scene? name = none ↔ ∀ scene ∈ scenes, scene.id ≠ name) ∧
    (∀ name, (ofScenes id scenes).contains name = true ↔
      ∃ scene, (ofScenes id scenes).scene? name = some scene) ∧
    (∀ (k : Nat) (scene : Scene), (ofScenes id scenes).scenes[k]? = some scene →
      (ofScenes id scenes).scene? scene.id = some scene) ∧
    (∀ (name : String) (k : Nat), (ofScenes id scenes).index[name]? = some k ↔
      (scenes.map Scene.id).eraseDups[k]? = some name) ∧
    ofScenes id (ofScenes id scenes).scenes = ofScenes id scenes := by
  have hNames := map_id_ofScenes id scenes
  refine ⟨nodup_map_id _, hNames, scene?_ofScenes id scenes, ?_, ?_, ?_, ?_, ?_⟩
  · intro name
    rw [scene?_ofScenes, List.getLast?_eq_none_iff, List.filter_eq_nil_iff]
    simp only [beq_iff_eq, ne_eq]
  · intro name
    rw [← isSome_scene?, Option.isSome_iff_exists]
  · intro k scene hScene
    exact scene?_of_getElem? hScene
  · intro name k
    rw [← hNames]
    exact (ofScenes id scenes).indexed name k
  · have hId : (ofScenes id scenes).id = id := id_foldl_insert scenes (empty id)
    have hAgain := ofScenes_scenes (ofScenes id scenes)
    rwa [hId] at hAgain

end Story

end Gamebook
