import Std.Data.ExtTreeMap

/-!
# Gamebook — stories

* `Choice` — an edge of the story graph: what it says, where it leads, and the
  condition under which it is seen.
* `Scene` — a node: its name, its template, its choices in order.
* `Scene.IsIndex` — what it means that an index tells where each scene stands.
* `Story` — a list of scenes and the index of their names.
* `Story.ofScenes` — the story of a list of scenes in which names may repeat:
  a later scene takes the place of the earlier one of that name.

Scenes are looked up through the index alone. That a look-up stays inside the
list and finds a scene of the name asked for follows from `Scene.IsIndex`.
-/

namespace Gamebook

/-- An edge of the story graph. -/
structure Choice where
  text : String
  /-- The name of the scene it leads to, which need not exist. -/
  next : String
  /-- The condition under which it is seen; none means always. -/
  condition : Option String
deriving DecidableEq

/-- A node of the story graph. -/
structure Scene where
  id : String
  text : String
  choices : List Choice
deriving DecidableEq

/-- Places in a list by name. -/
abbrev Places := Std.ExtTreeMap String Nat

namespace Scene

/-- A name leads to a place exactly if the scene at that place has the name. -/
def IsIndex (scenes : List Scene) (index : Places) : Prop :=
  ∀ (name : String) (i : Nat), index[name]? = some i ↔ (scenes.map Scene.id)[i]? = some name

theorem isIndex_nil : IsIndex [] ∅ := by
  intro name i
  simp

/-- A scene in the place of one of the same name leaves the names as they were. -/
theorem map_id_set {scenes : List Scene} {scene : Scene} {i : Nat}
    (h : (scenes.map Scene.id)[i]? = some scene.id) :
    (scenes.set i scene).map Scene.id = scenes.map Scene.id := by
  obtain ⟨hi, hid⟩ := List.getElem?_eq_some_iff.mp h
  rw [List.map_set, ← hid, List.set_getElem_self]

namespace IsIndex

variable {scenes : List Scene} {index : Places} {scene : Scene} {name : String} {i : Nat}

/-- Places that the index gives lie inside the list. -/
theorem lt_length (h : IsIndex scenes index) (hi : index[name]? = some i) :
    i < scenes.length := by
  obtain ⟨hlt, -⟩ := List.getElem?_eq_some_iff.mp ((h name i).mp hi)
  rwa [List.length_map] at hlt

/-- The scene at the place of a name has that name. -/
theorem id_eq (h : IsIndex scenes index) (hi : index[name]? = some i) (hlt : i < scenes.length) :
    scenes[i].id = name := by
  have hname := (h name i).mp hi
  rw [List.getElem?_map, List.getElem?_eq_getElem hlt] at hname
  exact Option.some.inj hname

/-- Every name of a scene is in the index. -/
theorem exists_place (h : IsIndex scenes index) (hmem : scene ∈ scenes) :
    ∃ i, ∃ hlt : i < scenes.length, index[scene.id]? = some i ∧ scenes[i] = scene := by
  obtain ⟨i, hlt, rfl⟩ := List.getElem_of_mem hmem
  refine ⟨i, hlt, (h _ i).mpr ?_, rfl⟩
  rw [List.getElem?_map, List.getElem?_eq_getElem hlt]
  rfl

/-- Replacing a scene by one of the same name keeps the index. -/
theorem set (h : IsIndex scenes index) (hi : index[scene.id]? = some i) :
    IsIndex (scenes.set i scene) index := by
  intro name j
  rw [map_id_set ((h scene.id i).mp hi)]
  exact h name j

/-- A scene of a new name goes to the end. -/
theorem concat (h : IsIndex scenes index) (hnew : index[scene.id]? = none) :
    IsIndex (scenes ++ [scene]) (index.insert scene.id scenes.length) := by
  intro name j
  rw [Std.ExtTreeMap.getElem?_insert, List.map_append, List.map_singleton]
  by_cases hname : scene.id = name
  · subst hname
    rw [if_pos Std.ReflCmp.compare_self]
    constructor
    · intro hj
      rw [← Option.some.inj hj, List.getElem?_append_right (Nat.le_of_eq (List.length_map _)),
        List.length_map, Nat.sub_self]
      rfl
    · intro hj
      -- The new name is not among the old ones, so the place is the last one.
      rcases Nat.lt_or_ge j (scenes.map Scene.id).length with hlt | hge
      · rw [List.getElem?_append_left hlt, ← h, hnew] at hj
        cases hj
      · rw [List.getElem?_append_right hge] at hj
        obtain ⟨hlt, -⟩ := List.getElem?_eq_some_iff.mp hj
        simp only [List.length_singleton, List.length_map] at hlt hge
        congr 1
        omega
  · rw [if_neg (fun heq => hname (Std.LawfulEqCmp.eq_of_compare heq)), h]
    rcases Nat.lt_or_ge j (scenes.map Scene.id).length with hlt | hge
    · rw [List.getElem?_append_left hlt]
    · rw [List.getElem?_append_right hge, List.getElem?_eq_none hge]
      constructor
      · intro hj
        cases hj
      · intro hj
        have hmem := List.mem_of_getElem? hj
        rw [List.mem_singleton] at hmem
        exact absurd hmem.symm hname

/-- Scenes have only one index. -/
theorem unique (h : IsIndex scenes index) {index' : Places} (h' : IsIndex scenes index') :
    index = index' := by
  apply Std.ExtTreeMap.ext_getElem?
  intro name
  apply Option.ext
  intro i
  rw [h name i, h' name i]

end IsIndex

end Scene

/-- A list of scenes and the index of their names. -/
structure Story where
  id : String
  scenes : List Scene
  index : Places
  indexed : Scene.IsIndex scenes index

namespace Story

def empty (id : String) : Story := ⟨id, [], ∅, Scene.isIndex_nil⟩

/-- Adds a scene, in the place of the one with its name if there is one. -/
def insert (story : Story) (scene : Scene) : Story :=
  match h : story.index[scene.id]? with
  | some i => ⟨story.id, story.scenes.set i scene, story.index, story.indexed.set h⟩
  | none =>
    ⟨story.id, story.scenes ++ [scene], story.index.insert scene.id story.scenes.length,
      story.indexed.concat h⟩

/-- The story of a list of scenes in which names may repeat. -/
def ofScenes (id : String) (scenes : List Scene) : Story := scenes.foldl insert (empty id)

def scene? (story : Story) (id : String) : Option Scene :=
  match h : story.index[id]? with
  | some i =>
    have := story.indexed.lt_length h
    some story.scenes[i]
  | none => none

def contains (story : Story) (id : String) : Bool := story.index.contains id

def size (story : Story) : Nat := story.scenes.length

/-- The name of the scene in which every story begins. -/
def startId : String := "start"

/-- Two stories with the same name and the same scenes are equal. -/
theorem ext {a b : Story} (hid : a.id = b.id) (hscenes : a.scenes = b.scenes) : a = b := by
  obtain ⟨id, scenes, index, indexed⟩ := a
  obtain ⟨id', scenes', index', indexed'⟩ := b
  cases hid
  cases hscenes
  cases indexed.unique indexed'
  rfl

/-! ## Looking up scenes -/

variable {story : Story} {id : String} {scene : Scene}

/-- A look-up finds exactly the scene that has the name. -/
theorem scene?_eq_some_iff :
    story.scene? id = some scene ↔ scene ∈ story.scenes ∧ scene.id = id := by
  unfold scene?
  constructor
  · intro h
    split at h
    · rename_i i hi
      have hlt := story.indexed.lt_length hi
      rw [← Option.some.inj h]
      exact ⟨List.getElem_mem hlt, story.indexed.id_eq hi hlt⟩
    · cases h
  · rintro ⟨hmem, rfl⟩
    obtain ⟨i, hlt, hi, rfl⟩ := story.indexed.exists_place hmem
    split
    · rename_i j hj
      rw [hi] at hj
      cases hj
      rfl
    · rename_i hnone
      rw [hi] at hnone
      cases hnone

theorem isSome_scene? : (story.scene? id).isSome = story.contains id := by
  rw [contains, Std.ExtTreeMap.contains_eq_isSome_getElem?]
  unfold scene?
  split
  · rename_i i hi
    simp [hi]
  · rename_i hnone
    simp [hnone]

/-- A story contains the names of its scenes. -/
theorem contains_iff : story.contains id = true ↔ ∃ scene ∈ story.scenes, scene.id = id := by
  rw [← isSome_scene?, Option.isSome_iff_exists]
  exact exists_congr fun _ => scene?_eq_some_iff

theorem scene?_eq_none_iff : story.scene? id = none ↔ ∀ scene ∈ story.scenes, scene.id ≠ id := by
  rw [← Option.not_isSome_iff_eq_none, isSome_scene?, contains_iff]
  simp

theorem contains_eq_false_iff :
    story.contains id = false ↔ ∀ scene ∈ story.scenes, scene.id ≠ id := by
  rw [← isSome_scene?, Option.isSome_eq_false_iff, Option.isNone_iff_eq_none, scene?_eq_none_iff]

end Story

end Gamebook
