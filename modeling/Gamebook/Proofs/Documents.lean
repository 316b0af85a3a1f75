import Gamebook.Form.Story
import Gamebook.Proofs.ByteOrder
import Gamebook.Proofs.Overwriting
import Gamebook.Proofs.Scenes
import Gamebook.Proofs.WrittenJson

/-!
# Gamebook — written documents

A document is an object whose members are named passages. It may be written with
its members in any order and with several of one name. It is loaded all the
same: as a story whose scenes follow each other in the order of their names, the
last member of each name among them.

* `Document.written` — the text of a document with given members.
* `Passage.read_toJson`, `read_written` — what is written is read back.
* `getElem?_ofMembers_eq_some_iff` — the last member of a name decides.
* `ofMembers_congr`, `ofMembers_perm` — which orders of members are the same.
* `scenes_ofDocument` — the scenes of a document, in the order of their names.
* `loads_last_passages` — what is loaded from a written document.
-/

namespace Gamebook

open Json

variable {id name : String}

-- ---------------------------------------------------------------------------
-- Choices and passages
-- ---------------------------------------------------------------------------

/-- A choice of a document is read back, with a condition or without one. -/
theorem Choice.read_toDocumentJson (c : Choice) (depth : Nat) :
    documentReader (depth + 2) c.toDocumentJson.tree = .ok c := by
  obtain ⟨text, next, condition⟩ := c
  cases condition with
  | none => rfl
  | some condition => rfl

/-- A passage is read back. -/
theorem Passage.read_toJson (p : Passage) (depth : Nat) :
    reader (depth + 4) p.toJson.tree = .ok p := by
  have hChoices : Reader.list Choice.documentReader (depth + 3)
      (array (p.choices.map Choice.toDocumentJson)).tree = .ok p.choices :=
    list_tree fun c _ => c.read_toDocumentJson depth
  have hMembers : p.toJson.tree = .object
      [(⟨.ok "text", .ok ()⟩, (string p.text).tree),
        (⟨.ok "choices", .ok ()⟩, (array (p.choices.map Choice.toDocumentJson)).tree)] .closed :=
    rfl
  -- The text is read first, and then the choices.
  have hFill : ((Reader.list Choice.documentReader (depth + 3)
      (array (p.choices.map Choice.toDocumentJson)).tree).bind fun choices =>
        .ok { ({ text := some p.text } : Partly) with choices := some choices }) =
      .ok { text := some p.text, choices := some p.choices } := by
    rw [hChoices]
    rfl
  rw [reader, hMembers, Record.read_object, Record.fillMembers_cons rfl rfl rfl,
    Record.fillMembers_cons rfl rfl hFill]
  rfl

-- ---------------------------------------------------------------------------
-- Documents
-- ---------------------------------------------------------------------------

namespace Document

variable {d : Document} {members members' : List (String × Passage)} {p : Passage}

/-- The object with these passages as its members, in this order. -/
def object (members : List (String × Passage)) : Json :=
  .object (members.map fun m => (m.1, m.2.toJson))

/-- The text of that object. -/
def written (members : List (String × Passage)) : String := (object members).text

/-- The last member of a name decides. -/
theorem getElem?_ofMembers (members : List (String × Passage)) (name : String) :
    (ofMembers members)[name]? = (members.filter (·.1 == name)).getLast?.map Prod.snd := by
  rw [ofMembers, getElem?_foldl_insert Prod.fst Prod.snd, Std.ExtTreeMap.getElem?_empty,
    Option.or_none]

theorem getElem?_ofMembers_eq_some_iff : (ofMembers members)[name]? = some p ↔
    (members.filter (·.1 == name)).getLast? = some (name, p) := by
  rw [getElem?_ofMembers, Option.map_eq_some_iff]
  constructor
  · rintro ⟨⟨name', p'⟩, hLast, rfl⟩
    have hName := (List.mem_filter.mp (List.mem_of_getLast? hLast)).2
    rw [hLast, ← eq_of_beq hName]
  · intro hLast
    exact ⟨(name, p), hLast, rfl⟩

/-- The names of a document are those of its members. -/
theorem mem_ofMembers_iff : name ∈ ofMembers members ↔ name ∈ members.map Prod.fst := by
  rw [Std.ExtTreeMap.mem_iff_isSome_getElem?, getElem?_ofMembers, Option.isSome_map,
    List.getLast?_isSome, ne_eq, List.filter_eq_nil_iff, List.mem_map]
  simp

theorem pairwise_toList (d : Document) :
    (d.toList.map Prod.fst).Pairwise fun a b => Text.bytes a < Text.bytes b := by
  rw [List.pairwise_map]
  refine Std.ExtTreeMap.ordered_keys_toList.imp fun {a b} hLess => ?_
  exact Text.bytes_lt_iff.mpr (compareOfLessAndEq_eq_lt.mp hLess)

/-- A document is made of its own members. -/
theorem ofMembers_toList (d : Document) : ofMembers d.toList = d := by
  refine Std.ExtTreeMap.ext_getElem? fun name => ?_
  have hEntries := getElem?_foldl_toList d id name
  rwa [Option.map_id_apply] at hEntries

/-- Only the order among members of one name counts. -/
theorem ofMembers_congr
    (hSame : ∀ name, members'.filter (·.1 == name) = members.filter (·.1 == name)) :
    ofMembers members' = ofMembers members :=
  foldl_insert_congr (fun name => congrArg (List.map Prod.snd) (hSame name)) ∅

theorem ofMembers_perm (hPerm : members'.Perm members) (hNames : (members.map Prod.fst).Nodup) :
    ofMembers members' = ofMembers members :=
  foldl_insert_perm hPerm hNames id ∅

/-- A written document is read back. -/
theorem read_written (members : List (String × Passage)) :
    Json.ofText reader (written members) = .ok (ofMembers members) := by
  -- The limit of nesting leaves room for a document, its passages and their choices.
  have hPairs : Reader.pairs Passage.reader depthLimit (object members).tree = .ok members :=
    pairs_tree fun m _ => m.2.read_toJson 123
  have hRead : reader depthLimit (object members).tree = .ok (ofMembers members) := by
    rw [reader, hPairs]
    rfl
  exact ofText_text hRead

end Document

-- ---------------------------------------------------------------------------
-- Stories of documents
-- ---------------------------------------------------------------------------

namespace Story

open Document

variable {members : List (String × Passage)} {scene : Scene}

/-- The scenes of a document are its passages, in the order of their names. -/
theorem scenes_ofDocument (id : String) (d : Document) :
    (ofDocument id d).scenes = d.toList.map fun p => p.2.scene p.1 := by
  have hIds : (d.toList.map fun p => p.2.scene p.1).map Scene.id = d.toList.map Prod.fst := by
    rw [List.map_map]
    rfl
  refine scenes_ofScenes ?_ id
  rw [hIds]
  exact nodup_names d

theorem map_id_ofDocument (id : String) (d : Document) :
    (ofDocument id d).scenes.map Scene.id = d.toList.map Prod.fst := by
  rw [scenes_ofDocument, List.map_map]
  rfl

theorem mem_ofDocument_iff {d : Document} : scene ∈ (ofDocument id d).scenes ↔
    d[scene.id]? = some ⟨scene.text, scene.choices⟩ := by
  rw [scenes_ofDocument, List.mem_map, ← Std.ExtTreeMap.mem_toList_iff_getElem?_eq_some]
  constructor
  · rintro ⟨⟨name, p⟩, hMem, rfl⟩
    exact hMem
  · intro hMem
    exact ⟨_, hMem, rfl⟩

/-- A written document is loaded as the story of its passages. -/
theorem ofText_written (id : String) (members : List (String × Passage)) :
    ofText id (written members) = .ok (ofDocument id (ofMembers members)) := by
  rw [ofText, read_written]

/-- **The scenes of a document do not depend on how it is written.** However the members of a
document follow each other, its text is loaded; the names of the scenes are those of the members,
in the order of their bytes; each scene is the last member of its name, and is found by its name.
Only the order among members of one name counts, so members of different names may stand in any
order, and the text of a whole document is loaded as that document. -/
theorem loads_last_passages (id : String) (members : List (String × Passage)) :
    ∃ story, ofText id (written members) = .ok story ∧ story.id = id ∧
      ((story.scenes.map Scene.id).Pairwise fun a b => Text.bytes a < Text.bytes b) ∧
      (∀ name, name ∈ story.scenes.map Scene.id ↔ name ∈ members.map Prod.fst) ∧
      (∀ scene, scene ∈ story.scenes ↔ (members.filter (·.1 == scene.id)).getLast? =
        some (scene.id, ⟨scene.text, scene.choices⟩)) ∧
      (∀ scene ∈ story.scenes, story.scene? scene.id = some scene) ∧
      (∀ members', (∀ name, members'.filter (·.1 == name) = members.filter (·.1 == name)) →
        ofText id (written members') = .ok story) ∧
      (∀ members', members'.Perm members → (members.map Prod.fst).Nodup →
        ofText id (written members') = .ok story) ∧
      ∀ d : Document, ofText id d.toJson.text = .ok (ofDocument id d) := by
  refine ⟨_, ofText_written id members, id_foldl_insert _ _, ?_, ?_, ?_, ?_, ?_, ?_, ?_⟩
  · rw [map_id_ofDocument]
    exact pairwise_toList _
  · intro name
    rw [map_id_ofDocument, Std.ExtTreeMap.map_fst_toList_eq_keys, Std.ExtTreeMap.mem_keys,
      mem_ofMembers_iff]
  · intro scene
    rw [mem_ofDocument_iff, getElem?_ofMembers_eq_some_iff]
  · intro scene hMem
    exact scene?_eq_some_iff.mpr ⟨hMem, rfl⟩
  · intro members' hSame
    rw [ofText_written, ofMembers_congr hSame]
  · intro members' hPerm hNames
    rw [ofText_written, ofMembers_perm hPerm hNames]
  · intro d
    have hText : d.toJson.text = written d.toList := rfl
    rw [hText, ofText_written, ofMembers_toList]

end Story

end Gamebook
