import Std.Data.ExtTreeMap

/-!
# Gamebook — entries that overwrite each other

The variables of a play and the passages of a document come about in the same
way: entries are put into a map one after the other, and a later entry of a name
overwrites the earlier one.

* `getElem?_foldl_insert` — the last entry of a name decides.
* `foldl_insert_congr`, `foldl_insert_perm` — entries of different names may stand in any order.
* `foldl_insert_again` — entries that are put in once more change nothing.
* `getElem?_foldl_toList` — the entries of a map with new values.
-/

namespace Gamebook

variable {α β : Type} {entries entries' : List α}

/-- The last entry of a name decides, or else what was there before. -/
theorem getElem?_foldl_insert (key : α → String) (value : α → β) (entries : List α)
    (m : Std.ExtTreeMap String β) (name : String) :
    (entries.foldl (fun m entry => m.insert (key entry) (value entry)) m)[name]? =
      ((entries.filter (key · == name)).getLast?.map value).or m[name]? := by
  -- The map grows with every entry, so it is generalized.
  induction entries generalizing m with
  | nil => rfl
  | cons entry entries ih =>
    rw [List.foldl_cons, ih, List.filter_cons, Std.ExtTreeMap.getElem?_insert]
    by_cases hSame : key entry = name
    · rw [hSame, if_pos Std.ReflCmp.compare_self, if_pos (beq_self_eq_true name),
        List.getLast?_cons]
      cases (entries.filter (key · == name)).getLast? <;> rfl
    · rw [if_neg fun hEq => hSame (Std.LawfulEqCmp.eq_of_compare hEq),
        if_neg fun hEq => hSame (eq_of_beq hEq)]

/-- Only the order among entries of one name counts. -/
theorem foldl_insert_congr {key : α → String} {value : α → β}
    (hSame : ∀ name, (entries'.filter (key · == name)).map value =
      (entries.filter (key · == name)).map value) (m : Std.ExtTreeMap String β) :
    entries'.foldl (fun m entry => m.insert (key entry) (value entry)) m =
      entries.foldl (fun m entry => m.insert (key entry) (value entry)) m := by
  apply Std.ExtTreeMap.ext_getElem?
  intro name
  rw [getElem?_foldl_insert, getElem?_foldl_insert, ← List.getLast?_map, ← List.getLast?_map,
    hSame]

/-- Entries that are put in once more change nothing, though on the way earlier entries of a name
come back for a while. -/
theorem foldl_insert_again (key : α → String) (value : α → β) (entries : List α)
    (m : Std.ExtTreeMap String β) :
    entries.foldl (fun m entry => m.insert (key entry) (value entry))
        (entries.foldl (fun m entry => m.insert (key entry) (value entry)) m) =
      entries.foldl (fun m entry => m.insert (key entry) (value entry)) m := by
  apply Std.ExtTreeMap.ext_getElem?
  intro name
  rw [getElem?_foldl_insert, getElem?_foldl_insert, ← Option.or_assoc, Option.or_self]

-- ---------------------------------------------------------------------------
-- Entries under different names
-- ---------------------------------------------------------------------------

variable {members members' : List (String × β)} {name : String} {entry : String × β}

/-- Under different names every member is the last one of its name. -/
theorem getLast?_filter_eq_some_iff (hNames : (members.map Prod.fst).Nodup) :
    (members.filter (·.1 == name)).getLast? = some entry ↔ entry ∈ members ∧ entry.1 = name := by
  constructor
  · intro hLast
    obtain ⟨hMem, hName⟩ := List.mem_filter.mp (List.mem_of_getLast? hLast)
    exact ⟨hMem, eq_of_beq hName⟩
  · rintro ⟨hMem, rfl⟩
    induction members with
    | nil => cases hMem
    | cons m members ih =>
      rw [List.map_cons, List.nodup_cons] at hNames
      have hFresh : ∀ m' ∈ members, m'.1 ≠ m.1 := by
        intro m' hMem' hAgain
        exact hNames.1 (hAgain ▸ List.mem_map_of_mem hMem')
      rw [List.filter_cons]
      rcases List.mem_cons.mp hMem with rfl | hTail
      · have hNone : members.filter (·.1 == entry.1) = [] :=
          List.filter_eq_nil_iff.mpr fun m' hMem' hName => hFresh m' hMem' (eq_of_beq hName)
        rw [if_pos (beq_self_eq_true entry.1), hNone]
        rfl
      · rw [if_neg fun hName => hFresh entry hTail (eq_of_beq hName).symm]
        exact ih hNames.2 hTail

/-- Entries under different names may be put in in any order. -/
theorem foldl_insert_perm (hPerm : members'.Perm members) (hNames : (members.map Prod.fst).Nodup)
    (value : β → α) (m : Std.ExtTreeMap String α) :
    members'.foldl (fun m entry => m.insert entry.1 (value entry.2)) m =
      members.foldl (fun m entry => m.insert entry.1 (value entry.2)) m := by
  have hNames' : (members'.map Prod.fst).Nodup := (hPerm.map Prod.fst).nodup_iff.mpr hNames
  refine Std.ExtTreeMap.ext_getElem? fun name => ?_
  have hLast : (members'.filter (·.1 == name)).getLast? =
      (members.filter (·.1 == name)).getLast? := by
    refine Option.ext fun entry => ?_
    rw [getLast?_filter_eq_some_iff hNames', getLast?_filter_eq_some_iff hNames, hPerm.mem_iff]
  rw [getElem?_foldl_insert Prod.fst fun entry => value entry.2,
    getElem?_foldl_insert Prod.fst fun entry => value entry.2, hLast]

theorem nodup_names (m : Std.ExtTreeMap String β) : (m.toList.map Prod.fst).Nodup := by
  refine List.pairwise_map.mpr (Std.ExtTreeMap.distinct_keys_toList.imp fun hDistinct hSame => ?_)
  exact hDistinct (Std.LawfulEqCmp.compare_eq_iff_eq.mpr hSame)

/-- The entries of a map, put in with new values. -/
theorem getElem?_foldl_toList (m : Std.ExtTreeMap String β) (value : β → α) (name : String) :
    (m.toList.foldl (fun m' entry => m'.insert entry.1 (value entry.2))
      (∅ : Std.ExtTreeMap String α))[name]? = m[name]?.map value := by
  have hLast : (m.toList.filter (·.1 == name)).getLast? = m[name]?.map ((name, ·)) := by
    refine Option.ext fun ⟨name', b⟩ => ?_
    rw [getLast?_filter_eq_some_iff (nodup_names m), Std.ExtTreeMap.mem_toList_iff_getElem?_eq_some,
      Option.map_eq_some_iff]
    constructor
    · rintro ⟨hValue, rfl⟩
      exact ⟨b, hValue, rfl⟩
    · rintro ⟨b, hValue, hEntry⟩
      cases hEntry
      exact ⟨hValue, rfl⟩
  rw [getElem?_foldl_insert Prod.fst fun entry => value entry.2, hLast,
    Std.ExtTreeMap.getElem?_empty, Option.or_none, Option.map_map]
  rfl

end Gamebook
