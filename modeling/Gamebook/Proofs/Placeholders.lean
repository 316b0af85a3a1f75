import Gamebook.Template.Basic

/-!
# Gamebook — placeholders where they stand

A placeholder is a name between braces, and no name has a brace in it. So
whether a placeholder stands at some place of a text can be seen from that place
alone: nothing in front of it changes it, and two placeholders never overlap.

* `Piece.IsName` — the names of placeholders.
* `Piece.read?_eq_some_iff` — reading finds a placeholder exactly where one
  stands.
* `Piece.all_append` — a text can be cut in front of any opening brace.
* `interpolate_placeholder` — putting in values works on both sides of a
  placeholder independently.
* `Piece.mem_names_iff`, `Template.mem_placeholders_iff` — the names that are
  found are those of the placeholders in the text.
* `Template.stripped_of_has` — the blanks at the ends of a template are cut off
  without touching a placeholder.
-/

namespace Gamebook

open Text

namespace Piece

variable {cs name rest before behind : List Char} {vars : Vars}

/-- A name that can stand between braces. -/
def IsName (name : List Char) : Prop := name ≠ [] ∧ ∀ c ∈ name, isWordChar c = true

-- ---------------------------------------------------------------------------
-- Reading
-- ---------------------------------------------------------------------------

/-- Reading finds a placeholder exactly where one stands. -/
theorem read?_eq_some_iff : read? cs = some (name, rest) ↔
    cs = (placeholder name).source ++ rest ∧ IsName name := by
  constructor
  · intro hRead
    refine ⟨eq_of_read? hRead, ?_⟩
    unfold read? at hRead
    split at hRead
    · split at hRead
      · cases hRead
      · rename_i hWord
        split at hRead
        · cases hRead
          exact ⟨fun hNil => hWord (List.isEmpty_iff.mpr hNil), fun _ => isWordChar_of_mem_word⟩
        · cases hRead
    · cases hRead
  · rintro ⟨rfl, hNonempty, hWord⟩
    have hClose : ∀ c, ('\x7d' :: rest).head? = some c → isWordChar c = false := by
      intro c hHead
      cases hHead
      decide
    have hText : (placeholder name).source ++ rest = '\x7b' :: (name ++ '\x7d' :: rest) := by
      simp [source]
    rw [hText, read?, word, afterWord, takeWhile_run hWord hClose, dropWhile_run hWord hClose]
    simp only [List.isEmpty_iff, hNonempty, if_false]

theorem all_of_read? (hRead : read? cs = some (name, rest)) :
    all cs = placeholder name :: all rest := by
  cases cs with
  | nil => cases hRead
  | cons c cs =>
    rw [all]
    split
    · rename_i name' rest' hRead'
      rw [hRead] at hRead'
      cases hRead'
      rfl
    · rename_i hNone
      rw [hRead] at hNone
      cases hNone

theorem all_cons_of_none {c : Char} (hNone : read? (c :: cs) = none) :
    all (c :: cs) = plain c :: all cs := by
  rw [all]
  split
  · rename_i name rest hRead
    rw [hNone] at hRead
    cases hRead
  · rfl

/-- Nothing behind the opening brace of a placeholder opens another one. -/
theorem IsName.open_not_mem (hName : IsName name) : '\x7b' ∉ name ++ ['\x7d'] := by
  intro hMem
  rcases List.mem_append.mp hMem with hWord | hClose
  · exact absurd (hName.2 _ hWord) (by decide)
  · exact absurd (List.mem_singleton.mp hClose) (by decide)

/-- A placeholder that ends behind an opening brace begins behind it too. -/
theorem read?_append_eq_none {c : Char} (hNone : read? (c :: cs) = none) :
    read? (c :: (cs ++ '\x7b' :: behind)) = none := by
  rw [Option.eq_none_iff_forall_ne_some]
  rintro ⟨name, rest⟩ hRead
  obtain ⟨hText, hName⟩ := read?_eq_some_iff.mp hRead
  have hSource : (placeholder name).source ++ rest = '\x7b' :: ((name ++ ['\x7d']) ++ rest) := by
    rw [source, List.cons_append]
  rw [hSource, List.cons.injEq] at hText
  obtain ⟨rfl, hText⟩ := hText
  -- Neither the name nor the closing brace is an opening brace, so they end in front of it.
  have hIn : ∃ rest', cs = (name ++ ['\x7d']) ++ rest' := by
    rcases List.append_eq_append_iff.mp hText with ⟨extra, hExtra, hBrace⟩ | ⟨rest', hCs, -⟩
    · cases extra with
      | nil => exact ⟨[], by rw [hExtra, List.append_nil, List.append_nil]⟩
      | cons c extra =>
        have hMem : '\x7b' ∈ name ++ ['\x7d'] := by
          rw [hExtra, (List.cons.inj hBrace).1]
          exact List.mem_append_right _ List.mem_cons_self
        exact absurd hMem hName.open_not_mem
    · exact ⟨rest', hCs⟩
  obtain ⟨rest', rfl⟩ := hIn
  have hHere : read? ('\x7b' :: ((name ++ ['\x7d']) ++ rest')) = some (name, rest') :=
    read?_eq_some_iff.mpr ⟨by rw [source, List.cons_append], hName⟩
  rw [hHere] at hNone
  cases hNone

-- ---------------------------------------------------------------------------
-- Cutting a text at a placeholder
-- ---------------------------------------------------------------------------

/-- A text can be cut into pieces on both sides of an opening brace. -/
theorem all_append (before behind : List Char) :
    all (before ++ '\x7b' :: behind) = all before ++ all ('\x7b' :: behind) := by
  fun_induction all before with
  | case1 => rfl
  | case2 c cs name rest hRead ih =>
    obtain ⟨hText, hName⟩ := read?_eq_some_iff.mp hRead
    have hRead' : read? (c :: cs ++ '\x7b' :: behind) = some (name, rest ++ '\x7b' :: behind) :=
      read?_eq_some_iff.mpr ⟨by rw [hText, List.append_assoc], hName⟩
    rw [all_of_read? hRead', ih, List.cons_append]
  | case3 c cs hNone ih =>
    rw [List.cons_append, all_cons_of_none (read?_append_eq_none hNone), ih, List.cons_append]

theorem all_placeholder (hName : IsName name) (before behind : List Char) :
    all (before ++ ((placeholder name).source ++ behind)) =
      all before ++ placeholder name :: all behind := by
  rw [← all_of_read? (read?_eq_some_iff.mpr ⟨rfl, hName⟩), source, List.cons_append, all_append]

/-- Every placeholder that is found has a name. -/
theorem isName_of_mem_all (hMem : placeholder name ∈ all cs) : IsName name := by
  fun_induction all cs with
  | case1 => cases hMem
  | case2 c cs name' rest hRead ih =>
    rcases List.mem_cons.mp hMem with hHead | hTail
    · cases hHead
      exact (read?_eq_some_iff.mp hRead).2
    · exact ih hTail
  | case3 c cs hNone ih =>
    rcases List.mem_cons.mp hMem with hHead | hTail
    · cases hHead
    · exact ih hTail

/-- The names that are found in a text are those of its placeholders. -/
theorem mem_names_iff {w : String} : w ∈ names cs ↔ IsName w.toList ∧
    ∃ before behind, cs = before ++ ((placeholder w.toList).source ++ behind) := by
  constructor
  · intro hMem
    obtain ⟨name, hName, rfl⟩ := List.mem_map.mp hMem
    obtain ⟨piece, hPiece, hPieceName⟩ := List.mem_filterMap.mp hName
    cases piece with
    | plain c => cases hPieceName
    | placeholder name' =>
      cases hPieceName
      obtain ⟨before, behind, hSplit⟩ := List.append_of_mem hPiece
      rw [String.toList_ofList]
      refine ⟨isName_of_mem_all hPiece, before.flatMap source, behind.flatMap source, ?_⟩
      rw [← flatMap_source_all cs, hSplit, List.flatMap_append, List.flatMap_cons]
  · rintro ⟨hName, before, behind, rfl⟩
    have hPiece : placeholder w.toList ∈
        all (before ++ ((placeholder w.toList).source ++ behind)) := by
      rw [all_placeholder hName]
      exact List.mem_append_right _ List.mem_cons_self
    exact List.mem_map.mpr
      ⟨w.toList, List.mem_filterMap.mpr ⟨_, hPiece, rfl⟩, String.ofList_toList⟩

end Piece

open Piece in
/-- Values are put in on both sides of a placeholder independently. -/
theorem interpolate_placeholder {name : List Char} (hName : IsName name) (vars : Vars)
    (before behind : List Char) :
    interpolate vars (before ++ ((placeholder name).source ++ behind)) =
      interpolate vars before ++ (fill vars (placeholder name) ++ interpolate vars behind) := by
  unfold interpolate
  rw [all_placeholder hName, List.flatMap_append, List.flatMap_cons]

-- ---------------------------------------------------------------------------
-- Placeholders of a template
-- ---------------------------------------------------------------------------

namespace Template

variable {template w : String} {before behind : List Char}

/-- The template has the placeholder in one of its runs of plain text; `before` and `behind` are
the plain text on the two sides, other runs included and directives left out. -/
def Has (template w : String) (before behind : List Char) : Prop :=
  Piece.IsName w.toList ∧ ∃ (segments₁ segments₂ : List Segment) (text₁ text₂ : List Char),
    segments template = segments₁ ++
      .plain (text₁ ++ ((Piece.placeholder w.toList).source ++ text₂)) :: segments₂ ∧
    before = segments₁.flatMap Segment.text ++ text₁ ∧
    behind = text₂ ++ segments₂.flatMap Segment.text

/-- The placeholders of a template are those that it has. -/
theorem mem_placeholders_iff :
    w ∈ placeholders template ↔ ∃ before behind, Has template w before behind := by
  rw [placeholders, List.mem_flatMap]
  constructor
  · rintro ⟨segment, hSegment, hNames⟩
    obtain ⟨hName, text₁, text₂, hText⟩ := Piece.mem_names_iff.mp hNames
    obtain ⟨segments₁, segments₂, hSplit⟩ := List.append_of_mem hSegment
    cases segment with
    | plain text =>
      have hPlain : text = text₁ ++ ((Piece.placeholder w.toList).source ++ text₂) := hText
      rw [hPlain] at hSplit
      exact ⟨_, _, hName, segments₁, segments₂, text₁, text₂, hSplit, rfl, rfl⟩
    | directive d =>
      -- A directive has no plain text.
      have hNil : ([] : List Char) =
          text₁ ++ ((Piece.placeholder w.toList).source ++ text₂) := hText
      simp [Piece.source] at hNil
  · rintro ⟨before, behind, hName, segments₁, segments₂, text₁, text₂, hSplit, -, -⟩
    refine ⟨.plain (text₁ ++ ((Piece.placeholder w.toList).source ++ text₂)), ?_, ?_⟩
    · rw [hSplit]
      exact List.mem_append_right _ List.mem_cons_self
    · exact Piece.mem_names_iff.mpr ⟨hName, text₁, text₂, rfl⟩

/-- Cutting off the blanks at the ends of a template does not touch a placeholder. -/
theorem stripped_of_has (hHas : Has template w before behind) : stripped template =
    trimStart before ++ ((Piece.placeholder w.toList).source ++ trimEnd behind) := by
  obtain ⟨-, segments₁, segments₂, text₁, text₂, hSplit, rfl, rfl⟩ := hHas
  have hPlain : (segments template).flatMap Segment.text =
      (segments₁.flatMap Segment.text ++ text₁) ++ '\x7b' ::
        (w.toList ++ '\x7d' :: (text₂ ++ segments₂.flatMap Segment.text)) := by
    rw [hSplit, List.flatMap_append, List.flatMap_cons]
    simp [Segment.text, Piece.source]
  have hOpen : isBlank '\x7b' = false := by decide
  have hClose : isBlank '\x7d' = false := by decide
  have hEnd := trimEnd_append hClose
    (trimStart (segments₁.flatMap Segment.text ++ text₁) ++ '\x7b' :: w.toList)
    (text₂ ++ segments₂.flatMap Segment.text)
  rw [stripped, hPlain, trim, trimStart_append hOpen]
  simpa [Piece.source] using hEnd

/-- The text of a template is filled on both sides of a placeholder independently. -/
theorem toList_fill_of_has (hHas : Has template w before behind) (vars : Vars) :
    (fill template vars).toList = interpolate vars (trimStart before) ++
      (Piece.fill vars (.placeholder w.toList) ++ interpolate vars (trimEnd behind)) := by
  rw [fill, String.toList_ofList, stripped_of_has hHas, interpolate_placeholder hHas.1]

/-- A placeholder of an undefined variable is shown as it was written, braces included. -/
theorem fill_of_has (hHas : Has template w before behind) {vars : Vars} (hUndefined : w ∉ vars) :
    (fill template vars).toList = interpolate vars (trimStart before) ++
      ('\x7b' :: (w.toList ++ ['\x7d']) ++ interpolate vars (trimEnd behind)) := by
  have hVerbatim : Piece.fill vars (.placeholder w.toList) = '\x7b' :: (w.toList ++ ['\x7d']) := by
    rw [Piece.fill, String.ofList_toList, Std.ExtTreeMap.getElem?_eq_none hUndefined]
    rfl
  rw [toList_fill_of_has hHas, hVerbatim]

end Template

end Gamebook
