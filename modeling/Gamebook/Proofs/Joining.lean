import Gamebook.Proofs.Grammar
import Gamebook.Proofs.Interpolation

/-!
# Gamebook — placeholders found in pieces and in the whole

The check looks for placeholders in each run of plain text on its own, before the
directives are taken out. Play looks for them in one text, when the directives
are gone, the runs are joined and the blanks at the ends are cut off. Joining can
only add placeholders: one that lies in a run lies in the joined text as well, and
a new one has to begin in a run and end behind the directive that followed it. So
the check reports no name that play does not look up, and none is missed unless a
run in front of a directive ends like the beginning of a placeholder.

* `Piece.Straddles`, `Piece.LeftOpen` — a placeholder across the border of two
  texts, and a text that can be continued to one.
* `Piece.names_append_cases` — the names in two texts and in both joined.
* `Piece.names_trim` — the blanks at the ends of a text have no part in its names.
* `Tokens.names_text` — the names in the runs of plain text and in all of them
  joined.
* `Cut.names_ofPieces` — the names that are found are those of the holes.
* `Template.reports_names_looked_up` — the placeholders of a template against the
  text that is interpolated.
-/

namespace Gamebook

open Text

namespace Piece

variable {cs rest name : List Char} {a b : List Char} {c : Char}

-- ---------------------------------------------------------------------------
-- Names in front
-- ---------------------------------------------------------------------------

@[simp] theorem names_nil : names [] = [] := by
  rw [names, all]
  rfl

theorem names_of_read? (hRead : read? cs = some (name, rest)) :
    names cs = String.ofList name :: names rest := by
  rw [names, all_of_read? hRead]
  rfl

theorem names_cons_of_none (hNone : read? (c :: cs) = none) : names (c :: cs) = names cs := by
  rw [names, all_cons_of_none hNone]
  rfl

/-- Text without an opening brace in front of another text has no part in its names. -/
theorem names_append_left (hOpen : '\x7b' ∉ a) (cs : List Char) : names (a ++ cs) = names cs := by
  induction a with
  | nil => rfl
  | cons c a ih =>
    rw [List.mem_cons, not_or] at hOpen
    have hNone : read? (c :: (a ++ cs)) = none := by
      rw [Option.eq_none_iff_forall_ne_some]
      rintro ⟨name, rest⟩ hRead
      have hText := eq_of_read? hRead
      rw [source, List.cons_append, List.cons.injEq] at hText
      exact hOpen.1 hText.1.symm
    rw [List.cons_append, names_cons_of_none hNone]
    exact ih hOpen.2

theorem names_of_not_mem (hOpen : '\x7b' ∉ cs) : names cs = [] := by
  have hNames := names_append_left hOpen []
  rwa [List.append_nil, names_nil] at hNames

-- ---------------------------------------------------------------------------
-- Names in two texts
-- ---------------------------------------------------------------------------

/-- A placeholder begins in the first text and ends in the second. -/
def Straddles (a b : List Char) : Prop :=
  ∃ before name name' behind, a = before ++ '\x7b' :: name ∧ b = name' ++ '\x7d' :: behind ∧
    IsName (name ++ name')

/-- The text ends like the beginning of a placeholder: with an opening brace and nothing but
characters of names behind it. -/
def LeftOpen (a : List Char) : Prop :=
  ∃ before name, a = before ++ '\x7b' :: name ∧ ∀ c ∈ name, isWordChar c = true

theorem Straddles.leftOpen (hStraddles : Straddles a b) : LeftOpen a := by
  obtain ⟨before, name, name', behind, hText, -, hName⟩ := hStraddles
  exact ⟨before, name, hText, fun c hMem => hName.2 c (List.mem_append_left _ hMem)⟩

theorem Straddles.append_left (hStraddles : Straddles a b) (front : List Char) :
    Straddles (front ++ a) b := by
  obtain ⟨before, name, name', behind, rfl, hBehind, hName⟩ := hStraddles
  exact ⟨front ++ before, name, name', behind, (List.append_assoc _ _ _).symm, hBehind, hName⟩

/-- A placeholder that is found only when a second text follows has all of the first text in it. -/
theorem exists_name_of_read? (hNone : read? (c :: cs) = none)
    (hRead : read? (c :: cs ++ b) = some (name, rest)) :
    c = '\x7b' ∧ IsName name ∧ ∃ name', name = cs ++ name' ∧ b = name' ++ '\x7d' :: rest := by
  obtain ⟨hText, hName⟩ := read?_eq_some_iff.mp hRead
  have hSource : (placeholder name).source ++ rest = '\x7b' :: (name ++ '\x7d' :: rest) := by
    rw [source, List.cons_append, List.append_assoc]
    rfl
  rw [hSource, List.cons_append, List.cons.injEq] at hText
  obtain ⟨rfl, hText⟩ := hText
  refine ⟨rfl, hName, ?_⟩
  rcases List.append_eq_append_iff.mp hText with ⟨name', hEq, hBehind⟩ | ⟨extra, hCs, hBehind⟩
  · exact ⟨name', hEq, hBehind⟩
  · cases extra with
    | nil =>
      -- The first text ends exactly in front of the closing brace.
      rw [List.append_nil] at hCs
      exact ⟨[], by rw [hCs, List.append_nil], hBehind.symm⟩
    | cons c extra =>
      -- Then the first text has the whole placeholder, and reading would have found it there.
      have hHere : read? ('\x7b' :: cs) = some (name, extra) := by
        rw [read?_eq_some_iff, hCs, ← (List.cons.inj hBehind).1]
        exact ⟨by simp [source], hName⟩
      rw [hNone] at hHere
      cases hHere

/-- Such a placeholder straddles the border, and no name on either side is lost with it. -/
theorem straddles_of_read? (hNone : read? (c :: cs) = none)
    (hRead : read? (c :: cs ++ b) = some (name, rest)) :
    Straddles (c :: cs) b ∧ names (c :: cs) = [] ∧ names b = names rest := by
  obtain ⟨rfl, hName, name', rfl, rfl⟩ := exists_name_of_read? hNone hRead
  have hOpen := hName.open_not_mem
  rw [List.append_assoc, List.mem_append, not_or] at hOpen
  have hBehind := names_append_left hOpen.2 rest
  rw [List.append_assoc] at hBehind
  refine ⟨⟨[], cs, name', rest, rfl, rfl, hName⟩, ?_, hBehind⟩
  rw [names_cons_of_none hNone, names_of_not_mem hOpen.1]

/-- Joining two texts keeps the names of both, and adds at most the one of a placeholder that
straddles the border. -/
theorem names_append_cases (a b : List Char) :
    names (a ++ b) = names a ++ names b ∨
    Straddles a b ∧ ∃ w, names (a ++ b) = names a ++ w :: names b := by
  fun_induction all a with
  | case1 => exact Or.inl (by rw [List.nil_append, names_nil, List.nil_append])
  | case2 c cs name rest hRead ih =>
    obtain ⟨hText, hName⟩ := read?_eq_some_iff.mp hRead
    have hRead' : read? (c :: cs ++ b) = some (name, rest ++ b) :=
      read?_eq_some_iff.mpr ⟨by rw [hText, List.append_assoc], hName⟩
    rw [names_of_read? hRead, names_of_read? hRead']
    rcases ih with hSame | ⟨hStraddles, w, hMore⟩
    · exact Or.inl (by rw [hSame, List.cons_append])
    · refine Or.inr ⟨?_, w, by rw [hMore, List.cons_append]⟩
      rw [hText]
      exact hStraddles.append_left _
  | case3 c cs hNone ih =>
    cases hRead : read? (c :: cs ++ b) with
    | none =>
      rw [List.cons_append] at hRead ⊢
      rw [names_cons_of_none hNone, names_cons_of_none hRead]
      rcases ih with hSame | ⟨hStraddles, hMore⟩
      · exact Or.inl hSame
      · exact Or.inr ⟨hStraddles.append_left [c], hMore⟩
    | some p =>
      obtain ⟨name, rest⟩ := p
      obtain ⟨hStraddles, hFront, hBehind⟩ := straddles_of_read? hNone hRead
      refine Or.inr ⟨hStraddles, String.ofList name, ?_⟩
      rw [names_of_read? hRead, hFront, hBehind, List.nil_append]

theorem names_append (hApart : ¬ Straddles a b) : names (a ++ b) = names a ++ names b := by
  rcases names_append_cases a b with hSame | ⟨hStraddles, -⟩
  · exact hSame
  · exact absurd hStraddles hApart

theorem sublist_names_append (a b : List Char) :
    (names a ++ names b).Sublist (names (a ++ b)) := by
  rcases names_append_cases a b with hSame | ⟨-, w, hMore⟩
  · exact hSame ▸ List.Sublist.refl _
  · rw [hMore]
    exact (List.Sublist.refl _).append (List.sublist_cons_self _ _)

-- ---------------------------------------------------------------------------
-- Names and blanks
-- ---------------------------------------------------------------------------

theorem open_not_mem_of_blank (hBlank : ∀ c ∈ a, isBlank c = true) : '\x7b' ∉ a :=
  fun hMem => absurd (hBlank _ hMem) (by decide)

/-- The blanks at the ends of a text have no part in its names. -/
theorem names_trim (cs : List Char) : names (trim cs) = names cs := by
  have hStart : names cs = names (trimStart cs) := by
    have hBlank : ∀ c ∈ cs.takeWhile isBlank, isBlank c = true :=
      fun c hMem => List.all_eq_true.mp List.all_takeWhile c hMem
    have hSplit : cs.takeWhile isBlank ++ trimStart cs = cs := List.takeWhile_append_dropWhile
    rw [← names_append_left (open_not_mem_of_blank hBlank) (trimStart cs), hSplit]
  have hEnd : ∀ cs, names cs = names (trimEnd cs) := by
    intro cs
    have hBlank : ∀ c ∈ (cs.reverse.takeWhile isBlank).reverse, isBlank c = true :=
      fun c hMem => List.all_eq_true.mp List.all_takeWhile c (List.mem_reverse.mp hMem)
    have hSplit : trimEnd cs ++ (cs.reverse.takeWhile isBlank).reverse = cs := by
      rw [trimEnd, ← List.reverse_append, List.takeWhile_append_dropWhile, List.reverse_reverse]
    -- A placeholder would have to end with a blank.
    have hApart : ¬ Straddles (trimEnd cs) (cs.reverse.takeWhile isBlank).reverse := by
      rintro ⟨-, -, name', behind, -, hBehind, -⟩
      have hClose : isBlank '\x7d' = true :=
        hBlank _ (by rw [hBehind]; exact List.mem_append_right _ List.mem_cons_self)
      exact absurd hClose (by decide)
    have hJoined := names_append hApart
    rwa [hSplit, names_of_not_mem (open_not_mem_of_blank hBlank), List.append_nil] at hJoined
  rw [trim, ← hEnd, ← hStart]

end Piece

-- ---------------------------------------------------------------------------
-- Runs of plain text
-- ---------------------------------------------------------------------------

open Piece

/-- What is found in each segment is found in all of them joined, in the same order. -/
theorem Segment.sublist_names_text (segments : List Segment) :
    (segments.flatMap fun segment => names segment.text).Sublist
      (names (segments.flatMap text)) := by
  induction segments with
  | nil => exact List.nil_sublist _
  | cons segment segments ih =>
    rw [List.flatMap_cons, List.flatMap_cons]
    exact ((List.Sublist.refl _).append ih).trans (sublist_names_append _ _)

/-- No run of plain text that a directive follows ends like the beginning of a placeholder. -/
def Segment.NoneLeftOpen (segments : List Segment) : Prop :=
  ∀ before text d after, segments = before ++ plain text :: directive d :: after → ¬ LeftOpen text

theorem Segment.NoneLeftOpen.tail {segment : Segment} {segments : List Segment}
    (hClosed : NoneLeftOpen (segment :: segments)) : NoneLeftOpen segments := by
  intro before text d after hSegments
  exact hClosed (segment :: before) text d after (by rw [hSegments, List.cons_append])

/-- The runs of plain text have all placeholders of the joined text if none of them is left
open. -/
theorem Tokens.names_text {cs : List Char} {segments : List Segment} (hTokens : Tokens cs segments)
    (hClosed : Segment.NoneLeftOpen segments) :
    (segments.flatMap fun segment => names segment.text) =
      names (segments.flatMap Segment.text) := by
  induction hTokens with
  | nil => exact names_nil.symm
  | directive _ _ ih =>
    rw [List.flatMap_cons, List.flatMap_cons, ih hClosed.tail]
    show names [] ++ _ = names ([] ++ _)
    rw [names_nil, List.nil_append, List.nil_append]
  | @plain text rest segments _ _ hWhole _ ih =>
    rw [List.flatMap_cons, List.flatMap_cons, ih hClosed.tail]
    show names text ++ _ = names (text ++ _)
    cases segments with
    | nil => rw [List.flatMap_nil, names_nil, List.append_nil, List.append_nil]
    | cons segment after =>
      cases segment with
      | plain text' => exact absurd rfl (hWhole text')
      | directive d =>
        have hText : ¬ LeftOpen text := hClosed [] text d after rfl
        exact (names_append fun hStraddles => hText hStraddles.leftOpen).symm

-- ---------------------------------------------------------------------------
-- Holes
-- ---------------------------------------------------------------------------

/-- The names of the holes, from left to right. -/
def Cut.names (cut : Cut) : List String := cut.holes.map fun hole => String.ofList hole.1

theorem Cut.names_ofPieces (pieces : List Piece) :
    (Cut.ofPieces pieces).names = (pieces.filterMap Piece.name?).map String.ofList := by
  induction pieces with
  | nil => rfl
  | cons piece pieces ih =>
    cases piece with
    | plain c => exact ih
    | placeholder name => exact congrArg (String.ofList name :: ·) ih

/--
**The check reports names that play looks up.** Let a template be carried out and
its text be cut at all placeholders; interpolation, under any variables, looks up
the names of that cut's holes and fills them. The placeholders that the check
collects are among these names, in the same order; and they are all of them
unless a run of plain text in front of a directive ends with an opening brace
and nothing but characters of names behind it.
-/
theorem Template.reports_names_looked_up (template : String) (vars : Vars) :
    ∃ cut : Cut, cut.Of (apply template vars).1 ∧
      (∀ cut' : Cut, cut'.Of (apply template vars).1 → cut' = cut) ∧
      (∀ vars' : Vars, interpolate vars' (apply template vars).1 = cut.filled fun name =>
        match vars'[String.ofList name]? with
        | some v => v.display.toList
        | none => '\x7b' :: (name ++ ['\x7d'])) ∧
      (placeholders template).Sublist cut.names ∧
      (Segment.NoneLeftOpen (segments template) → placeholders template = cut.names) := by
  have hText : (apply template vars).1 = stripped template := congrArg Prod.fst (apply_eq _ _)
  rw [hText]
  have hOf := Cut.of_ofPieces (stripped template)
  have hNames : (Cut.ofPieces (Piece.all (stripped template))).names =
      Piece.names ((segments template).flatMap Segment.text) := by
    rw [Cut.names_ofPieces, ← Piece.names_trim]
    rfl
  refine ⟨_, hOf, fun cut' hOf' => Cut.eq_of_of hOf' hOf, ?_, ?_, ?_⟩
  · intro vars'
    exact (Cut.filled_ofPieces (fun _ => rfl) _).symm
  · rw [hNames]
    exact Segment.sublist_names_text _
  · intro hClosed
    rw [hNames]
    exact (segments_eq_iff.mp rfl).names_text hClosed

-- A directive inside a placeholder hides it from the check and not from play.
example : Template.placeholders "\x7ba\x7bset x = 1\x7db\x7d" = [] ∧
    Piece.names (Template.stripped "\x7ba\x7bset x = 1\x7db\x7d") = ["ab"] := by
  decide +kernel

end Gamebook
