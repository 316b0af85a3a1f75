import Gamebook.Proofs.Placeholders

/-!
# Gamebook — values are put in all at once

Putting in values one placeholder after the other could go wrong where a value
has braces itself, or where two placeholders share one. Neither happens. The
placeholders of a text never overlap, so there is one way only to cut the text
at all of them. Interpolation fills the holes of that cut and leaves the text
between them alone; nothing that was put in is looked at again.

* `Piece.Stands` — a placeholder stands at a place of a text.
* `Piece.apart_of_stands` — two placeholders do not overlap.
* `Cut` — a text with holes; `Cut.Of` — the holes are all placeholders of a text.
* `Cut.of_ofPieces`, `Cut.eq_of_of` — every text has such a cut, and only one.
* `interpolate_fills_cut` — interpolation fills its holes.
-/

namespace Gamebook

open Text

-- ---------------------------------------------------------------------------
-- Where placeholders stand
-- ---------------------------------------------------------------------------

namespace Piece

variable {cs name name' before before' behind behind' : List Char}

/-- The placeholder of that name stands in the text, between the two parts around it. -/
structure Stands (cs before name behind : List Char) : Prop where
  isName : IsName name
  text_eq : cs = before ++ ((placeholder name).source ++ behind)

/-- A placeholder ends in front of one that begins behind its opening brace. -/
theorem apart_of_stands (hFirst : Stands cs before name behind)
    (hSecond : Stands cs before' name' behind') (hLess : before.length < before'.length) :
    before.length + (placeholder name).source.length ≤ before'.length := by
  have hText := hFirst.text_eq.symm.trans hSecond.text_eq
  have hSplit : ∃ gap, before' = before ++ gap ∧
      (placeholder name).source ++ behind = gap ++ ((placeholder name').source ++ behind') := by
    rcases List.append_eq_append_iff.mp hText with ⟨gap, hGap, hBehind⟩ | ⟨gap, hGap, -⟩
    · exact ⟨gap, hGap, hBehind⟩
    · rw [hGap, List.length_append] at hLess
      omega
  obtain ⟨gap, rfl, hBehind⟩ := hSplit
  rcases List.append_eq_append_iff.mp hBehind with ⟨extra, rfl, -⟩ | ⟨extra, hSource, hExtra⟩
  · rw [List.length_append, List.length_append]
    omega
  · -- If the first one reached into the second, it would have its opening brace inside.
    cases extra with
    | nil =>
      have hLength : (before ++ gap).length = before.length + (placeholder name).source.length := by
        rw [hSource, List.append_nil, List.length_append]
      exact Nat.le_of_eq hLength.symm
    | cons c extra =>
      have hOpen : c = '\x7b' := by
        rw [source, List.cons_append, List.cons_append] at hExtra
        exact (List.cons.inj hExtra).1.symm
      cases gap with
      | nil =>
        rw [List.append_nil] at hLess
        omega
      | cons c' gap =>
        rw [source, List.cons_append, List.cons.injEq] at hSource
        have hMem : '\x7b' ∈ name ++ ['\x7d'] := by
          rw [hSource.2, hOpen]
          exact List.mem_append_right _ List.mem_cons_self
        exact absurd hMem hFirst.isName.open_not_mem

/-- A placeholder stands where the pieces of the text have it. -/
theorem stands_iff : Stands cs before name behind ↔ ∃ ps qs,
    all cs = ps ++ placeholder name :: qs ∧ before = ps.flatMap source ∧
      behind = qs.flatMap source := by
  constructor
  · rintro ⟨hName, rfl⟩
    exact ⟨all before, all behind, all_placeholder hName before behind,
      (flatMap_source_all before).symm, (flatMap_source_all behind).symm⟩
  · rintro ⟨ps, qs, hAll, rfl, rfl⟩
    have hMem : placeholder name ∈ all cs := by
      rw [hAll]
      exact List.mem_append_right _ List.mem_cons_self
    refine ⟨isName_of_mem_all hMem, ?_⟩
    rw [← flatMap_source_all cs, hAll, List.flatMap_append, List.flatMap_cons]

end Piece

-- ---------------------------------------------------------------------------
-- Texts with holes
-- ---------------------------------------------------------------------------

open Piece

/-- A text with holes: what stands in front of the first hole, and each hole's name with what
stands behind it up to the next one. -/
structure Cut where
  front : List Char
  holes : List (List Char × List Char)

namespace Cut

variable {cs front between before behind name name' : List Char}
  {holes : List (List Char × List Char)} {cut cut' : Cut}

/-- The text with something put into each hole. -/
def filled (put : List Char → List Char) (cut : Cut) : List Char :=
  cut.front ++ cut.holes.flatMap fun hole => put hole.1 ++ hole.2

/-- The text that was cut: each hole holds the placeholder of its name. -/
def text (cut : Cut) : List Char := cut.filled fun name => (placeholder name).source

/-- The cut has a hole of that name, between the two parts of the text around it. -/
def HasHole (cut : Cut) (before name behind : List Char) : Prop :=
  ∃ earlier between later, cut.holes = earlier ++ (name, between) :: later ∧
    before = (Cut.mk cut.front earlier).text ∧ behind = (Cut.mk between later).text

/-- The cut of a text at its placeholders, at all of them and nowhere else. -/
structure Of (cut : Cut) (cs : List Char) : Prop where
  text_eq : cut.text = cs
  hasHole_iff : ∀ before name behind,
    cut.HasHole before name behind ↔ Stands cs before name behind

theorem text_cons (front name between : List Char) (holes : List (List Char × List Char)) :
    text ⟨front, (name, between) :: holes⟩ =
      front ++ ((placeholder name).source ++ text ⟨between, holes⟩) := by
  rw [text, filled, List.flatMap_cons, List.append_assoc]
  rfl

theorem not_hasHole_nil : ¬ HasHole ⟨front, []⟩ before name behind := by
  rintro ⟨earlier, between, later, hHoles, -, -⟩
  exact List.append_ne_nil_of_right_ne_nil _ (List.cons_ne_nil _ _) hHoles.symm

/-- A hole is the first one, or it is a hole of the text behind the first one. -/
theorem hasHole_cons_iff : HasHole ⟨front, (name', between) :: holes⟩ before name behind ↔
    (before = front ∧ name = name' ∧ behind = text ⟨between, holes⟩) ∨
    ∃ before', before = front ++ ((placeholder name').source ++ before') ∧
      HasHole ⟨between, holes⟩ before' name behind := by
  constructor
  · rintro ⟨earlier, between', later, hHoles, rfl, rfl⟩
    cases earlier with
    | nil =>
      cases hHoles
      exact Or.inl ⟨List.append_nil _, rfl, rfl⟩
    | cons hole earlier =>
      cases hHoles
      exact Or.inr ⟨_, text_cons _ _ _ _, earlier, between', later, rfl, rfl, rfl⟩
  · rintro (⟨rfl, rfl, rfl⟩ | ⟨before', rfl, earlier, between', later, hHoles, rfl, rfl⟩)
    · exact ⟨[], between, holes, rfl, (List.append_nil _).symm, rfl⟩
    · have hHoles' : holes = earlier ++ (name, between') :: later := hHoles
      refine ⟨(name', between) :: earlier, between', later, ?_, (text_cons _ _ _ _).symm, rfl⟩
      rw [hHoles', List.cons_append]

theorem hasHole_first : HasHole ⟨front, (name, between) :: holes⟩ front name
    (text ⟨between, holes⟩) :=
  hasHole_cons_iff.mpr (Or.inl ⟨rfl, rfl, rfl⟩)

/-- No hole lies in front of the first one. -/
theorem length_front_le (hHole : cut.HasHole before name behind) :
    cut.front.length ≤ before.length := by
  obtain ⟨earlier, -, -, -, rfl, -⟩ := hHole
  rw [text, filled, List.length_append]
  exact Nat.le_add_right _ _

-- ---------------------------------------------------------------------------
-- One cut for each text
-- ---------------------------------------------------------------------------

/-- The holes behind the first one, seen from there. -/
theorem hasHole_tail_iff : HasHole ⟨between, holes⟩ before name behind ↔
    HasHole ⟨front, (name', between) :: holes⟩ (front ++ ((placeholder name').source ++ before))
      name behind := by
  rw [hasHole_cons_iff]
  constructor
  · intro hHole
    exact Or.inr ⟨before, rfl, hHole⟩
  · rintro (⟨hFront, -, -⟩ | ⟨before', hBefore, hHole⟩)
    · -- Behind the first hole there is no way back to its place.
      have hLength := congrArg List.length hFront
      simp only [List.length_append, source, List.length_cons] at hLength
      omega
    · rw [List.append_cancel_left_eq, List.append_cancel_left_eq] at hBefore
      rwa [hBefore]

/-- The places of the holes determine the cut. -/
theorem eq_of_hasHole_iff (hText : cut.text = cut'.text)
    (hHoles : ∀ before name behind,
      cut.HasHole before name behind ↔ cut'.HasHole before name behind) : cut = cut' := by
  obtain ⟨front, holes⟩ := cut
  obtain ⟨front', holes'⟩ := cut'
  induction holes generalizing front front' holes' with
  | nil =>
    cases holes' with
    | nil =>
      rw [text, text, filled, filled, List.flatMap_nil, List.append_nil, List.append_nil] at hText
      exact congrArg (Cut.mk · []) hText
    | cons hole' holes' => exact absurd ((hHoles _ _ _).mpr hasHole_first) not_hasHole_nil
  | cons hole holes ih =>
    obtain ⟨name, between⟩ := hole
    cases holes' with
    | nil => exact absurd ((hHoles _ _ _).mp hasHole_first) not_hasHole_nil
    | cons hole' holes' =>
      obtain ⟨name', between'⟩ := hole'
      -- Each first hole is a hole of the other cut, so neither lies in front of the other.
      have hFirst := (hHoles _ _ _).mp hasHole_first
      have hFirst' := (hHoles _ _ _).mpr hasHole_first
      have hSame : front.length = front'.length :=
        Nat.le_antisymm (length_front_le hFirst') (length_front_le hFirst)
      rcases hasHole_cons_iff.mp hFirst with ⟨rfl, rfl, hBehind⟩ | ⟨before, hFront, -⟩
      · have hRest := ih between between' holes' hBehind fun before name behind => by
          rw [hasHole_tail_iff, hHoles, ← hasHole_tail_iff]
        cases hRest
        rfl
      · rw [hFront, List.length_append, source, List.length_append, List.length_cons] at hSame
        omega

theorem eq_of_of (hCut : cut.Of cs) (hCut' : cut'.Of cs) : cut = cut' := by
  refine eq_of_hasHole_iff (hCut.text_eq.trans hCut'.text_eq.symm) fun before name behind => ?_
  rw [hCut.hasHole_iff, hCut'.hasHole_iff]

-- ---------------------------------------------------------------------------
-- The cut that is made
-- ---------------------------------------------------------------------------

/-- Pieces as a text with holes. -/
def ofPieces : List Piece → Cut
  | [] => ⟨[], []⟩
  | .plain c :: pieces => ⟨c :: (ofPieces pieces).front, (ofPieces pieces).holes⟩
  | .placeholder name :: pieces => ⟨[], (name, (ofPieces pieces).front) :: (ofPieces pieces).holes⟩

/-- Filling the holes is replacing the placeholders among the pieces. -/
theorem filled_ofPieces {put : Piece → List Char} (hPlain : ∀ c, put (.plain c) = [c])
    (pieces : List Piece) :
    (ofPieces pieces).filled (fun name => put (.placeholder name)) = pieces.flatMap put := by
  induction pieces with
  | nil => rfl
  | cons piece pieces ih =>
    rw [List.flatMap_cons, ← ih]
    cases piece with
    | plain c =>
      rw [hPlain]
      rfl
    | placeholder name =>
      rw [ofPieces, filled, List.nil_append, List.flatMap_cons, List.append_assoc]
      rfl

theorem text_ofPieces (pieces : List Piece) : (ofPieces pieces).text = pieces.flatMap source :=
  filled_ofPieces (fun _ => rfl) pieces

/-- A plain character in front moves the holes on by one place. -/
theorem hasHole_front_cons_iff {c : Char} : HasHole ⟨c :: front, holes⟩ before name behind ↔
    ∃ before', before = c :: before' ∧ HasHole ⟨front, holes⟩ before' name behind := by
  constructor
  · rintro ⟨earlier, between, later, hHoles, rfl, rfl⟩
    exact ⟨_, rfl, earlier, between, later, hHoles, rfl, rfl⟩
  · rintro ⟨_, rfl, earlier, between, later, hHoles, rfl, rfl⟩
    exact ⟨earlier, between, later, hHoles, rfl, rfl⟩

/-- The holes are where the placeholders are. -/
theorem hasHole_ofPieces_iff {pieces : List Piece} :
    (ofPieces pieces).HasHole before name behind ↔ ∃ ps qs,
      pieces = ps ++ placeholder name :: qs ∧ before = ps.flatMap source ∧
        behind = qs.flatMap source := by
  induction pieces generalizing before with
  | nil =>
    constructor
    · intro hHole
      exact absurd hHole not_hasHole_nil
    · rintro ⟨ps, qs, hPieces, -⟩
      exact absurd hPieces.symm (List.append_ne_nil_of_right_ne_nil _ (List.cons_ne_nil _ _))
  | cons piece pieces ih =>
    simp only [List.cons_eq_append_iff]
    cases piece with
    | plain c =>
      rw [ofPieces, hasHole_front_cons_iff]
      constructor
      · rintro ⟨before', rfl, hHole⟩
        obtain ⟨ps, qs, hPieces, rfl, rfl⟩ := ih.mp hHole
        exact ⟨.plain c :: ps, qs, Or.inr ⟨ps, rfl, hPieces⟩, rfl, rfl⟩
      · rintro ⟨_, qs, ⟨rfl, hPlain⟩ | ⟨ps, rfl, hPieces⟩, rfl, rfl⟩
        · cases hPlain
        · exact ⟨_, rfl, ih.mpr ⟨ps, qs, hPieces, rfl, rfl⟩⟩
    | placeholder name' =>
      rw [ofPieces, hasHole_cons_iff]
      constructor
      · rintro (⟨rfl, rfl, rfl⟩ | ⟨before', rfl, hHole⟩)
        · exact ⟨[], pieces, Or.inl ⟨rfl, rfl⟩, rfl, text_ofPieces pieces⟩
        · obtain ⟨ps, qs, hPieces, rfl, rfl⟩ := ih.mp hHole
          exact ⟨.placeholder name' :: ps, qs, Or.inr ⟨ps, rfl, hPieces⟩, rfl, rfl⟩
      · rintro ⟨_, qs, ⟨rfl, hHere⟩ | ⟨ps, rfl, hPieces⟩, rfl, rfl⟩
        · cases hHere
          exact Or.inl ⟨rfl, rfl, (text_ofPieces pieces).symm⟩
        · exact Or.inr ⟨_, rfl, ih.mpr ⟨ps, qs, hPieces, rfl, rfl⟩⟩

theorem of_ofPieces (cs : List Char) : (ofPieces (all cs)).Of cs where
  text_eq := by rw [text_ofPieces, flatMap_source_all]
  hasHole_iff := fun _ _ _ => hasHole_ofPieces_iff.trans stands_iff.symm

end Cut

/--
**Interpolation fills the holes of one cut.** Every text is cut at all of its
placeholders, in one way only, and no two of them overlap. Under any variables
the result is that cut with its holes filled: where the variable of a hole is
defined, its value is put in as it is displayed, and otherwise the placeholder
stays. The text between the holes is left as it was, and what is put into one
hole has no part in any other.
-/
theorem interpolate_fills_cut (cs : List Char) :
    ∃ cut : Cut, cut.Of cs ∧ (∀ cut' : Cut, cut'.Of cs → cut' = cut) ∧
      (∀ before name behind before' name' behind', Stands cs before name behind →
        Stands cs before' name' behind' → before.length < before'.length →
        before.length + (placeholder name).source.length ≤ before'.length) ∧
      ∀ vars : Vars, interpolate vars cs = cut.filled fun name =>
        match vars[String.ofList name]? with
        | some v => v.display.toList
        | none => '\x7b' :: (name ++ ['\x7d']) := by
  have hOf := Cut.of_ofPieces cs
  refine ⟨Cut.ofPieces (all cs), hOf, fun cut' hOf' => Cut.eq_of_of hOf' hOf, ?_, ?_⟩
  · intro before name behind before' name' behind' hFirst hSecond hLess
    exact apart_of_stands hFirst hSecond hLess
  · intro vars
    exact (Cut.filled_ofPieces (fun _ => rfl) (all cs)).symm

-- A value that looks like a placeholder is not taken for one, and lone braces stay.
example : interpolate
    (Std.ExtTreeMap.ofList [("a", Value.text "\x7bb\x7d"), ("b", Value.bool true)])
    "\x7b\x7ba\x7d, \x7ba\x7bb\x7d\x7d \x7b b \x7d \x7bc\x7d \x7b".toList =
      "\x7b\x7bb\x7d, \x7batrue\x7d \x7b b \x7d \x7bc\x7d \x7b".toList := by
  decide +kernel

end Gamebook
