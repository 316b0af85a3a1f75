import Gamebook.Player.Selection
import Gamebook.Proofs.Numerals
import Gamebook.Proofs.ScannedPlaceholders

/-!
# Gamebook — scanners cut between characters

Scanners work with offsets in bytes, on texts whose characters take one to four of
them. An offset comes from another one by adding the length of a run of bytes, the
offset of a character in what has been cut off, the bytes of a directive, or one
for a brace, an equals sign or the mark of an exponent. It would not be a border if
a run could end inside a character, or if what is skipped by one took more bytes.
Neither can happen: the runs are of ASCII bytes, and what is skipped by one has been
seen to be an ASCII character.

* `isNumeral`, `selection` — the scans of a number and of a selection.
* `finds_isNumeral`, `finds_selection` — they compute borders only and find what is
  found without offsets.
* `cuts_between_characters` — so do all scanners, and their loops end.
-/

namespace Gamebook

open Text

namespace Scan

/-- The text in front of the mark of an exponent, and the text behind it if there is one. -/
def atMark (s : String) : Scan (String × Option String) :=
  match find? Json.isExponentMark s with
  | some i => do
    let mantissa ← cut s 0 i
    let exponent ← cutFrom s (i + 1)
    return (mantissa, some exponent)
  | none => return (s, none)

/-- Whether a text is a number of JSON's grammar. -/
def isNumeral (text : String) : Scan Bool := do
  let cuts ← atMark (String.ofList (Json.scanMinus text.toList).2)
  let mantissa := cutAt (· == '.') cuts.1.toList
  return Json.isDigits mantissa.1 && (mantissa.1 == ['0'] || mantissa.1.head? != some '0') &&
    mantissa.2.all Json.isDigits &&
      cuts.2.all fun exponent => Json.isDigits (Numeral.sign exponent.toList).2

/-- The place, from zero, of the choice that a line selects. -/
def selection (line : String) (count : Nat) : Scan (Except SelectionError Nat) := do
  let line := trimmed line
  if line.isEmpty then return .error .empty
  else do
    let s := String.ofList (dropPlus line.toList)
    let run ← cut s 0 (leading isDigitCode s)
    return match count? (digits run.toList).1 with
      | none => .error (.outOfRange count)
      | some number =>
        if number = 0 || count < number then .error (.outOfRange count) else .ok (number - 1)

theorem utf8Size_of_isExponentMark {c : Char} (hMark : Json.isExponentMark c = true) :
    c.utf8Size = 1 := by
  rcases Json.isExponentMark_iff.mp hMark with rfl | rfl
  · rfl
  · rfl

theorem finds_atMark (cs : List Char) :
    (atMark (String.ofList cs)).Finds (String.ofList (cutAt Json.isExponentMark cs).1,
      (cutAt Json.isExponentMark cs).2.map String.ofList) := by
  have hCases := find?_cases Json.isExponentMark (String.ofList cs)
  rw [String.toList_ofList] at hCases
  rw [atMark]
  rcases hCases with ⟨hNone, hFind⟩ | ⟨before, c, behind, hSplit, hBefore, hMark, hFind⟩
  · rw [hFind, cutAt_of_forall hNone]
    exact finds_pure _
  · have hText : (String.ofList cs).toList = [] ++ (before ++ c :: behind) := by
      rw [String.toList_ofList, hSplit, List.nil_append]
    have hBehind : (String.ofList cs).toList = (before ++ [c]) ++ behind := by
      rw [hText, List.nil_append, List.append_assoc, List.singleton_append]
    have hFrom : byteLength before + 1 = byteLength (before ++ [c]) := by
      rw [byteLength_append, byteLength_singleton, utf8Size_of_isExponentMark hMark]
    have hCut : cutAt Json.isExponentMark cs = (before, some behind) := by
      rw [hSplit, cutAt_append hBefore hMark]
    rw [hFind, hCut]
    exact (finds_cut hText rfl (Nat.zero_add _).symm).bind
      ((finds_cutFrom hBehind hFrom).bind (finds_pure _))

/-- Cutting a number apart computes borders only and decides as without offsets. -/
theorem finds_isNumeral (text : String) : (isNumeral text).Finds (Json.isNumeral text.toList) := by
  rw [isNumeral, Json.isNumeral]
  refine (finds_atMark _).bind ?_
  simp only [String.toList_ofList, Option.all_map]
  exact finds_pure _

theorem digits_takeWhile (cs : List Char) :
    (digits (cs.takeWhile Char.isDigit)).1 = (digits cs).1 := by
  have hSplit : digits cs = ((digits cs).1, (digits cs).2) := rfl
  obtain ⟨hText, hStop⟩ := digits_eq hSplit
  have hRun : cs.takeWhile Char.isDigit = digitChars (digits cs).1 := by
    conv => lhs; rw [hText]
    exact takeWhile_run (fun _ => isDigit_of_mem_digitChars) hStop
  have hDigits : digits (digitChars (digits cs).1 ++ []) = ((digits cs).1, []) :=
    digits_append Numeral.noDigit_nil
  rw [hRun, ← List.append_nil (digitChars _), hDigits]

/-- Reading a selection computes borders only and selects as without offsets. -/
theorem finds_selection (line : String) (count : Nat) :
    (selection line count).Finds (Selection.parse line count) := by
  rw [selection, Selection.parse]
  generalize hLine : trimmed line = trimmedLine
  have hChars : trim line.toList = trimmedLine.toList := by
    rw [← hLine, trimmed, String.toList_ofList]
  have hEmpty : trimmedLine.isEmpty = trimmedLine.toList.isEmpty := by
    rw [String.isEmpty_eq_utf8ByteSize_beq_zero, ← byteLength_toList, Bool.eq_iff_iff, beq_iff_eq,
      byteLength_eq_zero_iff, List.isEmpty_iff]
  simp only [hChars, hEmpty]
  by_cases hNone : trimmedLine.toList.isEmpty
  · rw [if_pos hNone, if_pos hNone]
    exact finds_pure _
  · rw [if_neg hNone, if_neg hNone]
    generalize dropPlus trimmedLine.toList = cs
    have hText : (String.ofList cs).toList = [] ++
        (cs.takeWhile Char.isDigit ++ cs.dropWhile Char.isDigit) := by
      rw [String.toList_ofList, List.nil_append, List.takeWhile_append_dropWhile]
    have hSize : leading isDigitCode (String.ofList cs) =
        0 + byteLength (cs.takeWhile Char.isDigit) := by
      rw [leading_isDigitCode, String.toList_ofList, Nat.zero_add]
    refine (finds_cut hText rfl hSize).bind ?_
    rw [String.toList_ofList, digits_takeWhile]
    exact finds_pure _

/--
**The scanners cut between characters, and end.** Whatever the text, the scans
for a directive at its start, for the segments and the placeholders of a
template, for the placeholders to put values in, for the parts of a number and
for the digits of a selection compute no offset that is past the end of a text or
inside a character, make every cut, and find what is found without offsets. And
the cursor of each loop rises in every round that goes on, whatever the state.
-/
theorem cuts_between_characters :
    (∀ (s : String) (i : Nat), IsBorder s i ↔
      i = s.utf8ByteSize ∨ ∃ b, (bytes s)[i]? = some b ∧ b.IsUTF8FirstByte) ∧
    (∀ s : String, (directive? s).Finds ((Directive.read? s.toList).map fun p => Found.of p.1)) ∧
    (∀ template : String,
      (segments template).Finds ((Template.segments template).map Part.of)) ∧
    (∀ (value? : String → Option Value) (text : String), (interpolate value? text).Finds
      (String.ofList ((Piece.all text.toList).flatMap (put value?)))) ∧
    (∀ (vars : Vars) (text : String), (interpolate (fun name => vars[name]?) text).Finds
      (String.ofList (Gamebook.interpolate vars text.toList))) ∧
    (∀ template : String, (placeholders template).Finds (Template.placeholders template)) ∧
    (∀ text : String, (isNumeral text).Finds (Json.isNumeral text.toList)) ∧
    (∀ (line : String) (count : Nat),
      (selection line count).Finds (Selection.parse line count)) ∧
    (∀ template : String, Rises Sweep.cursor (sweep template)) ∧
    (∀ (value? : String → Option Value) (text : String),
      Rises Walk.cursor (walk (filler value? text) text)) ∧
    ∀ text : String, Rises Walk.cursor (walk (collector text) text) := by
  refine ⟨fun _ _ => isBorder_iff_firstByte, finds_directive, finds_segments, finds_interpolate,
    ?_, finds_placeholders, finds_isNumeral, finds_selection, rises_sweep,
    fun _ _ => rises_walk _ _, fun _ => rises_walk _ _⟩
  intro vars text
  have hFill : put (fun name => vars[name]?) = Piece.fill vars := by
    funext piece
    cases piece with
    | plain c => rfl
    | placeholder name => rfl
  have hFound := finds_interpolate (fun name => vars[name]?) text
  rw [hFill] at hFound
  exact hFound

-- The blanks take three bytes each, and no value is left behind the last one.
example : ((directive? "\x7bset\u3000x =\u3000\u3000\x7d").result.map fun found =>
    found.map fun d => (d.name, d.value, d.size)) = some (some ("x", "\u3000", 17)) := by
  decide +kernel

example : (cut "\u3000" 0 1).result = none := by decide +kernel

end Scan

end Gamebook
