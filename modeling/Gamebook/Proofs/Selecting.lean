import Gamebook.Player.Render
import Gamebook.Player.Selection
import Gamebook.Proofs.Choices
import Gamebook.Proofs.Comparisons
import Gamebook.Proofs.WrittenJson

/-!
# Gamebook — the numbers that players type

A scene is shown with its choices numbered from one, and a line of input selects
a choice by the number that it begins with. Numbers have 64 bits and are added up
digit by digit, so a long run of digits could come round to a number that is
shown; leading zeros, signs and digits of other scripts could be taken for parts
of a number. None of that happens. A line selects a choice exactly if it begins
with an unbounded decimal number from one to the number of choices, and what is
printed in front of a choice selects it.

* `Text.count?_eq_some_iff` — adding up in 64 bits is exact or fails.
* `Selection.BeginsWith` — the lines that begin with a number.
* `Selection.parse_eq_ok_iff`, `Selection.parse_cases` — what a line selects.
* `View.scene_eq` — a scene around one of its choices.
* `Selection.parse_printed` — a number as it is printed, in a line of input.
* `Selection.reads_printed_numbers` — both together.
-/

namespace Gamebook

open Text
open Condition (AllBlank)

-- ---------------------------------------------------------------------------
-- Counts of 64 bits
-- ---------------------------------------------------------------------------

namespace Text

variable {ds : List (Fin 10)}

/-- Digits are added up exactly, unless the result does not fit. -/
theorem foldlM_pushDigit? {n : Nat} (hFits : n < Nat.pow 2 64) (ds : List (Fin 10)) :
    ds.foldlM pushDigit? n =
      if ds.foldl (fun n d => 10 * n + d.val) n < Nat.pow 2 64 then
        some (ds.foldl (fun n d => 10 * n + d.val) n)
      else none := by
  induction ds generalizing n with
  | nil => exact (if_pos hFits).symm
  | cons d ds ih =>
    rw [List.foldlM_cons, pushDigit?, List.foldl_cons]
    by_cases hNext : 10 * n + d.val < Nat.pow 2 64
    · rw [if_pos hNext]
      exact ih hNext
    · -- What has stopped fitting does not fit again.
      have hGrown := le_foldl_digits (10 * n + d.val) ds
      have hEnd : ¬ ds.foldl (fun n d => 10 * n + d.val) (10 * n + d.val) < Nat.pow 2 64 := by
        omega
      rw [if_neg hNext, if_neg hEnd]
      rfl

/-- A run of digits is the count of 64 bits that it writes, if it writes one. -/
theorem count?_eq_some_iff {k : Nat} : count? ds = some k ↔
    ds ≠ [] ∧ digitsValue ds = k ∧ k < Nat.pow 2 64 := by
  have hZero : 0 < Nat.pow 2 64 := natPow_two_pos 64
  rw [count?]
  split
  · rename_i hEmpty
    simp [List.isEmpty_iff.mp hEmpty]
  · rename_i hNonempty
    have hDigits : ds ≠ [] := fun hNil => hNonempty (List.isEmpty_iff.mpr hNil)
    rw [foldlM_pushDigit? hZero]
    show (if digitsValue ds < _ then some (digitsValue ds) else none) = some k ↔ _
    split
    · rename_i hFits
      simp only [Option.some.injEq, ne_eq, hDigits, not_false_eq_true, true_and]
      exact ⟨fun hValue => ⟨hValue, hValue ▸ hFits⟩, And.left⟩
    · rename_i hLarge
      simp only [reduceCtorEq, false_iff, not_and]
      rintro - rfl
      exact hLarge

end Text

-- ---------------------------------------------------------------------------
-- The lines that begin with a number
-- ---------------------------------------------------------------------------

namespace Selection

variable {t : List Char} {line : String} {count index k : Nat}

/-- The text begins with a number: one plus or none, and a run of digits that no further digit
follows. -/
def BeginsWith (t : List Char) (k : Nat) : Prop :=
  ∃ plus ds rest, (plus = [] ∨ plus = ['+']) ∧ ds ≠ [] ∧ NoDigit rest ∧
    t = plus ++ (digitChars ds ++ rest) ∧ digitsValue ds = k

theorem exists_plus (t : List Char) : ∃ plus, (plus = [] ∨ plus = ['+']) ∧
    t = plus ++ dropPlus t := by
  unfold dropPlus
  split
  · exact ⟨['+'], Or.inr rfl, rfl⟩
  · exact ⟨[], Or.inl rfl, rfl⟩

/-- A plus is dropped, and no digit is taken for one. -/
theorem dropPlus_append {plus rest : List Char} {ds : List (Fin 10)}
    (hPlus : plus = [] ∨ plus = ['+']) (hDigits : ds ≠ []) :
    dropPlus (plus ++ (digitChars ds ++ rest)) = digitChars ds ++ rest := by
  obtain ⟨d, ds, rfl⟩ := List.exists_cons_of_ne_nil hDigits
  rcases hPlus with rfl | rfl
  · have hFirst : Nat.digitChar d ≠ '+' := ne_of_isDigit (isDigit_digitChar d) rfl
    show dropPlus (Nat.digitChar d :: (digitChars ds ++ rest)) = _
    unfold dropPlus
    split
    · rename_i hCons
      exact absurd (List.cons.inj hCons).1 hFirst
    · rfl
  · rfl

/-- The number is read off the digits behind the plus. -/
theorem beginsWith_iff : BeginsWith t k ↔
    (digits (dropPlus t)).1 ≠ [] ∧ digitsValue (digits (dropPlus t)).1 = k := by
  constructor
  · rintro ⟨plus, ds, rest, hPlus, hDigits, hStop, rfl, hValue⟩
    rw [dropPlus_append hPlus hDigits, digits_append hStop]
    exact ⟨hDigits, hValue⟩
  · rintro ⟨hDigits, hValue⟩
    obtain ⟨plus, hPlus, hText⟩ := exists_plus t
    have hRead : digits (dropPlus t) = ((digits (dropPlus t)).1, (digits (dropPlus t)).2) := rfl
    obtain ⟨hRun, hStop⟩ := digits_eq hRead
    exact ⟨plus, _, _, hPlus, hDigits, hStop, hText.trans (congrArg (plus ++ ·) hRun), hValue⟩

/-- A text begins with one number at most. -/
theorem BeginsWith.unique {k' : Nat} (hText : BeginsWith t k) (hOther : BeginsWith t k') :
    k = k' :=
  (beginsWith_iff.mp hText).2.symm.trans (beginsWith_iff.mp hOther).2

theorem BeginsWith.ne_nil (hText : BeginsWith t k) : t ≠ [] := by
  rintro rfl
  exact (beginsWith_iff.mp hText).1 rfl

/-- A text that begins with a number begins with a digit, or with a plus and a digit. -/
theorem BeginsWith.exists_first (hText : BeginsWith t k) : ∃ c rest, c.isDigit = true ∧
    (t = c :: rest ∨ t = '+' :: c :: rest) := by
  obtain ⟨plus, ds, rest, hPlus, hDigits, -, rfl, -⟩ := hText
  obtain ⟨d, ds, rfl⟩ := List.exists_cons_of_ne_nil hDigits
  refine ⟨Nat.digitChar d, digitChars ds ++ rest, isDigit_digitChar d, ?_⟩
  rcases hPlus with rfl | rfl
  · exact Or.inl rfl
  · exact Or.inr rfl

/-- A text that begins with neither a digit nor a plus does not begin with a number. -/
theorem not_beginsWith_of_first {c : Char} {rest : List Char} (hNoDigit : c.isDigit = false)
    (hNoPlus : c ≠ '+') : ¬ BeginsWith (c :: rest) k := by
  intro hNumber
  obtain ⟨d, behind, hDigit, hFirst⟩ := hNumber.exists_first
  rw [List.cons.injEq, List.cons.injEq] at hFirst
  rcases hFirst with ⟨rfl, -⟩ | ⟨rfl, -⟩
  · rw [hNoDigit] at hDigit
    cases hDigit
  · exact hNoPlus rfl

/-- Nor does a plus begin a number without a digit right behind it. -/
theorem not_beginsWith_of_plus {rest : List Char} (hStop : NoDigit rest) :
    ¬ BeginsWith ('+' :: rest) k := by
  intro hNumber
  obtain ⟨hDigits, -⟩ := beginsWith_iff.mp hNumber
  have hNone : digits (digitChars [] ++ rest) = ([], rest) := digits_append hStop
  rw [dropPlus, show digits rest = ([], rest) from hNone] at hDigits
  exact hDigits rfl

-- ---------------------------------------------------------------------------
-- What a line selects
-- ---------------------------------------------------------------------------

/-- Whatever the count is, a line selects a place below it or is refused with it. -/
theorem parse_within (line : String) (count : Nat) :
    (∃ index < count, parse line count = .ok index) ∨ parse line count = .error .empty ∨
      parse line count = .error (.outOfRange count) := by
  unfold parse
  simp only
  split
  · exact Or.inr (Or.inl rfl)
  · split
    · exact Or.inr (Or.inr rfl)
    · rename_i number hNumber
      split
      · exact Or.inr (Or.inr rfl)
      · rename_i hRange
        simp only [Bool.or_eq_true, decide_eq_true_eq, not_or] at hRange
        exact Or.inl ⟨number - 1, by omega, rfl⟩

/-- An empty line, a line without a number that can be chosen, and a line with one. -/
theorem parse_cases (hCount : count < Nat.pow 2 64) (line : String) :
    (trim line.toList = [] ∧ parse line count = .error .empty) ∨
    (trim line.toList ≠ [] ∧ (∀ k, BeginsWith (trim line.toList) k → ¬ (1 ≤ k ∧ k ≤ count)) ∧
      parse line count = .error (.outOfRange count)) ∨
    ∃ k, BeginsWith (trim line.toList) k ∧ 1 ≤ k ∧ k ≤ count ∧ parse line count = .ok (k - 1) := by
  unfold parse
  cases hEmpty : (trim line.toList).isEmpty with
  | true => exact Or.inl ⟨List.isEmpty_iff.mp hEmpty, if_pos hEmpty⟩
  | false =>
    have hNonempty : trim line.toList ≠ [] := List.isEmpty_eq_false_iff.mp hEmpty
    simp only [hEmpty, Bool.false_eq_true, if_false]
    refine Or.inr ?_
    cases hRead : count? (digits (dropPlus (trim line.toList))).1 with
    | none =>
      refine Or.inl ⟨hNonempty, fun k hText hRange => ?_, rfl⟩
      -- A number that can be chosen fits 64 bits, so it would have been read.
      obtain ⟨hDigits, hValue⟩ := beginsWith_iff.mp hText
      have hSome := count?_eq_some_iff.mpr ⟨hDigits, hValue, Nat.lt_of_le_of_lt hRange.2 hCount⟩
      rw [hRead] at hSome
      cases hSome
    | some number =>
      obtain ⟨hDigits, hValue, -⟩ := count?_eq_some_iff.mp hRead
      have hNumber : BeginsWith (trim line.toList) number := beginsWith_iff.mpr ⟨hDigits, hValue⟩
      by_cases hRange : 1 ≤ number ∧ number ≤ count
      · have hChosen : (number = 0 || count < number : Bool) = false := by
          simp only [Bool.or_eq_false_iff, decide_eq_false_iff_not]
          omega
        exact Or.inr ⟨number, hNumber, hRange.1, hRange.2, by simp only [hChosen]; rfl⟩
      · have hRefused : (number = 0 || count < number : Bool) = true := by
          simp only [Bool.or_eq_true, decide_eq_true_eq]
          omega
        refine Or.inl ⟨hNonempty, fun k hText => ?_, by simp only [hRefused]; rfl⟩
        rw [hText.unique hNumber]
        exact hRange

/-- The lines that select a choice, with the choices that they select. -/
theorem parse_eq_ok_iff (hCount : count < Nat.pow 2 64) : parse line count = .ok index ↔
    ∃ k, BeginsWith (trim line.toList) k ∧ 1 ≤ k ∧ k ≤ count ∧ index = k - 1 := by
  rcases parse_cases hCount line with ⟨hEmpty, hParse⟩ | ⟨-, hNone, hParse⟩ |
    ⟨number, hNumber, hLow, hHigh, hParse⟩
  · rw [hParse, hEmpty]
    simp only [reduceCtorEq, false_iff]
    rintro ⟨k, hText, -⟩
    exact hText.ne_nil rfl
  · rw [hParse]
    simp only [reduceCtorEq, false_iff]
    rintro ⟨k, hText, hLow, hHigh, -⟩
    exact hNone k hText ⟨hLow, hHigh⟩
  · rw [hParse, Except.ok.injEq]
    constructor
    · rintro rfl
      exact ⟨number, hNumber, hLow, hHigh, rfl⟩
    · rintro ⟨k, hText, -, -, rfl⟩
      rw [hText.unique hNumber]

theorem parse_eq_empty_iff (hCount : count < Nat.pow 2 64) :
    parse line count = .error .empty ↔ trim line.toList = [] := by
  rcases parse_cases hCount line with ⟨hEmpty, hParse⟩ | ⟨hNonempty, -, hParse⟩ |
    ⟨number, hNumber, -, -, hParse⟩
  · rw [hParse, hEmpty]
    exact ⟨fun _ => rfl, fun _ => rfl⟩
  · rw [hParse]
    simp [hNonempty]
  · rw [hParse]
    simp [hNumber.ne_nil]

theorem parse_eq_outOfRange_iff (hCount : count < Nat.pow 2 64) {max : Nat} :
    parse line count = .error (.outOfRange max) ↔ max = count ∧ trim line.toList ≠ [] ∧
      ∀ k, BeginsWith (trim line.toList) k → ¬ (1 ≤ k ∧ k ≤ count) := by
  rcases parse_cases hCount line with ⟨hEmpty, hParse⟩ | ⟨hNonempty, hNone, hParse⟩ |
    ⟨number, hNumber, hLow, hHigh, hParse⟩
  · rw [hParse, hEmpty]
    simp
  · rw [hParse]
    simp only [Except.error.injEq, SelectionError.outOfRange.injEq]
    exact ⟨fun hMax => ⟨hMax.symm, hNonempty, hNone⟩, fun hMax => hMax.1.symm⟩
  · rw [hParse]
    simp only [reduceCtorEq, false_iff]
    rintro ⟨-, -, hNone⟩
    exact hNone number hNumber ⟨hLow, hHigh⟩

end Selection

-- ---------------------------------------------------------------------------
-- Numbers as they are printed
-- ---------------------------------------------------------------------------

namespace Text

theorem isBlank_of_isDigit {c : Char} (hDigit : c.isDigit = true) : isBlank c = false := by
  obtain ⟨d, rfl⟩ := exists_digitChar hDigit
  revert d
  decide

/-- The text in front of which digits stand is trimmed at its end alone. -/
theorem trim_digits_append {ds : List (Fin 10)} (hDigits : ds ≠ []) (tail : List Char) :
    trim (digitChars ds ++ tail) = digitChars ds ++ trimEnd tail := by
  have hProper : ∀ d : Fin 10, isBlank (Nat.digitChar d) = false :=
    fun d => isBlank_of_isDigit (isDigit_digitChar d)
  obtain ⟨first, behind, hFirst⟩ := List.exists_cons_of_ne_nil hDigits
  have hStart : trimStart (digitChars ds ++ tail) = digitChars ds ++ tail := by
    rw [hFirst]
    exact trimStart_append (hProper first) [] (digitChars behind ++ tail)
  have hEnd : digitChars ds = digitChars ds.dropLast ++ [Nat.digitChar (ds.getLast hDigits)] := by
    conv => lhs; rw [← List.dropLast_concat_getLast hDigits]
    exact List.map_append
  rw [trim, hStart, hEnd, List.append_assoc, List.append_assoc, List.singleton_append,
    List.singleton_append, trimEnd_append (hProper _)]

/-- What is left of a text that is trimmed at its end begins as the text does. -/
theorem noDigit_trimEnd {tail : List Char} (hTail : NoDigit tail) : NoDigit (trimEnd tail) := by
  intro c hHead
  have hPrefix : trimEnd tail <+: tail := by
    have hSuffix : tail.reverse.dropWhile isBlank <:+ tail.reverse := List.dropWhile_suffix _
    rw [← List.reverse_prefix, List.reverse_reverse] at hSuffix
    exact hSuffix
  obtain ⟨behind, hTailEq⟩ := hPrefix
  refine hTail c ?_
  rw [← hTailEq, List.head?_append, hHead]
  rfl

theorem noDigit_append {blanks rest : List Char} (hBlanks : ∀ c ∈ blanks, isBlank c = true)
    (hRest : NoDigit rest) : NoDigit (blanks ++ rest) := by
  intro c hHead
  cases blanks with
  | nil => exact hRest c hHead
  | cons b blanks =>
    cases hHead
    refine Bool.eq_false_iff.mpr fun hDigit => ?_
    have hBlank := hBlanks c List.mem_cons_self
    rw [isBlank_of_isDigit hDigit] at hBlank
    cases hBlank

end Text

namespace Selection

variable {count index : Nat}

/-- The number printed in front of a choice selects the choice, with any blanks around it and
anything behind it that is no further digit. -/
theorem parse_printed (hCount : count < Nat.pow 2 64) (hIndex : index < count)
    {before after rest : String} (hBefore : AllBlank before) (hAfter : AllBlank after)
    (hRest : NoDigit rest.toList) :
    parse (before ++ toString (index + 1) ++ after ++ rest) count = .ok index := by
  have hNumber : (toString (index + 1)).toList = digitChars (digits (decimal (index + 1))).1 := by
    rw [digitChars_decimal]
    exact String.toList_ofList
  have hDigits : (digits (decimal (index + 1))).1 ≠ [] :=
    (Numeral.writtenAs_decimal (index + 1)).whole.ne_nil
  have hStop : NoDigit (trimEnd (after.toList ++ rest.toList)) :=
    noDigit_trimEnd (noDigit_append hAfter hRest)
  refine (parse_eq_ok_iff hCount).mpr ⟨index + 1, ?_, by omega, by omega, rfl⟩
  rw [String.toList_append, String.toList_append, String.toList_append, hNumber,
    List.append_assoc, List.append_assoc, trim_append_left hBefore, trim_digits_append hDigits]
  exact ⟨[], _, _, Or.inl rfl, hDigits, hStop, rfl, digitsValue_decimal _⟩

end Selection

/-- A scene around the line of one of its choices. -/
theorem View.scene_eq {v : View} {c : ChoiceView} {index : Nat} (settings : Settings)
    (hChoice : v.choices[index]? = some c) :
    v.scene settings = v.header settings ++ v.text ++ "\n\n" ++
      String.join ((v.choices.take index).map choiceLine) ++ choiceLine c ++
      String.join ((v.choices.drop (index + 1)).map choiceLine) := by
  obtain ⟨hIndex, rfl⟩ := List.getElem?_eq_some_iff.mp hChoice
  have hParts : v.choices =
      v.choices.take index ++ v.choices[index] :: v.choices.drop (index + 1) := by
    rw [← List.drop_eq_getElem_cons hIndex, List.take_append_drop]
  have hLines : String.join (v.choices.map choiceLine) =
      String.join ((v.choices.take index).map choiceLine) ++ (choiceLine v.choices[index] ++
        String.join ((v.choices.drop (index + 1)).map choiceLine)) := by
    conv => lhs; rw [hParts]
    simp only [List.map_append, List.map_cons, String.join_append, String.join_cons]
  rw [scene, hLines]
  simp only [String.append_assoc]

namespace Selection

variable {count : Nat}

/-- **Players select by the numbers that are printed.** For any count of choices below the limit
of 64 bits, a line is empty if nothing but blanks stands in it, it selects the choice before `k`
if it begins with an unbounded number `k` from one to the count, and otherwise it is refused with
that count: so are numbers that do not fit 64 bits, zero, signs other than one plus, and digits of
other scripts. In a scene with that many choices the number printed in front of a choice selects
the choice, with any blanks around it and anything behind it that is no further digit. -/
theorem reads_printed_numbers (hCount : count < Nat.pow 2 64) :
    (∀ line : String,
      let t := trim line.toList
      (parse line count = .error .empty ↔ t = []) ∧
      (∀ index, parse line count = .ok index ↔
        ∃ k, BeginsWith t k ∧ 1 ≤ k ∧ k ≤ count ∧ index = k - 1) ∧
      (∀ max, parse line count = .error (.outOfRange max) ↔
        max = count ∧ t ≠ [] ∧ ∀ k, BeginsWith t k → ¬ (1 ≤ k ∧ k ≤ count)) ∧
      (∀ k, BeginsWith t k → k = 0 ∨ Nat.pow 2 64 ≤ k →
        parse line count = .error (.outOfRange count)) ∧
      (∀ c rest, t = c :: rest → c.isDigit = false → c ≠ '+' →
        parse line count = .error (.outOfRange count)) ∧
      ∀ rest, t = '+' :: rest → NoDigit rest →
        parse line count = .error (.outOfRange count)) ∧
    ∀ (s : Session) (settings : Settings), s.choiceCount = count → ∀ index < count,
      ∃ text, s.choiceText? index = some text ∧
        s.view.scene settings = s.view.header settings ++ s.view.text ++ "\n\n" ++
          String.join ((s.view.choices.take index).map View.choiceLine) ++
          (toString (index + 1) ++ ". " ++ text ++ "\n") ++
          String.join ((s.view.choices.drop (index + 1)).map View.choiceLine) ∧
        ∀ before after rest : String, AllBlank before → AllBlank after → NoDigit rest.toList →
          parse (before ++ toString (index + 1) ++ after ++ rest) count = .ok index := by
  constructor
  · intro line t
    have hRefused : t ≠ [] → (∀ k, BeginsWith t k → ¬ (1 ≤ k ∧ k ≤ count)) →
        parse line count = .error (.outOfRange count) :=
      fun hNonempty hNone => (parse_eq_outOfRange_iff hCount).mpr ⟨rfl, hNonempty, hNone⟩
    refine ⟨parse_eq_empty_iff hCount, fun _ => parse_eq_ok_iff hCount,
      fun _ => parse_eq_outOfRange_iff hCount, ?_, ?_, ?_⟩
    · intro k hText hBeyond
      refine hRefused hText.ne_nil fun k' hOther hRange => ?_
      rw [hOther.unique hText] at hRange
      omega
    · intro c rest hText hNoDigit hNoPlus
      refine hRefused (by rw [hText]; exact List.cons_ne_nil _ _) fun k hNumber => ?_
      rw [hText] at hNumber
      exact absurd hNumber (not_beginsWith_of_first hNoDigit hNoPlus)
    · intro rest hText hStop
      refine hRefused (by rw [hText]; exact List.cons_ne_nil _ _) fun k hNumber => ?_
      rw [hText] at hNumber
      exact absurd hNumber (not_beginsWith_of_plus hStop)
  · rintro s settings rfl index hIndex
    obtain ⟨choice, hChoice⟩ : ∃ choice, s.available[index]? = some choice :=
      ⟨_, List.getElem?_eq_getElem hIndex⟩
    have hShown : s.view.choices[index]? = some ⟨index, choice.text⟩ := by
      rw [Session.getElem?_view, hChoice]
      rfl
    have hLine : View.choiceLine ⟨index, choice.text⟩ =
        toString (index + 1) ++ ". " ++ choice.text ++ "\n" := rfl
    have hScene := View.scene_eq settings hShown
    rw [hLine] at hScene
    refine ⟨choice.text, ?_, hScene, fun before after rest => parse_printed hCount hIndex⟩
    rw [Session.choiceText?, hChoice]
    rfl

/-- Zeros in front count for nothing, a number beyond 64 bits does not come round to the second
choice, and that choice is the attic: the vault, which is locked, has no number. -/
theorem reads_printed_numbers_house :
    let s := Session.blank.play [.load (.ofScenes "house" [⟨"start", "\x7bset keys = 1\x7d",
      [⟨"hall", "hall", none⟩, ⟨"vault", "vault", some "keys > 1"⟩,
        ⟨"attic", "attic", some "keys == 1"⟩]⟩])]
    2 < Nat.pow 2 64 ∧ s.choiceCount = 2 ∧ parse "\u3000+002abc" 2 = .ok 1 ∧
      parse "18446744073709551618" 2 = .error (.outOfRange 2) ∧
      ∃ text, s.choiceText? 1 = some text ∧
        parse ("\u3000" ++ toString 2 ++ " " ++ text) 2 = .ok 1 := by
  intro s
  have hLimit : 2 < Nat.pow 2 64 := by decide
  have hCount : s.choiceCount = 2 := by decide +kernel
  have hZeros : BeginsWith (trim "\u3000+002abc".toList) 2 :=
    ⟨['+'], [0, 0, 2], ['a', 'b', 'c'], Or.inr rfl, by decide, by simp [NoDigit],
      by decide +kernel, rfl⟩
  have hLong : BeginsWith (trim "18446744073709551618".toList) 18446744073709551618 :=
    beginsWith_iff.mpr (by decide +kernel)
  obtain ⟨hLines, hScenes⟩ := reads_printed_numbers hLimit
  obtain ⟨text, hText, -, hPrinted⟩ := hScenes s {} hCount 1 (by decide)
  have hAttic : s.choiceText? 1 = some "attic" := by decide +kernel
  refine ⟨hLimit, hCount, ((hLines _).2.1 1).mpr ⟨2, hZeros, by decide, by decide, rfl⟩,
    (hLines _).2.2.2.1 _ hLong (by decide), text, hText, hPrinted _ _ _ (by decide) (by decide) ?_⟩
  rw [hText, Option.some.injEq] at hAttic
  rw [hAttic]
  simp [NoDigit]

end Selection

end Gamebook
