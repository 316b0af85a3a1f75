import Gamebook.Literal

/-!
# Gamebook — the grammar of numbers

A number of JSON is an optional minus, digits that do not begin with a zero
unless they are one, an optional fraction and an optional exponent. The grammar
is told by the parts alone; the three functions that know it each go their own
way: `Json.scanNumeral` reads a number from the front of a text and leaves the
rest, `Json.isNumeral` cuts a whole text apart, and `Numeral.ofPlain?` reads a
whole text by a wider grammar.

* `Numeral.WrittenAs` — the texts that write a numeral.
* `scanNumeral_append`, `writtenAs_of_scanNumeral` — what is scanned is what is written.
* `isNumeral_iff` — the texts that are cut apart well are those that are written.
* `ofPlain?_of_writtenAs` — read by the wider grammar they are the same numerals.
-/

namespace Gamebook

open Text

-- ---------------------------------------------------------------------------
-- Digits
-- ---------------------------------------------------------------------------

namespace Text

variable {c : Char} {cs rest : List Char} {d : Fin 10} {ds : List (Fin 10)}

/-- Digits as they are written. -/
def digitChars (ds : List (Fin 10)) : List Char := ds.map fun (d : Fin 10) => Nat.digitChar d

/-- The text does not begin with a digit. -/
def NoDigit (cs : List Char) : Prop := ∀ c, cs.head? = some c → c.isDigit = false

theorem digit?_digitChar (d : Fin 10) : digit? (Nat.digitChar d) = some d := by
  revert d
  decide

theorem isDigit_digitChar (d : Fin 10) : (Nat.digitChar d).isDigit = true := by
  revert d
  decide

theorem toNat_digitChar (d : Fin 10) : (Nat.digitChar d).toNat = 48 + d := by
  revert d
  decide

theorem isDigit_iff : c.isDigit = true ↔ 48 ≤ c.toNat ∧ c.toNat ≤ 57 := by
  have hRange : c.isDigit = (decide (48 ≤ c.val) && decide (c.val ≤ 57)) := rfl
  rw [hRange, Bool.and_eq_true, decide_eq_true_eq, decide_eq_true_eq, UInt32.le_iff_toNat_le,
    UInt32.le_iff_toNat_le]
  rfl

theorem digit?_eq_none_iff : digit? c = none ↔ c.isDigit = false := by
  rw [Bool.eq_false_iff, ne_eq, isDigit_iff, digit?]
  have hZero : '0'.toNat = 48 := rfl
  split
  · rename_i hRange
    simp only [reduceCtorEq, false_iff, Decidable.not_not]
    omega
  · rename_i hRange
    simp only [true_iff]
    omega

theorem eq_digitChar_of_digit? (hDigit : digit? c = some d) : c = Nat.digitChar d := by
  unfold digit? at hDigit
  split at hDigit
  · rename_i hRange
    have hZero : '0'.toNat = 48 := rfl
    have hValue := congrArg Fin.val (Option.some.inj hDigit)
    simp only at hValue
    apply Char.toNat_inj.mp
    rw [toNat_digitChar]
    omega
  · cases hDigit

theorem exists_digitChar (hDigit : c.isDigit = true) : ∃ d : Fin 10, c = Nat.digitChar d := by
  cases hRead : digit? c with
  | none =>
    rw [digit?_eq_none_iff.mp hRead] at hDigit
    cases hDigit
  | some d => exact ⟨d, eq_digitChar_of_digit? hRead⟩

theorem isDigit_of_mem_digitChars (hMem : c ∈ digitChars ds) : c.isDigit = true := by
  obtain ⟨d, -, rfl⟩ := List.mem_map.mp hMem
  exact isDigit_digitChar d

theorem ne_of_isDigit {x : Char} (hDigit : c.isDigit = true) (hOther : x.isDigit = false) :
    c ≠ x := by
  rintro rfl
  rw [hDigit] at hOther
  cases hOther

/-- A run of digits is read up to its end. -/
theorem digits_append (hRest : NoDigit rest) : digits (digitChars ds ++ rest) = (ds, rest) := by
  induction ds with
  | nil =>
    cases rest with
    | nil => rfl
    | cons c rest =>
      have hStop : digit? c = none := digit?_eq_none_iff.mpr (hRest c rfl)
      show digits (c :: rest) = ([], c :: rest)
      rw [digits, hStop]
  | cons d ds ih =>
    have hStep : digitChars (d :: ds) ++ rest = Nat.digitChar d :: (digitChars ds ++ rest) := rfl
    rw [hStep, digits, digit?_digitChar]
    simp only [ih]

/-- The digits that are read stand in front of what is left, and no further one follows. -/
theorem digits_eq (hRead : digits cs = (ds, rest)) : cs = digitChars ds ++ rest ∧ NoDigit rest := by
  induction cs generalizing ds with
  | nil =>
    cases hRead
    refine ⟨rfl, ?_⟩
    intro c hHead
    cases hHead
  | cons c cs ih =>
    rw [digits] at hRead
    split at hRead
    · rename_i d hDigit
      cases hRead
      obtain ⟨hText, hStop⟩ := ih rfl
      refine ⟨?_, hStop⟩
      conv => lhs; rw [hText, eq_digitChar_of_digit? hDigit]
      rfl
    · rename_i hDigit
      cases hRead
      refine ⟨rfl, ?_⟩
      intro c' hHead
      cases hHead
      exact digit?_eq_none_iff.mp hDigit

end Text

-- ---------------------------------------------------------------------------
-- The grammar
-- ---------------------------------------------------------------------------

namespace Numeral

/-- The sign of an exponent; a plus may be left out. -/
inductive SignAs : Bool → List Char → Prop
  | bare : SignAs false []
  | plus : SignAs false ['+']
  | minus : SignAs true ['-']

/-- A fraction, if there is one: a point and at least one digit. -/
inductive FractionAs : Option (List (Fin 10)) → List Char → Prop
  | none : FractionAs none []
  | some {ds : List (Fin 10)} (hDigits : ds ≠ []) : FractionAs (some ds) ('.' :: digitChars ds)

/-- An exponent, if there is one: `e` or `E`, a sign or none, and at least one digit. -/
inductive ExponentAs : Option (Bool × List (Fin 10)) → List Char → Prop
  | none : ExponentAs none []
  | some {mark : Char} {sign : List Char} {negative : Bool} {ds : List (Fin 10)}
      (hMark : mark = 'e' ∨ mark = 'E') (hSign : SignAs negative sign) (hDigits : ds ≠ []) :
      ExponentAs (some (negative, ds)) (mark :: (sign ++ digitChars ds))

/-- Digits that do not begin with a zero, unless it is the only one. -/
def NoLeadingZero (ds : List (Fin 10)) : Prop :=
  ∃ d ds', ds = d :: ds' ∧ (d.val = 0 → ds' = [])

/-- The text writes the numeral in JSON, `-?(0|[1-9][0-9]*)(\.[0-9]+)?([eE][+-]?[0-9]+)?`. -/
structure WrittenAs (n : Numeral) (cs : List Char) : Prop where
  whole : NoLeadingZero n.whole
  text : ∃ fraction exponent, FractionAs n.fraction fraction ∧ ExponentAs n.exponent exponent ∧
    cs = (if n.negative then ['-'] else []) ++ (digitChars n.whole ++ (fraction ++ exponent))

variable {n : Numeral} {cs rest text fraction exponent : List Char} {ds : List (Fin 10)}

theorem NoLeadingZero.ne_nil (hWhole : NoLeadingZero ds) : ds ≠ [] := by
  obtain ⟨d, ds', rfl, -⟩ := hWhole
  exact List.cons_ne_nil _ _

theorem noLeadingZero_cons_iff {d : Fin 10} :
    NoLeadingZero (d :: ds) ↔ (d.val = 0 → ds = []) := by
  constructor
  · rintro ⟨d', ds', hCons, hAlone⟩
    cases hCons
    exact hAlone
  · intro hAlone
    exact ⟨d, ds, rfl, hAlone⟩

/-- The first character of a number. -/
theorem WrittenAs.exists_first (hText : n.WrittenAs text) :
    ∃ c behind, text = c :: behind ∧ (c = '-' ∨ c.isDigit = true) := by
  obtain ⟨fraction, exponent, -, -, rfl⟩ := hText.text
  cases hNegative : n.negative with
  | true => exact ⟨'-', _, rfl, Or.inl rfl⟩
  | false =>
    obtain ⟨d, ds, hWhole⟩ := List.exists_cons_of_ne_nil hText.whole.ne_nil
    rw [hWhole]
    exact ⟨_, _, rfl, Or.inr (isDigit_digitChar d)⟩

/-- Digits have no leading zero if they do not both begin with a zero and go on behind it. -/
theorem noLeadingZero_iff : NoLeadingZero ds ↔
    ds ≠ [] ∧ (ds.head? == some 0 && ds.length != 1) = false := by
  cases ds with
  | nil =>
    exact ⟨fun hWhole => absurd rfl hWhole.ne_nil, fun hDigits => absurd rfl hDigits.1⟩
  | cons d ds =>
    have hZero : d.val = 0 ↔ d = 0 := Fin.val_eq_zero_iff
    simp only [noLeadingZero_cons_iff, hZero, ne_eq, reduceCtorEq, not_false_eq_true,
      List.head?_cons, List.length_cons, true_and, Bool.and_eq_false_iff, beq_eq_false_iff_ne,
      Option.some.injEq, bne_eq_false_iff_eq, Nat.add_eq_right, List.length_eq_zero_iff]
    exact Decidable.imp_iff_not_or

/-- Digits have no sign in front. -/
theorem sign_digitChars (hDigits : ds ≠ []) (rest : List Char) :
    sign (digitChars ds ++ rest) = (false, digitChars ds ++ rest) := by
  obtain ⟨d, ds, rfl⟩ := List.exists_cons_of_ne_nil hDigits
  have hMinus : Nat.digitChar d ≠ '-' := ne_of_isDigit (isDigit_digitChar d) rfl
  have hPlus : Nat.digitChar d ≠ '+' := ne_of_isDigit (isDigit_digitChar d) rfl
  show sign (Nat.digitChar d :: _) = (false, Nat.digitChar d :: _)
  unfold sign
  split
  · rename_i hCons
    exact absurd (List.cons.inj hCons).1 hMinus
  · rename_i hCons
    exact absurd (List.cons.inj hCons).1 hPlus
  · rfl

end Numeral

-- ---------------------------------------------------------------------------
-- Scanning from the front
-- ---------------------------------------------------------------------------

namespace Json

open Numeral

variable {n : Numeral} {cs rest text fraction exponent : List Char} {ds : List (Fin 10)}

/-- The text does not go on with a number that stands in front of it. -/
def Ends (cs : List Char) : Prop :=
  ∀ c, cs.head? = some c → c.isDigit = false ∧ c ≠ '.' ∧ c ≠ 'e' ∧ c ≠ 'E'

theorem isExponentMark_iff {c : Char} : isExponentMark c = true ↔ c = 'e' ∨ c = 'E' := by
  rw [isExponentMark, Bool.or_eq_true, beq_iff_eq, beq_iff_eq]

theorem ends_nil : Ends [] := by
  intro c hHead
  cases hHead

theorem someDigits_eq_ok_iff : someDigits cs = .ok (ds, rest) ↔
    ds ≠ [] ∧ cs = digitChars ds ++ rest ∧ NoDigit rest := by
  constructor
  · intro hScan
    unfold someDigits at hScan
    split at hScan
    · cases hScan
    · cases hScan
    · rename_i hRead
      cases hScan
      exact ⟨List.cons_ne_nil _ _, digits_eq hRead⟩
  · rintro ⟨hDigits, rfl, hStop⟩
    cases ds with
    | nil => exact absurd rfl hDigits
    | cons d ds => rw [someDigits, digits_append hStop]

theorem scanWhole_eq_ok_iff : scanWhole cs = .ok (ds, rest) ↔
    NoLeadingZero ds ∧ cs = digitChars ds ++ rest ∧ NoDigit rest := by
  rw [noLeadingZero_iff, and_assoc, and_left_comm, ← someDigits_eq_ok_iff, scanWhole]
  cases hScan : someDigits cs with
  | error e => simp [bind, Except.bind]
  | ok p =>
    simp only [bind, Except.bind, Except.ok.injEq]
    split
    · rename_i hLeading
      simp only [reduceCtorEq, false_iff, not_and]
      rintro hFree rfl
      rw [hLeading] at hFree
      cases hFree
    · rename_i hLeading
      simp only [Except.ok.injEq]
      constructor
      · intro hPair
        cases hPair
        exact ⟨Bool.eq_false_iff.mpr hLeading, rfl⟩
      · rintro ⟨-, hPair⟩
        exact hPair

variable {f : Option (List (Fin 10))} {e : Option (Bool × List (Fin 10))}

/-- What follows the fraction of a number is an exponent or no part of a number. -/
theorem head?_exponent (hExponent : ExponentAs e exponent) (hRest : Ends rest) :
    ∀ c, (exponent ++ rest).head? = some c → c.isDigit = false ∧ c ≠ '.' := by
  intro c hHead
  cases hExponent with
  | none => exact ⟨(hRest c hHead).1, (hRest c hHead).2.1⟩
  | some hMark _ _ =>
    cases hHead
    rcases hMark with rfl | rfl
    · decide
    · decide

/-- What follows the whole part of a number does not begin with a digit. -/
theorem noDigit_fraction (hFraction : FractionAs f fraction) (hRest : NoDigit rest) :
    NoDigit (fraction ++ rest) := by
  cases hFraction with
  | none => exact hRest
  | some _ =>
    intro c hHead
    cases hHead
    decide

theorem sign_append {negative : Bool} {sign : List Char} (hSign : SignAs negative sign)
    (hDigits : ds ≠ []) (rest : List Char) :
    Numeral.sign (sign ++ (digitChars ds ++ rest)) = (negative, digitChars ds ++ rest) := by
  cases hSign with
  | bare => exact sign_digitChars hDigits rest
  | plus => rfl
  | minus => rfl

theorem scanExponent_append (hExponent : ExponentAs e exponent) (hRest : Ends rest) :
    scanExponent (exponent ++ rest) = .ok (e, rest) := by
  cases hExponent with
  | none =>
    cases rest with
    | nil => rfl
    | cons c rest =>
      obtain ⟨-, -, hLower, hUpper⟩ := hRest c rfl
      simp only [List.nil_append, scanExponent, Bool.or_false, Bool.false_eq_true, if_false,
        beq_eq_false_iff_ne.mpr hLower, beq_eq_false_iff_ne.mpr hUpper]
  | @some mark sign negative ds hMark hSign hDigits =>
    have hStop : NoDigit rest := fun c hHead => (hRest c hHead).1
    have hScan : someDigits (digitChars ds ++ rest) = .ok (ds, rest) :=
      someDigits_eq_ok_iff.mpr ⟨hDigits, rfl, hStop⟩
    have hCond : (mark == 'e' || mark == 'E') = true := isExponentMark_iff.mpr hMark
    rw [List.cons_append, List.append_assoc, scanExponent, if_pos hCond,
      sign_append hSign hDigits, hScan]
    rfl

theorem scanFraction_append (hFraction : FractionAs f fraction) (hStop : NoDigit rest)
    (hPoint : ∀ c, rest.head? = some c → c ≠ '.') :
    scanFraction (fraction ++ rest) = .ok (f, rest) := by
  cases hFraction with
  | none =>
    rw [List.nil_append]
    unfold scanFraction
    split
    · exact absurd rfl (hPoint _ rfl)
    · rfl
  | @some ds hDigits =>
    have hScan : someDigits (digitChars ds ++ rest) = .ok (ds, rest) :=
      someDigits_eq_ok_iff.mpr ⟨hDigits, rfl, hStop⟩
    rw [List.cons_append, scanFraction, hScan]
    rfl

/-- A minus is found, and nothing else in front of a digit is taken for one. -/
theorem scanMinus_append (negative : Bool) (hDigits : ds ≠ []) (rest : List Char) :
    scanMinus ((if negative then ['-'] else []) ++ (digitChars ds ++ rest)) =
      (negative, digitChars ds ++ rest) := by
  cases negative with
  | true => rfl
  | false =>
    obtain ⟨d, ds, rfl⟩ := List.exists_cons_of_ne_nil hDigits
    have hMinus : Nat.digitChar d ≠ '-' := ne_of_isDigit (isDigit_digitChar d) rfl
    show scanMinus (Nat.digitChar d :: _) = (false, Nat.digitChar d :: _)
    unfold scanMinus
    split
    · rename_i hCons
      exact absurd (List.cons.inj hCons).1 hMinus
    · rfl

/-- A number is scanned up to its end. -/
theorem scanNumeral_append (hText : n.WrittenAs text) (hRest : Ends rest) :
    scanNumeral (text ++ rest) = .ok (n, rest) := by
  obtain ⟨hWhole, fraction, exponent, hFraction, hExponent, rfl⟩ := hText
  have hBehind := head?_exponent hExponent hRest
  have hStop : NoDigit (exponent ++ rest) := fun c hHead => (hBehind c hHead).1
  have hScanWhole : scanWhole (digitChars n.whole ++ (fraction ++ (exponent ++ rest))) =
      .ok (n.whole, fraction ++ (exponent ++ rest)) :=
    scanWhole_eq_ok_iff.mpr ⟨hWhole, rfl, noDigit_fraction hFraction hStop⟩
  simp only [List.append_assoc]
  rw [scanNumeral, scanMinus_append n.negative hWhole.ne_nil, hScanWhole]
  simp only [bind, Except.bind]
  rw [scanFraction_append hFraction hStop fun c hHead => (hBehind c hHead).2]
  simp only [scanExponent_append hExponent hRest]

/-- A text writes one numeral at most. -/
theorem writtenAs_unique {n' : Numeral} (hText : n.WrittenAs text) (hText' : n'.WrittenAs text) :
    n' = n := by
  have hScan := scanNumeral_append hText ends_nil
  rw [scanNumeral_append hText' ends_nil] at hScan
  exact congrArg Prod.fst (Except.ok.inj hScan)

/-- The minus and what follows it make up the text. -/
theorem scanMinus_eq (cs : List Char) :
    cs = (if (scanMinus cs).1 then ['-'] else []) ++ (scanMinus cs).2 := by
  unfold scanMinus
  split <;> rfl

theorem exists_sign (cs : List Char) :
    ∃ sign, SignAs (Numeral.sign cs).1 sign ∧ cs = sign ++ (Numeral.sign cs).2 := by
  unfold Numeral.sign
  split
  · exact ⟨['-'], .minus, rfl⟩
  · exact ⟨['+'], .plus, rfl⟩
  · exact ⟨[], .bare, rfl⟩

theorem exponentAs_of_scanExponent (hScan : scanExponent cs = .ok (e, rest)) :
    ∃ exponent, ExponentAs e exponent ∧ cs = exponent ++ rest := by
  unfold scanExponent at hScan
  split at hScan
  · cases hScan
    exact ⟨[], .none, rfl⟩
  · rename_i mark cs
    split at hScan
    · rename_i hCond
      have hMark : mark = 'e' ∨ mark = 'E' := isExponentMark_iff.mp hCond
      cases hDigits : someDigits (Numeral.sign cs).2 with
      | error cause =>
        rw [hDigits] at hScan
        cases hScan
      | ok p =>
        obtain ⟨ds, behind⟩ := p
        rw [hDigits] at hScan
        cases hScan
        obtain ⟨hNonempty, hText, -⟩ := someDigits_eq_ok_iff.mp hDigits
        obtain ⟨sign, hSign, hCs⟩ := exists_sign cs
        refine ⟨mark :: (sign ++ digitChars ds), .some hMark hSign hNonempty, ?_⟩
        rw [List.cons_append, List.append_assoc, ← hText, ← hCs]
    · cases hScan
      exact ⟨[], .none, rfl⟩

theorem fractionAs_of_scanFraction (hScan : scanFraction cs = .ok (f, rest)) :
    ∃ fraction, FractionAs f fraction ∧ cs = fraction ++ rest := by
  unfold scanFraction at hScan
  split at hScan
  · rename_i cs
    cases hDigits : someDigits cs with
    | error cause =>
      rw [hDigits] at hScan
      cases hScan
    | ok p =>
      obtain ⟨ds, behind⟩ := p
      rw [hDigits] at hScan
      cases hScan
      obtain ⟨hNonempty, hText, -⟩ := someDigits_eq_ok_iff.mp hDigits
      exact ⟨'.' :: digitChars ds, .some hNonempty, by rw [List.cons_append, ← hText]⟩
  · cases hScan
    exact ⟨[], .none, rfl⟩

/-- What is scanned writes the numeral, and nothing of the text is lost. -/
theorem writtenAs_of_scanNumeral (hScan : scanNumeral cs = .ok (n, rest)) :
    ∃ text, n.WrittenAs text ∧ cs = text ++ rest := by
  unfold scanNumeral at hScan
  cases hWhole : scanWhole (scanMinus cs).2 with
  | error cause =>
    rw [hWhole] at hScan
    cases hScan
  | ok w =>
    obtain ⟨whole, behindWhole⟩ := w
    cases hFraction : scanFraction behindWhole with
    | error cause =>
      simp only [hWhole, hFraction, bind, Except.bind] at hScan
      cases hScan
    | ok p =>
      obtain ⟨f, behindFraction⟩ := p
      cases hExponent : scanExponent behindFraction with
      | error cause =>
        simp only [hWhole, hFraction, hExponent, bind, Except.bind] at hScan
        cases hScan
      | ok q =>
        obtain ⟨e, behind⟩ := q
        simp only [hWhole, hFraction, hExponent, bind, Except.bind] at hScan
        cases hScan
        obtain ⟨hLeading, hWholeText, -⟩ := scanWhole_eq_ok_iff.mp hWhole
        obtain ⟨fraction, hFractionAs, rfl⟩ := fractionAs_of_scanFraction hFraction
        obtain ⟨exponent, hExponentAs, rfl⟩ := exponentAs_of_scanExponent hExponent
        refine ⟨_, ⟨hLeading, fraction, exponent, hFractionAs, hExponentAs, rfl⟩, ?_⟩
        simp only [List.append_assoc]
        rw [← hWholeText, ← scanMinus_eq]

end Json

-- ---------------------------------------------------------------------------
-- Cutting a whole text apart
-- ---------------------------------------------------------------------------

namespace Text

variable {p : Char → Bool} {c : Char} {cs before rest : List Char}

theorem cutAt_of_forall (hNone : ∀ x ∈ cs, p x = false) : cutAt p cs = (cs, none) := by
  induction cs with
  | nil => rfl
  | cons c cs ih =>
    rw [List.forall_mem_cons] at hNone
    rw [cutAt, hNone.1, ih hNone.2]
    rfl

theorem cutAt_append (hBefore : ∀ x ∈ before, p x = false) (hMark : p c = true) :
    cutAt p (before ++ c :: rest) = (before, some rest) := by
  induction before with
  | nil => rw [List.nil_append, cutAt, if_pos hMark]
  | cons b before ih =>
    rw [List.forall_mem_cons] at hBefore
    rw [List.cons_append, cutAt, hBefore.1, ih hBefore.2]
    rfl

/-- A cut loses at most the character at which it is made. -/
theorem eq_of_cutAt (cs : List Char) :
    ((cutAt p cs).2 = none ∧ cs = (cutAt p cs).1) ∨
      ∃ c rest, p c = true ∧ (cutAt p cs).2 = some rest ∧ cs = (cutAt p cs).1 ++ c :: rest := by
  induction cs with
  | nil => exact Or.inl ⟨rfl, rfl⟩
  | cons c cs ih =>
    rw [cutAt]
    split
    · rename_i hMark
      exact Or.inr ⟨c, cs, hMark, rfl, rfl⟩
    · rcases ih with ⟨hNone, hText⟩ | ⟨c', rest, hMark, hSome, hText⟩
      · exact Or.inl ⟨hNone, congrArg (c :: ·) hText⟩
      · exact Or.inr ⟨c', rest, hMark, hSome, congrArg (c :: ·) hText⟩

end Text

namespace Json

open Numeral

variable {n : Numeral} {cs rest text fraction exponent : List Char} {ds : List (Fin 10)}

theorem isDigits_iff : isDigits cs = true ↔ ∃ ds, ds ≠ [] ∧ cs = digitChars ds := by
  rw [isDigits, Bool.and_eq_true, Bool.not_eq_true', List.isEmpty_eq_false_iff, List.all_eq_true]
  constructor
  · rintro ⟨hNonempty, hAll⟩
    have hRun : ∃ ds, cs = digitChars ds := by
      clear hNonempty
      induction cs with
      | nil => exact ⟨[], rfl⟩
      | cons c cs ih =>
        rw [List.forall_mem_cons] at hAll
        obtain ⟨d, rfl⟩ := exists_digitChar hAll.1
        obtain ⟨ds, rfl⟩ := ih hAll.2
        exact ⟨d :: ds, rfl⟩
    obtain ⟨ds, rfl⟩ := hRun
    refine ⟨ds, ?_, rfl⟩
    rintro rfl
    exact hNonempty rfl
  · rintro ⟨ds, hNonempty, rfl⟩
    exact ⟨fun hNil => hNonempty (List.map_eq_nil_iff.mp hNil), fun c => isDigit_of_mem_digitChars⟩

theorem isExponentMark_of_isDigit {c : Char} (hDigit : c.isDigit = true) :
    isExponentMark c = false := by
  rw [isExponentMark, Bool.or_eq_false_iff, beq_eq_false_iff_ne, beq_eq_false_iff_ne]
  exact ⟨ne_of_isDigit hDigit rfl, ne_of_isDigit hDigit rfl⟩

/-- The part before the point and the mark has no leading zero. -/
theorem noLeadingZero_digitChars_iff (hDigits : ds ≠ []) : NoLeadingZero ds ↔
    (digitChars ds == ['0'] || (digitChars ds).head? != some '0') = true := by
  have hZero : ∀ d : Fin 10, Nat.digitChar d = '0' ↔ d.val = 0 := by decide
  cases ds with
  | nil => exact absurd rfl hDigits
  | cons d ds =>
    simp only [noLeadingZero_cons_iff, digitChars, List.map_cons, List.head?_cons, Bool.or_eq_true,
      beq_iff_eq, bne_iff_ne, ne_eq, List.cons.injEq, List.map_eq_nil_iff, Option.some.injEq,
      hZero]
    constructor
    · intro hAlone
      by_cases hFirst : d.val = 0
      · exact Or.inl ⟨hFirst, hAlone hFirst⟩
      · exact Or.inr hFirst
    · rintro (⟨-, hAlone⟩ | hNonzero) hFirst
      · exact hAlone
      · exact absurd hFirst hNonzero

theorem exponentAs_of_cutAt
    (hDigits : (cutAt isExponentMark cs).2.all fun e => isDigits (Numeral.sign e).2) :
    ∃ e exponent, ExponentAs e exponent ∧ cs = (cutAt isExponentMark cs).1 ++ exponent := by
  rcases eq_of_cutAt (p := isExponentMark) cs with ⟨-, hText⟩ | ⟨mark, rest, hMark, hRest, hText⟩
  · exact ⟨none, [], .none, by rw [List.append_nil, ← hText]⟩
  · rw [hRest] at hDigits
    obtain ⟨ds, hNonempty, hRun⟩ := isDigits_iff.mp hDigits
    obtain ⟨sign, hSign, hBehind⟩ := exists_sign rest
    refine ⟨some (_, ds), mark :: (sign ++ digitChars ds),
      .some (isExponentMark_iff.mp hMark) hSign hNonempty, ?_⟩
    rw [← hRun, ← hBehind, ← hText]

theorem fractionAs_of_cutAt (hDigits : (cutAt (· == '.') cs).2.all isDigits) :
    ∃ f fraction, FractionAs f fraction ∧ cs = (cutAt (· == '.') cs).1 ++ fraction := by
  rcases eq_of_cutAt (p := (· == '.')) cs with ⟨-, hText⟩ | ⟨point, rest, hPoint, hRest, hText⟩
  · exact ⟨none, [], .none, by rw [List.append_nil, ← hText]⟩
  · rw [hRest] at hDigits
    obtain ⟨ds, hNonempty, rfl⟩ := isDigits_iff.mp hDigits
    rw [beq_iff_eq] at hPoint
    rw [hPoint] at hText
    exact ⟨some ds, '.' :: digitChars ds, .some hNonempty, hText⟩

variable {f : Option (List (Fin 10))} {e : Option (Bool × List (Fin 10))} {before : List Char}

theorem cutAt_exponent (hExponent : ExponentAs e exponent)
    (hBefore : ∀ x ∈ before, isExponentMark x = false) :
    ∃ tail, cutAt isExponentMark (before ++ exponent) = (before, tail) ∧
      tail.all fun e => isDigits (Numeral.sign e).2 := by
  cases hExponent with
  | none => exact ⟨none, by rw [List.append_nil, cutAt_of_forall hBefore], rfl⟩
  | @some mark sign negative ds hMark hSign hDigits =>
    have hSigned := sign_append hSign hDigits []
    rw [List.append_nil] at hSigned
    refine ⟨some (sign ++ digitChars ds), cutAt_append hBefore (isExponentMark_iff.mpr hMark), ?_⟩
    rw [Option.all_some, hSigned]
    exact isDigits_iff.mpr ⟨ds, hDigits, rfl⟩

theorem cutAt_fraction (hFraction : FractionAs f fraction)
    (hBefore : ∀ x ∈ before, (x == '.') = false) :
    ∃ tail, cutAt (· == '.') (before ++ fraction) = (before, tail) ∧ tail.all isDigits := by
  cases hFraction with
  | none => exact ⟨none, by rw [List.append_nil, cutAt_of_forall hBefore], rfl⟩
  | @some ds hDigits =>
    exact ⟨some (digitChars ds), cutAt_append hBefore rfl, isDigits_iff.mpr ⟨ds, hDigits, rfl⟩⟩

theorem isExponentMark_of_mem_digitChars {c : Char} (hMem : c ∈ digitChars ds) :
    isExponentMark c = false :=
  isExponentMark_of_isDigit (isDigit_of_mem_digitChars hMem)

theorem isExponentMark_of_mem_fraction {c : Char} (hFraction : FractionAs f fraction)
    (hMem : c ∈ fraction) : isExponentMark c = false := by
  cases hFraction with
  | none => cases hMem
  | some _ =>
    rcases List.mem_cons.mp hMem with rfl | hDigit
    · rfl
    · exact isExponentMark_of_mem_digitChars hDigit

/-- A whole text is cut apart well exactly if it writes a numeral. -/
theorem isNumeral_iff : isNumeral cs = true ↔ ∃ n : Numeral, n.WrittenAs cs := by
  constructor
  · intro hNumeral
    simp only [isNumeral, Bool.and_eq_true] at hNumeral
    obtain ⟨⟨⟨hWhole, hLeading⟩, hFraction⟩, hExponent⟩ := hNumeral
    obtain ⟨e, exponent, hExponentAs, hParts⟩ := exponentAs_of_cutAt hExponent
    obtain ⟨f, fraction, hFractionAs, hMantissa⟩ := fractionAs_of_cutAt hFraction
    obtain ⟨ds, hNonempty, hRun⟩ := isDigits_iff.mp hWhole
    rw [hRun] at hLeading
    refine ⟨⟨(scanMinus cs).1, ds, f, e⟩, (noLeadingZero_digitChars_iff hNonempty).mpr hLeading,
      fraction, exponent, hFractionAs, hExponentAs, ?_⟩
    show cs = (if (scanMinus cs).1 then ['-'] else []) ++ (digitChars ds ++ (fraction ++ exponent))
    rw [← hRun, ← List.append_assoc _ fraction, ← hMantissa, ← hParts, ← scanMinus_eq]
  · rintro ⟨⟨negative, whole, f, e⟩, hWhole, fraction, exponent, hFraction, hExponent, rfl⟩
    -- The text is cut at the exponent and at the fraction, and nowhere before.
    have hMark : ∀ x ∈ digitChars whole ++ fraction, isExponentMark x = false :=
      List.forall_mem_append.mpr ⟨fun x => isExponentMark_of_mem_digitChars,
        fun x => isExponentMark_of_mem_fraction hFraction⟩
    have hPoint : ∀ x ∈ digitChars whole, (x == '.') = false := by
      intro x hMem
      exact beq_eq_false_iff_ne.mpr (ne_of_isDigit (isDigit_of_mem_digitChars hMem) rfl)
    obtain ⟨exponentTail, hCutExponent, hExponentDigits⟩ := cutAt_exponent hExponent hMark
    obtain ⟨fractionTail, hCutFraction, hFractionDigits⟩ := cutAt_fraction hFraction hPoint
    rw [isNumeral, scanMinus_append negative hWhole.ne_nil, ← List.append_assoc, hCutExponent]
    simp only [hCutFraction, hFractionDigits, hExponentDigits, Bool.and_true, Bool.and_eq_true]
    exact ⟨isDigits_iff.mpr ⟨whole, hWhole.ne_nil, rfl⟩,
      (noLeadingZero_digitChars_iff hWhole.ne_nil).mp hWhole⟩

end Json

-- ---------------------------------------------------------------------------
-- The wider grammar
-- ---------------------------------------------------------------------------

namespace Numeral

open Json

variable {n : Numeral} {cs exponent : List Char} {e : Option (Bool × List (Fin 10))}

theorem noDigit_nil : NoDigit [] := by
  intro c hHead
  cases hHead

theorem plainExponent?_of_exponentAs (hExponent : ExponentAs e exponent) :
    plainExponent? exponent = some e := by
  cases hExponent with
  | none => rfl
  | @some mark sign negative ds hMark hSign hDigits =>
    obtain ⟨d, ds, rfl⟩ := List.exists_cons_of_ne_nil hDigits
    have hCond : (mark == 'e' || mark == 'E') = true := isExponentMark_iff.mpr hMark
    have hSigned := sign_append hSign hDigits []
    have hRun : digits (digitChars (d :: ds) ++ []) = (d :: ds, []) := digits_append noDigit_nil
    rw [List.append_nil] at hSigned hRun
    rw [plainExponent?, if_pos hCond, hSigned, hRun]

/-- A minus in front of digits is a sign in the wider grammar too. -/
theorem sign_minus (negative : Bool) {ds : List (Fin 10)} (hDigits : ds ≠ []) (rest : List Char) :
    sign ((if negative then ['-'] else []) ++ (digitChars ds ++ rest)) =
      (negative, digitChars ds ++ rest) := by
  cases negative with
  | true => rfl
  | false => exact sign_digitChars hDigits rest

/-- A number of JSON is a plain decimal with the same parts. -/
theorem ofPlain?_of_writtenAs (hText : n.WrittenAs cs) : ofPlain? cs = some n := by
  obtain ⟨negative, whole, f, e⟩ := n
  obtain ⟨hWhole, fraction, exponent, hFraction, hExponent, rfl⟩ := hText
  have hBehind := head?_exponent hExponent ends_nil
  rw [List.append_nil] at hBehind
  have hStop : NoDigit exponent := fun c hHead => (hBehind c hHead).1
  have hNonempty : whole.isEmpty = false := List.isEmpty_eq_false_iff.mpr hWhole.ne_nil
  have hRead : digits (digitChars whole ++ (fraction ++ exponent)) =
      (whole, fraction ++ exponent) := digits_append (noDigit_fraction hFraction hStop)
  rw [ofPlain?, sign_minus negative hWhole.ne_nil, hRead]
  cases hFraction with
  | none =>
    have hPlain := plainExponent?_of_exponentAs hExponent
    rw [List.nil_append]
    split
    · rename_i hPoint
      exact absurd rfl (hBehind _ (congrArg (List.head? ∘ Prod.snd) hPoint)).2
    · rename_i hPair
      cases hPair
      rw [hNonempty, hPlain]
      rfl
  | @some ds hDigits =>
    have hPlain := plainExponent?_of_exponentAs hExponent
    rw [List.cons_append]
    simp only [hNonempty, digits_append hStop, hPlain]
    rfl

end Numeral

end Gamebook
