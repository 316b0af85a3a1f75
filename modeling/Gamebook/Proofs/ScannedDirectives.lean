import Gamebook.Proofs.Borders
import Gamebook.Proofs.Grammar
import Gamebook.Proofs.Numerals

/-!
# Gamebook — scanning a text for a directive

The scan goes from part to part: behind the opening it measures the blanks, the
name, the blanks up to the equals sign and those in front of the value, each in what
is cut off behind the part before. Blanks can take three bytes each, so the offsets
at which a value may start are those of the blanks, tried from the last one on.

* `directive?` — the scan, offset by offset.
* `leading_isWordCode` — a run of bytes of a name is a run of its characters.
* `finds_valued_blanks` — trying the offsets from the last one on leaves as many
  blanks out of the value as leave one.
* `finds_directive` — the scan computes borders only and finds what is read.
-/

namespace Gamebook

open Text

namespace Scan

variable {s text : String} {c : Char} {cs ds area behind before front name : List Char} {i : Nat}

-- ---------------------------------------------------------------------------
-- Words and digits as bytes
-- ---------------------------------------------------------------------------

/-- The code of an ASCII digit. -/
def isDigitCode (n : Nat) : Bool := 48 ≤ n && n ≤ 57

/-- The code of an ASCII letter, of an ASCII digit or of `_`. -/
def isWordCode (n : Nat) : Bool :=
  (65 ≤ n && n ≤ 90) || (97 ≤ n && n ≤ 122) || isDigitCode n || n == 95

theorem isDigitCode_toNat (c : Char) : isDigitCode c.toNat = c.isDigit := by
  rw [Bool.eq_iff_iff, isDigit_iff, isDigitCode, Bool.and_eq_true, decide_eq_true_eq,
    decide_eq_true_eq]

theorem isWordCode_toNat (c : Char) : isWordCode c.toNat = isWordChar c := by
  have hUnderscore : (c.toNat == 95) = (c == '_') := by
    rw [Bool.eq_iff_iff, beq_iff_eq, beq_iff_eq, ← Char.toNat_inj]
    rfl
  have hLetter : (65 ≤ c.toNat && c.toNat ≤ 90 || 97 ≤ c.toNat && c.toNat ≤ 122) = c.isAlpha := by
    have hRanges : c.isAlpha = (decide (65 ≤ c.val ∧ c.val ≤ 90) ||
        (decide (97 ≤ c.val) && decide (c.val ≤ 122))) := rfl
    rw [hRanges, Bool.eq_iff_iff]
    simp only [Bool.or_eq_true, Bool.and_eq_true, decide_eq_true_eq, UInt32.le_iff_toNat_le]
    rfl
  rw [isWordCode, hUnderscore, hLetter, isDigitCode_toNat, isWordChar, Char.isAlphanum]

theorem leading_isWordCode (s : String) : leading isWordCode s = byteLength (word s.toList) := by
  have hAscii : ∀ n, isWordCode n = true → n < 128 := by
    intro n hCode
    simp only [isWordCode, isDigitCode, Bool.or_eq_true, Bool.and_eq_true, decide_eq_true_eq,
      beq_iff_eq] at hCode
    omega
  simp only [leading_eq hAscii, isWordCode_toNat]
  rfl

theorem leading_isDigitCode (s : String) :
    leading isDigitCode s = byteLength (s.toList.takeWhile Char.isDigit) := by
  have hAscii : ∀ n, isDigitCode n = true → n < 128 := by
    intro n hCode
    rw [isDigitCode, Bool.and_eq_true, decide_eq_true_eq, decide_eq_true_eq] at hCode
    omega
  simp only [leading_eq hAscii, isDigitCode_toNat]

-- ---------------------------------------------------------------------------
-- A directive
-- ---------------------------------------------------------------------------

/-- A directive that has been found: its name, its value and how many bytes it takes. -/
structure Found where
  name : String
  value : String
  size : Nat

/-- The offset of the first closing brace on the line. -/
def closeIn? : List (Nat × Char) → Option Nat
  | [] => none
  | (i, c) :: more => if c == '\x7d' then some i else if isLineEnd c then none else closeIn? more

/-- The offset at which a value ends that begins with the first character of the text. -/
def valueEnd? (s : String) : Option Nat :=
  match indices 0 s.toList with
  | [] => none
  | (_, c) :: more => if isLineEnd c then none else closeIn? more

theorem closeIn?_eq (i : Nat) (cs : List Char) :
    closeIn? (indices i cs) = (Directive.untilClose? cs).map fun p => i + byteLength p.1 := by
  induction cs generalizing i with
  | nil => rfl
  | cons c cs ih =>
    rw [indices, closeIn?, Directive.untilClose?]
    split
    · rfl
    · split
      · rfl
      · rw [ih, Option.map_map]
        refine congrArg (fun f => Option.map f _) (funext fun p => ?_)
        rw [Function.comp, byteLength_cons, Nat.add_assoc]

theorem valueEnd?_eq (s : String) :
    valueEnd? s = (Directive.valueAt? s.toList).map fun p => byteLength p.1 := by
  rw [valueEnd?]
  cases s.toList with
  | nil => rfl
  | cons c cs =>
    simp only [indices, Directive.valueAt?, closeIn?_eq]
    split
    · rfl
    · rw [Option.map_map]
      refine congrArg (fun f => Option.map f _) (funext fun p => ?_)
      rw [Function.comp, byteLength_cons, Nat.zero_add]

/-- The first of some offsets at which a value starts decides. -/
def valued? (s : String) (nameFrom nameTo : Nat) : List Nat → Scan (Option Found)
  | [] => return none
  | start :: more => do
    match valueEnd? (← cutFrom s start) with
    | none => valued? s nameFrom nameTo more
    | some size =>
      let name ← cut s nameFrom nameTo
      let value ← cut s start (start + size)
      note s (start + size + 1)
      return some ⟨name, value, start + size + 1⟩

/-- The directive whose value starts behind an offset, with as many blanks left out of the value
as leave one. -/
def assigned? (s : String) (nameFrom nameTo area : Nat) : Scan (Option Found) := do
  let size := leadingBlanks (← cutFrom s area)
  let indent ← cut s area (area + size)
  let starts := (indices area indent.toList).map Prod.fst ++ [area + size]
  valued? s nameFrom nameTo starts.reverse

/-- The directive whose name starts at an offset. -/
def named? (s : String) (nameFrom : Nat) : Scan (Option Found) := do
  let size := leading isWordCode (← cutFrom s nameFrom)
  if size = 0 then return none
  else do
    let nameTo := nameFrom + size
    let equals := nameTo + leadingBlanks (← cutFrom s nameTo)
    if (← cutFrom s equals).toList.head? = some '=' then assigned? s nameFrom nameTo (equals + 1)
    else return none

/-- What follows the opening of a directive. -/
def afterOpening? : List Char → Option (List Char)
  | '\x7b' :: 's' :: 'e' :: 't' :: cs => some cs
  | _ => none

/-- The directive at the start of a text. -/
def directive? (s : String) : Scan (Option Found) :=
  match afterOpening? s.toList with
  | none => return none
  | some cs =>
    let behind := String.ofList cs
    let size := leadingBlanks behind
    if size = 0 then return none
    else named? s (s.utf8ByteSize - behind.utf8ByteSize + size)

-- What the scan finds at the start of a text is what reading finds there.

section Directives

/-- What is found of a directive that has been read. -/
def Found.of (d : Directive) : Found := ⟨d.target, String.ofList d.value, byteLength d.source⟩

/-- What is found of a value, by the characters of its name and the text in front of it. -/
def Found.upTo (name before value : List Char) : Found :=
  ⟨String.ofList name, String.ofList value, byteLength before + byteLength value + 1⟩

/-- A text that does not begin with a blank has none to be left out of a value. -/
theorem indented?_of_stop (hStop : ∀ c, cs.head? = some c → isBlank c = false) :
    Directive.indented? cs = (Directive.valueAt? cs).map fun p => ([], p.1, p.2) := by
  cases cs with
  | nil => rfl
  | cons c cs => rw [Directive.indented?, hStop c rfl, if_neg Bool.false_ne_true]

theorem byteLength_close : byteLength ['\x7d'] = 1 := rfl

theorem byteLength_equals : byteLength ['='] = 1 := rfl

variable {hole : Option Found} {starts : List Nat}

/-- A value that starts at the offset comes first; else the other offsets decide. -/
theorem finds_valued_cons (hName : s.toList = front ++ (name ++ behind))
    (hText : s.toList = before ++ cs)
    (hMore :
      (valued? s (byteLength front) (byteLength front + byteLength name) starts).Finds hole) :
    (valued? s (byteLength front) (byteLength front + byteLength name)
      (byteLength before :: starts)).Finds
        (((Directive.valueAt? cs).map fun p => Found.upTo name before p.1).or hole) := by
  rw [valued?]
  refine (finds_cutFrom hText rfl).bind ?_
  rw [valueEnd?_eq, String.toList_ofList]
  cases hValue : Directive.valueAt? cs with
  | none => exact hMore
  | some p =>
    obtain ⟨value, rest⟩ := p
    have hSplit : s.toList = before ++ (value ++ ('\x7d' :: rest)) := by
      rw [hText, Directive.eq_of_valueAt? hValue]
    have hClose : s.toList = (before ++ (value ++ ['\x7d'])) ++ rest := by
      rw [hSplit, List.append_assoc, List.append_assoc, List.singleton_append]
    have hEnd : IsBorder s (byteLength before + byteLength value + 1) := by
      have hBorder := isBorder_byteLength hClose
      rwa [byteLength_append, byteLength_append, byteLength_close, ← Nat.add_assoc] at hBorder
    exact (finds_cut hName rfl rfl).bind ((finds_cut hSplit rfl rfl).bind
      ((finds_note hEnd).bind (finds_pure _)))

/-- The offsets in front of each of some blanks and behind them, the last one first, leave as many
blanks out of the value as leave one. -/
theorem finds_valued_blanks (hName : s.toList = front ++ (name ++ behind))
    {blanks tail : List Char} (hBlanks : ∀ c ∈ blanks, isBlank c = true)
    (hStop : ∀ c, tail.head? = some c → isBlank c = false)
    (hText : s.toList = before ++ (blanks ++ tail))
    (hMore :
      (valued? s (byteLength front) (byteLength front + byteLength name) starts).Finds hole) :
    (valued? s (byteLength front) (byteLength front + byteLength name)
      (((indices (byteLength before) blanks).map Prod.fst ++
        [byteLength before + byteLength blanks]).reverse ++ starts)).Finds
      (((Directive.indented? (blanks ++ tail)).map fun p =>
        Found.upTo name (before ++ p.1) p.2.1).or hole) := by
  induction blanks generalizing before starts hole with
  | nil =>
    have hHere := finds_valued_cons hName hText hMore
    rw [List.nil_append] at hHere
    rw [List.nil_append, indented?_of_stop hStop, Option.map_map]
    simpa only [Function.comp_def, List.append_nil, indices, List.map_nil, List.nil_append,
      byteLength_nil, Nat.add_zero, List.reverse_singleton, List.singleton_append] using hHere
  | cons c blanks ih =>
    obtain ⟨hBlank, hRest⟩ := List.forall_mem_cons.mp hBlanks
    have hBehind : s.toList = (before ++ [c]) ++ (blanks ++ tail) := by
      rw [hText, List.append_assoc]
      rfl
    have hTail := ih hRest hBehind (finds_valued_cons hName hText hMore)
    rw [byteLength_append, byteLength_singleton, Nat.add_assoc, ← byteLength_cons] at hTail
    rw [indices, List.map_cons, List.cons_append, List.reverse_cons, List.append_assoc,
      List.singleton_append, List.cons_append, Directive.indented?, if_pos hBlank]
    cases hRead : Directive.indented? (blanks ++ tail) with
    | some p =>
      rw [hRead, Option.map_some, Option.some_or, List.append_assoc] at hTail
      exact hTail
    | none =>
      rw [hRead, Option.map_none, Option.none_or] at hTail
      simpa only [Option.map_map, Function.comp_def, List.append_nil, List.cons_append] using hTail

theorem finds_assigned (hName : s.toList = front ++ (name ++ behind))
    (hText : s.toList = before ++ area) :
    (assigned? s (byteLength front) (byteLength front + byteLength name) (byteLength before)).Finds
      ((Directive.indented? area).map fun p => Found.upTo name (before ++ p.1) p.2.1) := by
  have hSplit : s.toList = before ++ (Directive.blanks area ++ trimStart area) := by
    rw [Directive.blanks_append_trimStart, hText]
  have hSize : leadingBlanks (String.ofList area) = byteLength (Directive.blanks area) := by
    rw [leadingBlanks_eq, String.toList_ofList, Directive.blanks]
  rw [assigned?]
  refine (finds_cutFrom hText rfl).bind ?_
  rw [hSize]
  refine (finds_cut hSplit rfl rfl).bind ?_
  have hNone : (valued? s (byteLength front) (byteLength front + byteLength name) []).Finds none :=
    finds_pure none
  have hFound := finds_valued_blanks hName (fun _ => Directive.isBlank_of_mem_blanks)
    (fun _ => isBlank_of_head?_trimStart) hSplit hNone
  rw [Directive.blanks_append_trimStart, Option.or_none, List.append_nil] at hFound
  rw [String.toList_ofList]
  exact hFound

/-- What is found behind the opening and its blanks. -/
def namedAt? (front cs : List Char) : Option Found :=
  if (word cs).isEmpty then none
  else
    match trimStart (afterWord cs) with
    | '=' :: area => (Directive.indented? area).map fun p => Found.upTo (word cs)
        (front ++ (word cs ++ (Directive.blanks (afterWord cs) ++ '=' :: p.1))) p.2.1
    | _ => none

theorem finds_named (hText : s.toList = front ++ cs) :
    (named? s (byteLength front)).Finds (namedAt? front cs) := by
  have hWord : s.toList = front ++ (word cs ++ afterWord cs) := by
    rw [word_append_afterWord, hText]
  have hBehind : s.toList = (front ++ word cs) ++ afterWord cs := by
    rw [hWord, List.append_assoc]
  have hEquals : s.toList = (front ++ word cs ++ Directive.blanks (afterWord cs)) ++
      trimStart (afterWord cs) := by
    rw [List.append_assoc _ _ (trimStart _), Directive.blanks_append_trimStart, hBehind]
  rw [named?]
  refine (finds_cutFrom hText rfl).bind ?_
  rw [leading_isWordCode, String.toList_ofList, namedAt?]
  by_cases hNone : word cs = []
  · rw [hNone, if_pos byteLength_nil, if_pos List.isEmpty_nil]
    exact finds_pure none
  · rw [if_neg (mt byteLength_eq_zero_iff.mp hNone), if_neg (by rwa [List.isEmpty_iff])]
    refine (finds_cutFrom hBehind (byteLength_append _ _).symm).bind ?_
    rw [leadingBlanks_eq, String.toList_ofList, ← byteLength_append]
    refine (finds_cutFrom hEquals (byteLength_append _ _).symm).bind ?_
    rw [String.toList_ofList]
    by_cases hAssigns : (trimStart (afterWord cs)).head? = some '='
    · obtain ⟨area, hArea⟩ := List.head?_eq_some_iff.mp hAssigns
      have hSplit : s.toList = (front ++ (word cs ++ (Directive.blanks (afterWord cs) ++ ['=']))) ++
          area := by
        simpa only [hArea, List.append_assoc, List.singleton_append] using hEquals
      have hFound := finds_assigned hWord hSplit
      simp only [byteLength_append, byteLength_equals, List.append_assoc, ← Nat.add_assoc,
        List.singleton_append] at hFound
      rw [if_pos hAssigns, hArea, byteLength_append]
      exact hFound
    · rw [if_neg hAssigns]
      have hNo : ∀ area, trimStart (afterWord cs) ≠ '=' :: area := by
        intro area hArea
        rw [hArea] at hAssigns
        exact hAssigns rfl
      split
      · rename_i area hArea
        exact absurd hArea (hNo area)
      · exact finds_pure none

theorem read?_eq_bind (cs : List Char) :
    Directive.read? cs = (afterOpening? cs).bind Directive.behindSet? := by
  unfold Directive.read?
  split
  · rfl
  · rename_i hNo
    have hNone : afterOpening? cs = none := by
      unfold afterOpening?
      split
      · exact absurd rfl (hNo _)
      · rfl
    rw [hNone]
    rfl

theorem eq_of_afterOpening? (hOpening : afterOpening? cs = some ds) :
    cs = Directive.opening ++ ds := by
  unfold afterOpening? at hOpening
  split at hOpening
  · cases hOpening
    rfl
  · cases hOpening

/-- What is found behind the opening of a directive is what is read there. -/
theorem namedAt?_eq (hBlanks : Directive.blanks cs ≠ []) :
    namedAt? (Directive.opening ++ Directive.blanks cs) (trimStart cs) =
      (Directive.behindSet? cs).map fun p => Found.of p.1 := by
  by_cases hEquals : ∃ area, trimStart (afterWord (trimStart cs)) = '=' :: area
  · obtain ⟨area, hArea⟩ := hEquals
    rw [namedAt?, Directive.behindSet?, List.isEmpty_eq_false_iff.mpr hBlanks, Bool.false_or]
    split
    · rfl
    · simp only [hArea, Option.map_map]
      refine congrArg (fun f => Option.map f _) (funext fun p => ?_)
      obtain ⟨indent, value, rest⟩ := p
      -- The directive is its opening, what has been scanned up to the value, the value and a brace.
      simp only [Found.upTo, Function.comp, Found.of, Directive.target, Directive.source,
        byteLength_append, byteLength_cons, byteLength_nil]
      congr 1
      have hClose : Char.utf8Size '\x7d' = 1 := rfl
      omega
  · have hNothing : Directive.behindSet? cs = none := by
      rw [Directive.behindSet?]
      split
      · rfl
      · split
        · rename_i area hArea
          exact absurd ⟨area, hArea⟩ hEquals
        · rfl
    rw [namedAt?, hNothing]
    split
    · rfl
    · split
      · rename_i area hArea
        exact absurd ⟨area, hArea⟩ hEquals
      · rfl

/-- The scan for a directive computes borders only and finds what is read. -/
theorem finds_directive (s : String) :
    (directive? s).Finds ((Directive.read? s.toList).map fun p => Found.of p.1) := by
  rw [directive?, read?_eq_bind]
  cases hOpening : afterOpening? s.toList with
  | none => exact finds_pure none
  | some cs =>
    have hText := eq_of_afterOpening? hOpening
    have hSize :
        s.utf8ByteSize - (String.ofList cs).utf8ByteSize = byteLength Directive.opening := by
      rw [← byteLength_toList, hText, byteLength_append]
      exact Nat.add_sub_cancel _ _
    have hNamed : s.toList = (Directive.opening ++ Directive.blanks cs) ++ trimStart cs := by
      rw [List.append_assoc, Directive.blanks_append_trimStart, hText]
    have hFound := finds_named hNamed
    rw [byteLength_append] at hFound
    simp only [hSize, leadingBlanks_eq, String.toList_ofList]
    show Finds (if byteLength (Directive.blanks cs) = 0 then _ else _) _
    by_cases hBlanks : Directive.blanks cs = []
    · rw [if_pos (byteLength_eq_zero_iff.mpr hBlanks)]
      have hNone : Directive.behindSet? cs = none := by
        rw [Directive.behindSet?, hBlanks]
        rfl
      rw [Option.bind_some, hNone]
      exact finds_pure none
    · rw [if_neg (mt byteLength_eq_zero_iff.mp hBlanks), Option.bind_some, ← namedAt?_eq hBlanks]
      exact hFound

/-- A directive takes at least one byte. -/
theorem size_pos {d : Found} (hResult : (directive? s).result = some (some d)) : 0 < d.size := by
  rw [(finds_directive s).result_eq, Option.some_inj] at hResult
  obtain ⟨p, -, rfl⟩ := Option.map_eq_some_iff.mp hResult
  have hOpening : byteLength Directive.opening = 4 := rfl
  simp only [Found.of, Directive.source, byteLength_append, hOpening]
  omega

end Directives

end Scan

end Gamebook
