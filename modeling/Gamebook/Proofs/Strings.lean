import Gamebook.Json.Basic
import Gamebook.Json.Text

/-!
# Gamebook — the grammar of strings

Between the quotes of a JSON string a character stands for itself, or it is
written as an escape: a short one, the four hexadecimal digits of its code, or
two of these, which are the halves of a surrogate pair.

* `CharAs`, `SpelledAs` — the ways to write a character and a text.
* `readString_append`, `spelledAs_of_readString` — what is read is what is spelled.
* `skipString_append` — what can be read can be passed over.
* `spelledAs_writeString` — what is written is spelled.
* `range_of_spelledAs` — the characters of a spelling are those of the text, and
  those that escapes are written with.
-/

namespace Gamebook.Json

variable {c mark : Char} {cs body text rest contents : List Char} {n : Nat}

-- ---------------------------------------------------------------------------
-- The grammar
-- ---------------------------------------------------------------------------

/-- The short escapes: the character behind the backslash, and what it stands for. -/
def shortEscapes : List (Char × Char) :=
  [('"', '"'), ('\\', '\\'), ('/', '/'), ('b', '\x08'), ('f', '\x0c'), ('n', '\n'), ('r', '\r'),
    ('t', '\t')]

/-- The ways to write a character between the quotes. -/
inductive CharAs : Char → List Char → Prop
  /-- Anything but a quote, a backslash and the control characters stands for itself. -/
  | plain {c : Char} (hQuote : c ≠ '"') (hSlash : c ≠ '\\') (hControl : 0x20 ≤ c.toNat) :
      CharAs c [c]
  | short {c mark : Char} (hEscape : (mark, c) ∈ shortEscapes) : CharAs c ['\\', mark]
  /-- Four hexadecimal digits that are no half of a pair. -/
  | code {n : Nat} {a₁ a₂ a₃ a₄ : Char} (hUnit : unit? a₁ a₂ a₃ a₄ = some n)
      (hAlone : n < 0xD800 ∨ 0xDFFF < n) : CharAs (Char.ofNat n) ['\\', 'u', a₁, a₂, a₃, a₄]
  /-- The two halves of a pair. -/
  | pair {lead trail : Nat} {a₁ a₂ a₃ a₄ b₁ b₂ b₃ b₄ : Char}
      (hFirst : unit? a₁ a₂ a₃ a₄ = some lead) (hSecond : unit? b₁ b₂ b₃ b₄ = some trail)
      (hLead : 0xD800 ≤ lead ∧ lead ≤ 0xDBFF) (hTrail : 0xDC00 ≤ trail ∧ trail ≤ 0xDFFF) :
      CharAs (Char.ofNat (0x10000 + (lead - 0xD800) * 0x400 + (trail - 0xDC00)))
        ['\\', 'u', a₁, a₂, a₃, a₄, '\\', 'u', b₁, b₂, b₃, b₄]

/-- The ways to write a text between the quotes. -/
inductive SpelledAs : List Char → List Char → Prop
  | nil : SpelledAs [] []
  | cons {c : Char} {contents text body : List Char} (hChar : CharAs c text)
      (hRest : SpelledAs contents body) : SpelledAs (c :: contents) (text ++ body)

/-- The text is a JSON string with these contents. -/
def StringAs (contents cs : List Char) : Prop :=
  ∃ body, SpelledAs contents body ∧ cs = '"' :: (body ++ ['"'])

theorem escaped?_eq_some_iff : escaped? mark = some c ↔ (mark, c) ∈ shortEscapes := by
  constructor
  · intro hEscape
    unfold escaped? at hEscape
    repeat' split at hEscape
    all_goals cases hEscape
    all_goals simp_all [shortEscapes]
    rename_i hSelf
    rcases hSelf with (hQuote | hSlash) | hSolidus
    · exact Or.inl hQuote
    · exact Or.inr (Or.inl hSlash)
    · exact Or.inr (Or.inr (Or.inl hSolidus))
  · intro hMem
    simp only [shortEscapes, List.mem_cons, Prod.mk.injEq, List.not_mem_nil, or_false] at hMem
    rcases hMem with ⟨rfl, rfl⟩ | ⟨rfl, rfl⟩ | ⟨rfl, rfl⟩ | ⟨rfl, rfl⟩ | ⟨rfl, rfl⟩ | ⟨rfl, rfl⟩ |
      ⟨rfl, rfl⟩ | ⟨rfl, rfl⟩ <;> rfl

theorem isLead_iff : isLead n = true ↔ 0xD800 ≤ n ∧ n ≤ 0xDBFF := by
  rw [isLead, Bool.and_eq_true, decide_eq_true_eq, decide_eq_true_eq]

theorem isTrail_iff : isTrail n = true ↔ 0xDC00 ≤ n ∧ n ≤ 0xDFFF := by
  rw [isTrail, Bool.and_eq_true, decide_eq_true_eq, decide_eq_true_eq]

-- ---------------------------------------------------------------------------
-- What is spelled is read
-- ---------------------------------------------------------------------------

theorem readString_plain (hQuote : c ≠ '"') (hSlash : c ≠ '\\') (hControl : 0x20 ≤ c.toNat)
    (rest : List Char) : readString none (c :: rest) = push c (readString none rest) := by
  have hLow : ¬ c.toNat < 0x20 := Nat.not_lt.mpr hControl
  conv => lhs; unfold readString
  split
  · rename_i hCons
    cases hCons
  · rename_i hCons
    exact absurd (List.cons.inj hCons).1 hSlash
  · rename_i hCons
    exact absurd (List.cons.inj hCons).1 hSlash
  · rename_i hCons
    exact absurd (List.cons.inj hCons).1 hSlash
  · rename_i hCons
    obtain ⟨rfl, rfl⟩ := List.cons.inj hCons
    simp only [beq_eq_false_iff_ne.mpr hQuote, beq_eq_false_iff_ne.mpr hSlash, if_neg hLow,
      Option.isSome_none, Bool.false_eq_true, if_false]

theorem readString_short (hMark : escaped? mark = some c) (rest : List Char) :
    readString none ('\\' :: mark :: rest) = push c (readString none rest) := by
  have hCode : mark ≠ 'u' := by
    rintro rfl
    cases hMark
  conv => lhs; unfold readString
  simp [hCode, hMark]

theorem readString_code {a₁ a₂ a₃ a₄ : Char} (hUnit : unit? a₁ a₂ a₃ a₄ = some n)
    (rest : List Char) : readString none ('\\' :: 'u' :: a₁ :: a₂ :: a₃ :: a₄ :: rest) =
      if isTrail n then .error .surrogateUnpaired
      else if isLead n then readString (some n) rest
      else push (Char.ofNat n) (readString none rest) := by
  conv => lhs; unfold readString
  simp only [hUnit]

theorem readString_second {lead : Nat} {a₁ a₂ a₃ a₄ : Char} (hUnit : unit? a₁ a₂ a₃ a₄ = some n)
    (rest : List Char) : readString (some lead) ('\\' :: 'u' :: a₁ :: a₂ :: a₃ :: a₄ :: rest) =
      if isTrail n then push (joined lead n) (readString none rest)
      else .error .surrogateUnpaired := by
  conv => lhs; unfold readString
  simp only [hUnit]

/-- A character is read from each of the ways to write it. -/
theorem readString_charAs (hChar : CharAs c text) (rest : List Char) :
    readString none (text ++ rest) = push c (readString none rest) := by
  cases hChar with
  | plain hQuote hSlash hControl => exact readString_plain hQuote hSlash hControl rest
  | short hEscape => exact readString_short (escaped?_eq_some_iff.mpr hEscape) rest
  | @code n a₁ a₂ a₃ a₄ hUnit hAlone =>
    have hLead : isLead n = false := by
      rw [Bool.eq_false_iff, ne_eq, isLead_iff]
      omega
    have hTrail : isTrail n = false := by
      rw [Bool.eq_false_iff, ne_eq, isTrail_iff]
      omega
    simp only [List.cons_append, List.nil_append, readString_code hUnit, hLead, hTrail,
      Bool.false_eq_true, if_false]
  | @pair lead trail a₁ a₂ a₃ a₄ b₁ b₂ b₃ b₄ hFirst hSecond hLead hTrail =>
    have hNoTrail : isTrail lead = false := by
      rw [Bool.eq_false_iff, ne_eq, isTrail_iff]
      omega
    simp only [List.cons_append, List.nil_append, readString_code hFirst, hNoTrail,
      isLead_iff.mpr hLead, readString_second hSecond, isTrail_iff.mpr hTrail, Bool.false_eq_true,
      if_false, if_true, joined]

/-- A spelled text is read up to the quote behind it. -/
theorem readString_append (hSpelled : SpelledAs contents body) (rest : List Char) :
    readString none (body ++ '"' :: rest) = .ok (contents, rest) := by
  induction hSpelled with
  | nil => rw [List.nil_append, readString.eq_def]; rfl
  | cons hChar _ ih =>
    rw [List.append_assoc, readString_charAs hChar, ih]
    rfl

theorem skipString_plain (hQuote : c ≠ '"') (hSlash : c ≠ '\\') (hControl : 0x20 ≤ c.toNat)
    (rest : List Char) : skipString (c :: rest) = skipString rest := by
  have hLow : ¬ c.toNat < 0x20 := Nat.not_lt.mpr hControl
  conv => lhs; unfold skipString
  split
  · rename_i hCons
    cases hCons
  · rename_i hCons
    exact absurd (List.cons.inj hCons).1 hSlash
  · rename_i hCons
    exact absurd (List.cons.inj hCons).1 hSlash
  · rename_i hCons
    exact absurd (List.cons.inj hCons).1 hSlash
  · rename_i hCons
    obtain ⟨rfl, rfl⟩ := List.cons.inj hCons
    simp only [beq_eq_false_iff_ne.mpr hQuote, beq_eq_false_iff_ne.mpr hSlash, if_neg hLow,
      Bool.false_eq_true, if_false]

theorem skipString_short (hMark : escaped? mark = some c) (rest : List Char) :
    skipString ('\\' :: mark :: rest) = skipString rest := by
  have hCode : mark ≠ 'u' := by
    rintro rfl
    cases hMark
  conv => lhs; unfold skipString
  simp [hCode, hMark]

theorem skipString_charAs (hChar : CharAs c text) (rest : List Char) :
    skipString (text ++ rest) = skipString rest := by
  cases hChar with
  | plain hQuote hSlash hControl => exact skipString_plain hQuote hSlash hControl rest
  | short hEscape => exact skipString_short (escaped?_eq_some_iff.mpr hEscape) rest
  | code hUnit _ => simp only [List.cons_append, List.nil_append, skipString, hUnit]
  | pair hFirst hSecond _ _ =>
    simp only [List.cons_append, List.nil_append, skipString, hFirst, hSecond]

theorem skipString_append (hSpelled : SpelledAs contents body) (rest : List Char) :
    skipString (body ++ '"' :: rest) = .ok rest := by
  induction hSpelled with
  | nil => rw [List.nil_append, skipString.eq_def]; rfl
  | cons hChar _ ih => rw [List.append_assoc, skipString_charAs hChar, ih]

-- ---------------------------------------------------------------------------
-- What is read is spelled
-- ---------------------------------------------------------------------------

/-- What is pushed was read behind the character. -/
theorem push_eq_ok {r : Except Error (List Char × List Char)}
    (hPush : push c r = .ok (contents, rest)) :
    ∃ contents', contents = c :: contents' ∧ r = .ok (contents', rest) := by
  cases r with
  | error e => cases hPush
  | ok p =>
    cases hPush
    exact ⟨p.1, rfl, rfl⟩

/-- What a text has to look like for its contents to be read. Behind the first half of a pair it
goes on with the second half. -/
def Reads (contents cs rest : List Char) : Option Nat → Prop
  | none => ∃ body, SpelledAs contents body ∧ cs = body ++ '"' :: rest
  | some lead => ∃ trail b₁ b₂ b₃ b₄ contents' body, unit? b₁ b₂ b₃ b₄ = some trail ∧
      isTrail trail = true ∧ contents = joined lead trail :: contents' ∧
      SpelledAs contents' body ∧ cs = '\\' :: 'u' :: b₁ :: b₂ :: b₃ :: b₄ :: (body ++ '"' :: rest)

theorem reads_cons (hChar : CharAs c text) (hRest : Reads contents cs rest none) :
    Reads (c :: contents) (text ++ cs) rest none := by
  obtain ⟨body, hSpelled, rfl⟩ := hRest
  exact ⟨text ++ body, .cons hChar hSpelled, (List.append_assoc _ _ _).symm⟩

theorem reads_of_readString {lead : Option Nat}
    (hRead : readString lead cs = .ok (contents, rest)) : Reads contents cs rest lead := by
  -- On the calls of the reader; the ones that are left out end in an error.
  fun_induction readString lead cs generalizing contents rest with
  | case3 b₁ b₂ b₃ b₄ behind trail first hUnit hTrail ih =>
    obtain ⟨contents', rfl, hTail⟩ := push_eq_ok hRead
    obtain ⟨body, hSpelled, rfl⟩ := ih hTail
    exact ⟨trail, b₁, b₂, b₃, b₄, contents', body, hUnit, hTrail, rfl, hSpelled, rfl⟩
  | case6 a₁ a₂ a₃ a₄ behind first hUnit _ hLead ih =>
    obtain ⟨trail, b₁, b₂, b₃, b₄, contents', body, hSecond, hTrail, rfl, hSpelled, rfl⟩ :=
      ih hRead
    have hPair := CharAs.pair hUnit hSecond (isLead_iff.mp hLead) (isTrail_iff.mp hTrail)
    exact reads_cons hPair ⟨body, hSpelled, rfl⟩
  | case7 a₁ a₂ a₃ a₄ behind n hUnit hTrail hLead ih =>
    obtain ⟨contents', rfl, hTail⟩ := push_eq_ok hRead
    rw [isTrail_iff] at hTrail
    rw [isLead_iff] at hLead
    exact reads_cons (.code hUnit (by omega)) (ih hTail)
  | case11 lead c behind _ _ _ hLead hQuote =>
    cases hRead
    cases lead with
    | some first => exact absurd rfl hLead
    | none =>
      rw [beq_iff_eq] at hQuote
      exact ⟨[], .nil, by rw [hQuote, List.nil_append]⟩
  | case13 lead c hLead _ hSlash mark behind x hEscape _ _ _ ih =>
    obtain ⟨contents', rfl, hTail⟩ := push_eq_ok hRead
    cases lead with
    | some first => exact absurd rfl hLead
    | none =>
      rw [beq_iff_eq] at hSlash
      rw [hSlash]
      exact reads_cons (.short (escaped?_eq_some_iff.mp hEscape)) (ih hTail)
  | case16 lead c behind _ _ _ hLead hQuote hSlash hControl ih =>
    obtain ⟨contents', rfl, hTail⟩ := push_eq_ok hRead
    cases lead with
    | some first => exact absurd rfl hLead
    | none =>
      rw [beq_iff_eq] at hQuote hSlash
      exact reads_cons (.plain hQuote hSlash (Nat.not_lt.mp hControl)) (ih hTail)
  | _ => cases hRead

/-- What is read was spelled in front of a quote. -/
theorem spelledAs_of_readString (hRead : readString none cs = .ok (contents, rest)) :
    ∃ body, SpelledAs contents body ∧ cs = body ++ '"' :: rest :=
  reads_of_readString hRead

-- ---------------------------------------------------------------------------
-- Whole strings
-- ---------------------------------------------------------------------------

/-- The string behind an opening quote: its contents are read, and so it is passed over. -/
theorem scan_append (hSpelled : SpelledAs contents body) (rest : List Char) :
    StringText.scan (body ++ '"' :: rest) = (⟨.ok (String.ofList contents), .ok ()⟩, rest) := by
  rw [StringText.scan, readString_append hSpelled, skipString_append hSpelled]
  rfl

/-- A string whose contents can be read was spelled, and what follows it is what is left. -/
theorem spelledAs_of_scan {s : String} (hContents : (StringText.scan cs).1.contents = .ok s) :
    ∃ contents body, s = String.ofList contents ∧ SpelledAs contents body ∧
      cs = body ++ '"' :: (StringText.scan cs).2 := by
  cases hRead : readString none cs with
  | error e =>
    have hFault : (StringText.scan cs).1.contents = .error e := by
      unfold StringText.scan
      rw [hRead]
      split <;> rfl
    rw [hFault] at hContents
    cases hContents
  | ok p =>
    obtain ⟨contents, rest⟩ := p
    obtain ⟨body, hSpelled, rfl⟩ := spelledAs_of_readString hRead
    rw [scan_append hSpelled] at hContents ⊢
    cases hContents
    exact ⟨contents, body, rfl, hSpelled, rfl⟩

theorem hexDigit?_hexDigit : ∀ d < 16, hexDigit? (hexDigit d) = some d := by
  decide

/-- The code of a control character. -/
theorem unit?_control (hControl : n < 0x20) :
    unit? '0' '0' (hexDigit (n / 16)) (hexDigit (n % 16)) = some n := by
  have hZero : hexDigit? '0' = some 0 := rfl
  have hHigh := hexDigit?_hexDigit (n / 16) (by omega)
  have hLow := hexDigit?_hexDigit (n % 16) (by omega)
  simp only [unit?, hZero, hHigh, hLow, bind, Option.bind, Option.some.injEq]
  omega

theorem charAs_of_beq {x : Char} (hEq : (c == x) = true) (hEscape : (mark, x) ∈ shortEscapes) :
    CharAs c ['\\', mark] := by
  rw [beq_iff_eq] at hEq
  rw [hEq]
  exact .short hEscape

/-- What is written between the quotes for a character is one of the ways to write it. -/
theorem charAs_writeChar (c : Char) : CharAs c (writeChar c) := by
  unfold writeChar
  split
  · exact charAs_of_beq ‹_› (by decide)
  rename_i hQuote
  split
  · exact charAs_of_beq ‹_› (by decide)
  rename_i hSlash
  split
  · exact charAs_of_beq ‹_› (by decide)
  split
  · exact charAs_of_beq ‹_› (by decide)
  split
  · exact charAs_of_beq ‹_› (by decide)
  split
  · exact charAs_of_beq ‹_› (by decide)
  split
  · exact charAs_of_beq ‹_› (by decide)
  split
  · rename_i hControl
    have hCode := CharAs.code (unit?_control hControl) (by omega)
    rwa [Char.ofNat_toNat] at hCode
  · rename_i hControl
    rw [beq_iff_eq] at hQuote hSlash
    exact .plain hQuote hSlash (Nat.not_lt.mp hControl)

theorem spelledAs_writeString (cs : List Char) : SpelledAs cs (cs.flatMap writeChar) := by
  induction cs with
  | nil => exact .nil
  | cons c cs ih =>
    rw [List.flatMap_cons]
    exact .cons (charAs_writeChar c) ih

-- ---------------------------------------------------------------------------
-- The characters of a spelling
-- ---------------------------------------------------------------------------

theorem range_of_hexDigit? (hDigit : hexDigit? c = some n) : 0x20 ≤ c.toNat ∧ c.toNat < 0x7b := by
  have hZero : '0'.toNat = 48 ∧ '9'.toNat = 57 := ⟨rfl, rfl⟩
  have hLower : 'a'.toNat = 97 ∧ 'f'.toNat = 102 := ⟨rfl, rfl⟩
  have hUpper : 'A'.toNat = 65 ∧ 'F'.toNat = 70 := ⟨rfl, rfl⟩
  unfold hexDigit? at hDigit
  simp only [Bool.and_eq_true, decide_eq_true_eq] at hDigit
  repeat' split at hDigit
  · omega
  · omega
  · omega
  · cases hDigit

theorem range_of_unit? {a₁ a₂ a₃ a₄ : Char} (hUnit : unit? a₁ a₂ a₃ a₄ = some n) :
    ∀ c ∈ [a₁, a₂, a₃, a₄], 0x20 ≤ c.toNat ∧ c.toNat < 0x7b := by
  unfold unit? at hUnit
  simp only [bind, Option.bind_eq_some_iff] at hUnit
  obtain ⟨n₁, h₁, n₂, h₂, n₃, h₃, n₄, h₄, -⟩ := hUnit
  rw [List.forall_mem_cons, List.forall_mem_cons, List.forall_mem_cons, List.forall_mem_singleton]
  exact ⟨range_of_hexDigit? h₁, range_of_hexDigit? h₂, range_of_hexDigit? h₃, range_of_hexDigit? h₄⟩

/-- A character that is not written as itself is written with characters between the control
characters and the braces. -/
theorem range_of_charAs (hChar : CharAs c text) :
    (text = [c] ∧ 0x20 ≤ c.toNat) ∨ ∀ c' ∈ text, 0x20 ≤ c'.toNat ∧ c'.toNat < 0x7b := by
  have hEscape : ∀ c' ∈ ['\\', 'u'], 0x20 ≤ c'.toNat ∧ c'.toNat < 0x7b := by
    rw [List.forall_mem_cons, List.forall_mem_singleton]
    decide
  cases hChar with
  | plain _ _ hControl => exact Or.inl ⟨rfl, hControl⟩
  | @short c mark hShort =>
    have hMarks : ∀ escape ∈ shortEscapes, 0x20 ≤ escape.1.toNat ∧ escape.1.toNat < 0x7b := by
      decide
    right
    rw [List.forall_mem_cons, List.forall_mem_singleton]
    exact ⟨by decide, hMarks _ hShort⟩
  | code hUnit _ => exact Or.inr (List.forall_mem_append.mpr ⟨hEscape, range_of_unit? hUnit⟩)
  | pair hFirst hSecond _ _ =>
    have hHalf : ∀ {a₁ a₂ a₃ a₄ : Char} {n : Nat}, unit? a₁ a₂ a₃ a₄ = some n →
        ∀ c' ∈ ['\\', 'u'] ++ [a₁, a₂, a₃, a₄], 0x20 ≤ c'.toNat ∧ c'.toNat < 0x7b :=
      fun hUnit => List.forall_mem_append.mpr ⟨hEscape, range_of_unit? hUnit⟩
    exact Or.inr (List.forall_mem_append.mpr ⟨hHalf hFirst, hHalf hSecond⟩)

/-- The characters of a spelling are those of the text, and those that escapes are written with. -/
theorem range_of_spelledAs (hSpelled : SpelledAs contents body) :
    ∀ c ∈ body, 0x20 ≤ c.toNat ∧ (c ∈ contents ∨ c.toNat < 0x7b) := by
  induction hSpelled with
  | nil => exact List.forall_mem_nil _
  | @cons c contents text body hChar _ ih =>
    intro c' hMem
    rcases List.mem_append.mp hMem with hText | hBody
    · rcases range_of_charAs hChar with ⟨rfl, hControl⟩ | hRange
      · rw [List.mem_singleton.mp hText]
        exact ⟨hControl, Or.inl List.mem_cons_self⟩
      · exact ⟨(hRange c' hText).1, Or.inr (hRange c' hText).2⟩
    · obtain ⟨hControl, hContents | hLow⟩ := ih c' hBody
      · exact ⟨hControl, Or.inl (List.mem_cons_of_mem c hContents)⟩
      · exact ⟨hControl, Or.inr hLow⟩

end Gamebook.Json
