import Gamebook.Text.Blank

/-!
# Gamebook — words and lines

* `isWordChar` — the characters of a variable name.
* `isLineEnd` — the characters that end a line inside a template.
* `word`, `afterWord` — the leading run of word characters and what follows it.
* `takeWhile_run`, `dropWhile_run` — where the leading run of a class ends.
-/

namespace Gamebook.Text

/-- A character of a variable name: an ASCII letter, an ASCII digit or `_`. -/
def isWordChar (c : Char) : Bool := c.isAlphanum || c == '_'

/-- A character that ends a line: line feed, carriage return, line separator or
paragraph separator. -/
def isLineEnd (c : Char) : Bool :=
  c == '\n' || c == '\r' || c == '\u2028' || c == '\u2029'

/-- The leading run of word characters. -/
def word (cs : List Char) : List Char := cs.takeWhile isWordChar

/-- What follows the leading run of word characters. -/
def afterWord (cs : List Char) : List Char := cs.dropWhile isWordChar

/-- Nothing is lost between the leading word and what follows. -/
theorem word_append_afterWord (cs : List Char) : word cs ++ afterWord cs = cs :=
  List.takeWhile_append_dropWhile

theorem isWordChar_of_mem_word {c : Char} {cs : List Char} (h : c ∈ word cs) :
    isWordChar c = true :=
  List.all_eq_true.1 List.all_takeWhile c h

/-- No word character is a blank. -/
theorem isBlank_eq_false_of_isWordChar {c : Char} (h : isWordChar c = true) :
    isBlank c = false := by
  have hRange : c.toNat = 95 ∨ 48 ≤ c.toNat ∧ c.toNat ≤ 57 ∨ 65 ≤ c.toNat ∧ c.toNat ≤ 90 ∨
      97 ≤ c.toNat ∧ c.toNat ≤ 122 := by
    have hClasses : isWordChar c = (((decide (c.val ≥ 65 ∧ c.val ≤ 90) ||
        (c.val ≥ 97 && c.val ≤ 122)) || (c.val ≥ 48 && c.val ≤ 57)) || c == '_') := rfl
    simp only [hClasses, Bool.or_eq_true, Bool.and_eq_true, decide_eq_true_eq, beq_iff_eq,
      UInt32.le_iff_toNat_le, ge_iff_le] at h
    rcases h with ((hUpper | hLower) | hDigit) | rfl
    · exact Or.inr (Or.inr (Or.inl hUpper))
    · exact Or.inr (Or.inr (Or.inr hLower))
    · exact Or.inr (Or.inl hDigit)
    · exact Or.inl rfl
  rw [Bool.eq_false_iff, isBlank]
  simp only [ne_eq, Bool.or_eq_true, Bool.and_eq_true, decide_eq_true_eq, beq_iff_eq]
  omega

theorem isWordChar_eq_false_of_isBlank {c : Char} (h : isBlank c = true) :
    isWordChar c = false := by
  rw [Bool.eq_false_iff]
  intro hWord
  rw [isBlank_eq_false_of_isWordChar hWord] at h
  cases h

/-! ## Runs -/

/-- A run of characters ends where one is met that does not belong to it. -/
theorem takeWhile_run {p : Char → Bool} {run rest : List Char} (h : ∀ c ∈ run, p c = true)
    (hstop : ∀ c, rest.head? = some c → p c = false) : (run ++ rest).takeWhile p = run := by
  rw [List.takeWhile_append_of_pos h]
  cases rest with
  | nil => rw [List.takeWhile_nil, List.append_nil]
  | cons c rest =>
    rw [List.takeWhile_cons_of_neg (Bool.eq_false_iff.1 (hstop c rfl)), List.append_nil]

theorem dropWhile_run {p : Char → Bool} {run rest : List Char} (h : ∀ c ∈ run, p c = true)
    (hstop : ∀ c, rest.head? = some c → p c = false) : (run ++ rest).dropWhile p = rest := by
  rw [List.dropWhile_append_of_pos h]
  cases rest with
  | nil => rfl
  | cons c rest => exact List.dropWhile_cons_of_neg (Bool.eq_false_iff.1 (hstop c rfl))

end Gamebook.Text
