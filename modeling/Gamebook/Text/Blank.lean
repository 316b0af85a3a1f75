/-!
# Gamebook — blank characters

* `isBlank` — the characters with the Unicode property `White_Space`.
* `trim`, `trimmed` — a text without the blanks at its two ends.

Blanks separate the parts of a directive and surround literals, names and
player input; all of these use this one class.
-/

namespace Gamebook.Text

/-- A character with the Unicode property `White_Space`. -/
def isBlank (c : Char) : Bool :=
  (0x09 ≤ c.toNat && c.toNat ≤ 0x0D) || c.toNat == 0x20 || c.toNat == 0x85 ||
    c.toNat == 0xA0 || c.toNat == 0x1680 || (0x2000 ≤ c.toNat && c.toNat ≤ 0x200A) ||
    c.toNat == 0x2028 || c.toNat == 0x2029 || c.toNat == 0x202F || c.toNat == 0x205F ||
    c.toNat == 0x3000

/-- The text from its first non-blank character on. -/
def trimStart (cs : List Char) : List Char := cs.dropWhile isBlank

/-- The text up to its last non-blank character. -/
def trimEnd (cs : List Char) : List Char := (cs.reverse.dropWhile isBlank).reverse

/-- The text without the blanks at its two ends. -/
def trim (cs : List Char) : List Char := trimEnd (trimStart cs)

def trimmed (s : String) : String := String.ofList (trim s.toList)

/-- No blank is left at the front. -/
theorem isBlank_of_head?_trimStart {c : Char} {cs : List Char}
    (hHead : (trimStart cs).head? = some c) : isBlank c = false := by
  have hFirst := List.head?_dropWhile_not isBlank cs
  unfold trimStart at hHead
  rw [hHead] at hFirst
  exact hFirst

/-- Trimming the start does not reach past a character that is no blank. -/
theorem trimStart_append {c : Char} (h : isBlank c = false) (before behind : List Char) :
    trimStart (before ++ c :: behind) = trimStart before ++ c :: behind := by
  unfold trimStart
  induction before with
  | nil => exact List.dropWhile_cons_of_neg (Bool.eq_false_iff.1 h)
  | cons b before ih =>
    rw [List.cons_append, List.dropWhile_cons, List.dropWhile_cons]
    split
    · exact ih
    · rfl

theorem trimEnd_append {c : Char} (h : isBlank c = false) (before behind : List Char) :
    trimEnd (before ++ c :: behind) = before ++ c :: trimEnd behind := by
  have hback := trimStart_append h behind.reverse before.reverse
  unfold trimStart at hback
  simp only [trimEnd, List.reverse_append, List.reverse_cons, List.append_assoc,
    List.singleton_append, hback, List.reverse_reverse]

/-! ## Blanks around a text -/

variable {blanks cs : List Char}

theorem trimStart_append_left (h : ∀ c ∈ blanks, isBlank c = true) (cs : List Char) :
    trimStart (blanks ++ cs) = trimStart cs :=
  List.dropWhile_append_of_pos h

theorem trimEnd_append_right (h : ∀ c ∈ blanks, isBlank c = true) (cs : List Char) :
    trimEnd (cs ++ blanks) = trimEnd cs := by
  have hback : ∀ c ∈ blanks.reverse, isBlank c = true := fun c hc => h c (List.mem_reverse.1 hc)
  rw [trimEnd, List.reverse_append, List.dropWhile_append_of_pos hback, trimEnd]

/-- Blanks in front of a text are trimmed away. -/
theorem trim_append_left (h : ∀ c ∈ blanks, isBlank c = true) (cs : List Char) :
    trim (blanks ++ cs) = trim cs := by
  rw [trim, trimStart_append_left h, trim]

/-- Blanks behind a text are trimmed away. -/
theorem trim_append_right (h : ∀ c ∈ blanks, isBlank c = true) (cs : List Char) :
    trim (cs ++ blanks) = trim cs := by
  rw [trim, trim, trimStart, List.dropWhile_append]
  split
  · rename_i hnone
    -- Both texts are nothing but blanks.
    have hblanks : trimStart blanks = [] := by
      have hall := trimStart_append_left h []
      rwa [List.append_nil] at hall
    rw [trimStart, List.isEmpty_iff.1 hnone]
    exact congrArg trimEnd hblanks
  · exact trimEnd_append_right h _

/-- A text between two characters that are no blanks has nothing to trim away. -/
theorem trim_between {a b : Char} (ha : isBlank a = false) (hb : isBlank b = false)
    (cs : List Char) : trim (a :: (cs ++ [b])) = a :: (cs ++ [b]) := by
  have hstart : trimStart (a :: (cs ++ [b])) = a :: (cs ++ [b]) := trimStart_append ha [] _
  rw [trim, hstart]
  exact trimEnd_append hb (a :: cs) []

end Gamebook.Text
