import Gamebook.Literal
import Gamebook.Proofs.SyntaxTree

/-!
# Gamebook — the grammar of literals

What a literal is depends on the text between the blanks around it. `null`, the
two truth values, the numbers and the strings of JSON write a value; every other
text stands for itself. A number is a number however large it is: one that the
reader of JSON refuses as out of range is recognized a second time, by a
function that cuts the text apart, and read to the nearest number.

* `Value.LiteralAs` — the texts that write a value.
* `ofLiteral_of_literalAs`, `ofLiteral_of_plain` — what a literal is, and what it is otherwise.
* `ofLiteral_eq_null_iff`, `ofLiteral_eq_bool_iff`, `exists_ofLiteral_eq_number_iff` — the texts of
  each kind.
* `ofLiteral_follows_grammar` — the kinds of literals, each by its texts.
* `ofLiteral_ne_notANumber` — a literal is a proper number if it is a number.
-/

namespace Gamebook

open Json

-- ---------------------------------------------------------------------------
-- Blanks at the ends
-- ---------------------------------------------------------------------------

namespace Text

variable {c : Char} {cs : List Char}

theorem isBlank_of_head?_trim (hHead : (trim cs).head? = some c) : isBlank c = false := by
  have hPrefix : trim cs <+: trimStart cs := by
    unfold trim trimEnd
    rw [← List.reverse_suffix, List.reverse_reverse]
    exact List.dropWhile_suffix isBlank
  obtain ⟨behind, hBehind⟩ := hPrefix
  have hFirst : (trimStart cs).head? = some c := by
    rw [← hBehind, List.head?_append, hHead]
    rfl
  exact isBlank_of_head?_trimStart hFirst

theorem isBlank_of_getLast?_trim (hLast : (trim cs).getLast? = some c) : isBlank c = false := by
  unfold trim trimEnd at hLast
  rw [List.getLast?_reverse] at hLast
  exact isBlank_of_head?_trimStart hLast

/-- The blanks between tokens are blanks. -/
theorem isSpace_of_isBlank (hBlank : isBlank c = false) : isSpace c = false := by
  rw [Bool.eq_false_iff] at hBlank ⊢
  intro hSpace
  simp only [isSpace, Bool.or_eq_true, beq_iff_eq] at hSpace
  refine hBlank ?_
  rcases hSpace with ((rfl | rfl) | rfl) | rfl <;> rfl

end Text

-- ---------------------------------------------------------------------------
-- The numbers that are written
-- ---------------------------------------------------------------------------

namespace Number

theorem ofDecimal_ne_notANumber (negative : Bool) (digits : Nat) (exponent : Int) :
    ofDecimal negative digits exponent ≠ .notANumber := by
  unfold ofDecimal
  split
  · exact nofun
  split
  · exact nofun
  split
  · exact nofun
  split
  · exact ofMagnitude?_ne_notANumber _ _
  · exact ofMagnitude?_ne_notANumber _ _

end Number

namespace Numeral

variable {n : Numeral}

/-- The number that a literal numeral is: the one it is read to, or the nearest one if that is
out of range. -/
def value (n : Numeral) : Number :=
  match n.read with
  | .ok reading => reading.number
  | .error _ => n.nearest

theorem inRange_ne_notANumber {negative : Bool} {size : Option Magnitude} {x : Number}
    (hRead : inRange negative size = .ok x) : x ≠ .notANumber := by
  cases size with
  | none => cases hRead
  | some m =>
    cases hRead
    exact nofun

theorem readReal_ne_notANumber {x : Number} (hRead : n.readReal = .ok x) : x ≠ .notANumber := by
  unfold readReal at hRead
  simp only at hRead
  split at hRead
  · split at hRead
    · cases hRead
      exact nofun
    · cases hRead
  · exact inRange_ne_notANumber hRead

theorem read_ne_notANumber {reading : Reading} (hRead : n.read = .ok reading) :
    reading.number ≠ .notANumber := by
  unfold read at hRead
  simp only at hRead
  split at hRead
  · repeat' split at hRead
    all_goals cases hRead
    · exact Number.ofInt_ne_notANumber _
    · exact nofun
    · exact Number.ofInt_ne_notANumber _
    · exact Number.ofInt_ne_notANumber _
  · cases hReal : n.readReal with
    | error e =>
      rw [hReal] at hRead
      cases hRead
    | ok x =>
      rw [hReal] at hRead
      cases hRead
      exact readReal_ne_notANumber hReal

theorem value_ne_notANumber (n : Numeral) : n.value ≠ .notANumber := by
  unfold value
  split
  · exact read_ne_notANumber ‹_›
  · exact Number.ofDecimal_ne_notANumber _ _ _

end Numeral

-- ---------------------------------------------------------------------------
-- The grammar
-- ---------------------------------------------------------------------------

namespace Value

/-- The texts that write a value other than themselves. -/
inductive LiteralAs : Value → List Char → Prop
  | null : LiteralAs .null "null".toList
  | bool (b : Bool) : LiteralAs (.bool b) (if b then "true" else "false").toList
  | number {n : Numeral} {cs : List Char} (hText : n.WrittenAs cs) : LiteralAs (.number n.value) cs
  | text {contents cs : List Char} (hText : StringAs contents cs) :
      LiteralAs (.text (String.ofList contents)) cs

variable {raw : String} {v : Value}

/-- A scalar that is checked writes the value that it is. -/
theorem literalAs_of_scalarAs {tree : Syntax} {cs : List Char} (hText : ScalarAs tree cs)
    (hCheck : tree.check depthLimit = .ok ()) : ∃ v, ofScalar? tree = some v ∧ LiteralAs v cs := by
  cases hText with
  | null => exact ⟨.null, rfl, .null⟩
  | bool b => exact ⟨.bool b, rfl, .bool b⟩
  | string hString => exact ⟨_, rfl, .text hString⟩
  | @number n text hNumber =>
    cases hRead : n.read with
    | error e =>
      rw [Syntax.check, hRead] at hCheck
      cases hCheck
    | ok reading =>
      refine ⟨.number n.value, ?_, .number hNumber⟩
      rw [ofScalar?, Numeral.value, hRead]
      rfl

/-- A text that writes a scalar which is checked is that scalar. -/
theorem ofLiteral_of_scalarAs {tree : Syntax} {cs : List Char}
    (hChars : (Text.trimmed raw).toList = cs) (hText : ScalarAs tree cs)
    (hCheck : tree.check depthLimit = .ok ()) (hValue : ofScalar? tree = some v) :
    ofLiteral raw = v := by
  rw [← hChars] at hText
  rw [ofLiteral, ofText_of_scalarAs hText, hCheck]
  simp only [Except.map, hValue, Option.getD_some]

/-- **A literal that writes a value is that value.** -/
theorem ofLiteral_of_literalAs (hText : v.LiteralAs (Text.trimmed raw).toList) :
    ofLiteral raw = v := by
  generalize hChars : (Text.trimmed raw).toList = cs at hText
  cases hText with
  | null => exact ofLiteral_of_scalarAs hChars .null rfl rfl
  | bool b => exact ofLiteral_of_scalarAs hChars (.bool b) rfl rfl
  | text hString => exact ofLiteral_of_scalarAs hChars (.string hString) rfl rfl
  | @number n cs hNumber =>
    cases hRead : n.read with
    | ok reading =>
      refine ofLiteral_of_scalarAs hChars (.number hNumber) ?_ ?_
      · rw [Syntax.check, hRead]
        rfl
      · rw [ofScalar?, Numeral.value, hRead]
        rfl
    | error e =>
      -- The reader of JSON refuses the number, and it is recognized anew.
      have hScalar : ScalarAs (.number (.ok n)) (Text.trimmed raw).toList := by
        rw [hChars]
        exact .number hNumber
      have hRefused : Json.ofText Reader.any (Text.trimmed raw) = .error e := by
        rw [ofText_of_scalarAs hScalar, Syntax.check, hRead]
        rfl
      rw [ofLiteral]
      simp only [hRefused]
      rw [hChars, if_pos (isNumeral_iff.mpr ⟨n, hNumber⟩), Numeral.ofPlain?_of_writtenAs hNumber,
        Numeral.value, hRead]

/-- **A literal that writes no value is its own text.** -/
theorem ofLiteral_of_plain (hPlain : ∀ v : Value, ¬ v.LiteralAs (Text.trimmed raw).toList) :
    ofLiteral raw = .text (Text.trimmed raw) := by
  rw [ofLiteral]
  split
  · rename_i tree hRead
    cases hScalar : tree.isScalar with
    | false =>
      cases tree with
      | array | object | broken | fault => rfl
      | null | bool | number | string => cases hScalar
    | true =>
      have hText := scalarAs_of_ofText hRead hScalar
        (fun c hHead => Text.isSpace_of_isBlank (Text.isBlank_of_head?_trim (by
          rwa [Text.trimmed, String.toList_ofList] at hHead)))
        (fun c hLast => Text.isSpace_of_isBlank (Text.isBlank_of_getLast?_trim (by
          rwa [Text.trimmed, String.toList_ofList] at hLast)))
      obtain ⟨_, _, hAny⟩ := ofText_eq_ok_iff.mp hRead
      obtain ⟨hCheck, rfl⟩ := any_eq_ok_iff.mp hAny
      obtain ⟨v, -, hLiteral⟩ := literalAs_of_scalarAs hText hCheck
      exact absurd hLiteral (hPlain v)
  · split
    · rename_i hNumeral
      obtain ⟨n, hNumber⟩ := isNumeral_iff.mp hNumeral
      exact absurd (.number hNumber) (hPlain (.number n.value))
    · rfl

/-- The texts that write a value are told by their first character, or are numbers. -/
theorem head?_of_literalAs {cs : List Char} (hText : v.LiteralAs cs) :
    (∃ c ∈ ['n', 't', 'f', '"'], cs.head? = some c) ∨ isNumeral cs = true := by
  cases hText with
  | null => exact Or.inl ⟨'n', by decide, rfl⟩
  | bool b =>
    cases b with
    | true => exact Or.inl ⟨'t', by decide, rfl⟩
    | false => exact Or.inl ⟨'f', by decide, rfl⟩
  | number hNumber => exact Or.inr (isNumeral_iff.mpr ⟨_, hNumber⟩)
  | text hString =>
    obtain ⟨body, -, rfl⟩ := hString
    exact Or.inl ⟨'"', by decide, rfl⟩

theorem not_literalAs {cs : List Char} (hFirst : ∀ c, cs.head? = some c → c ∉ ['n', 't', 'f', '"'])
    (hNumeral : isNumeral cs = false) (v : Value) : ¬ v.LiteralAs cs := by
  intro hText
  rcases head?_of_literalAs hText with ⟨c, hMem, hHead⟩ | hNumber
  · exact hFirst c hHead hMem
  · rw [hNumeral] at hNumber
    cases hNumber

/-- The text of an array or an object, well formed or not, writes no value. -/
theorem not_literalAs_of_open {cs : List Char}
    (hOpen : cs.head? = some '[' ∨ cs.head? = some '\x7b') (v : Value) : ¬ v.LiteralAs cs := by
  cases cs with
  | nil => rcases hOpen with hOpen | hOpen <;> cases hOpen
  | cons c cs =>
    rw [List.head?_cons] at hOpen
    rcases hOpen with hOpen | hOpen
    · cases hOpen
      refine not_literalAs (fun c hHead => ?_) rfl v
      cases hHead
      decide
    · cases hOpen
      refine not_literalAs (fun c hHead => ?_) rfl v
      cases hHead
      decide

/-- A literal of each kind is written in one way only, so what it is tells how it is written. -/
theorem literalAs_of_ofLiteral (hValue : ofLiteral raw = v)
    (hOther : v ≠ .text (Text.trimmed raw)) : v.LiteralAs (Text.trimmed raw).toList := by
  by_cases hSome : ∃ w : Value, w.LiteralAs (Text.trimmed raw).toList
  · obtain ⟨w, hText⟩ := hSome
    rw [← hValue, ofLiteral_of_literalAs hText]
    exact hText
  · refine absurd ?_ hOther
    rw [← hValue]
    exact ofLiteral_of_plain (not_exists.mp hSome)

/-- A literal that is a number is the number of its numeral. -/
theorem exists_numeral_of_ofLiteral {x : Number} (hNumber : ofLiteral raw = .number x) :
    ∃ n : Numeral, n.WrittenAs (Text.trimmed raw).toList ∧ x = n.value := by
  have hText := literalAs_of_ofLiteral hNumber nofun
  cases hText with
  | number hText => exact ⟨_, hText, rfl⟩

theorem ofLiteral_eq_null_iff : ofLiteral raw = .null ↔ Text.trimmed raw = "null" := by
  constructor
  · intro hNull
    have hText := literalAs_of_ofLiteral hNull nofun
    generalize hChars : (Text.trimmed raw).toList = cs at hText
    cases hText
    exact String.toList_injective hChars
  · intro hText
    exact ofLiteral_of_literalAs (by rw [hText]; exact .null)

theorem ofLiteral_eq_bool_iff {b : Bool} :
    ofLiteral raw = .bool b ↔ Text.trimmed raw = if b then "true" else "false" := by
  constructor
  · intro hBool
    have hText := literalAs_of_ofLiteral hBool nofun
    generalize hChars : (Text.trimmed raw).toList = cs at hText
    cases hText
    exact String.toList_injective hChars
  · intro hText
    exact ofLiteral_of_literalAs (by rw [hText]; exact .bool b)

theorem exists_ofLiteral_eq_number_iff : (∃ x, ofLiteral raw = .number x) ↔
    ∃ n : Numeral, n.WrittenAs (Text.trimmed raw).toList := by
  constructor
  · rintro ⟨x, hNumber⟩
    obtain ⟨n, hText, -⟩ := exists_numeral_of_ofLiteral hNumber
    exact ⟨n, hText⟩
  · rintro ⟨n, hText⟩
    exact ⟨n.value, ofLiteral_of_literalAs (.number hText)⟩

/-- A text that is no word, no number and no string writes no value. -/
theorem not_literalAs_of_other {t : String} (hWord : t ∉ ["null", "true", "false"])
    (hNumber : ¬ ∃ n : Numeral, n.WrittenAs t.toList)
    (hString : ¬ ∃ contents, StringAs contents t.toList) (v : Value) : ¬ v.LiteralAs t.toList := by
  intro hText
  generalize hChars : t.toList = cs at hText hNumber hString
  cases hText with
  | null => exact hWord (by rw [String.toList_injective hChars]; decide)
  | bool b => exact hWord (by rw [String.toList_injective hChars]; cases b <;> decide)
  | number hText => exact hNumber ⟨_, hText⟩
  | text hText => exact hString ⟨_, hText⟩

/-- What only looks like a number writes no value. -/
theorem not_literalAs_of_mem {t : String} (hMem : t ∈ ["01", "1.", "+1", "1e"]) (v : Value) :
    ¬ v.LiteralAs t.toList := by
  simp only [List.mem_cons, List.not_mem_nil, or_false] at hMem
  rcases hMem with rfl | rfl | rfl | rfl
  all_goals
    refine not_literalAs (fun c hHead => ?_) (by decide) v
    cases hHead
    decide

/-- **Literals follow their grammar.** By the text between the blanks around it, a literal is
nothing, a truth value or a number exactly if the text writes one, a number that is out of
range included; a string of JSON is what it spells; and every other text, among them all arrays
and objects and what only looks like a number, is itself. -/
theorem ofLiteral_follows_grammar (raw : String) :
    (ofLiteral raw = .null ↔ Text.trimmed raw = "null") ∧
    (∀ b, ofLiteral raw = .bool b ↔ Text.trimmed raw = if b then "true" else "false") ∧
    ((∃ x, ofLiteral raw = .number x) ↔
      ∃ n : Numeral, n.WrittenAs (Text.trimmed raw).toList) ∧
    (∀ n : Numeral, n.WrittenAs (Text.trimmed raw).toList → ofLiteral raw = .number n.value) ∧
    (∀ contents, StringAs contents (Text.trimmed raw).toList →
      ofLiteral raw = .text (String.ofList contents)) ∧
    (Text.trimmed raw ∉ ["null", "true", "false"] →
      (¬ ∃ n : Numeral, n.WrittenAs (Text.trimmed raw).toList) →
      (¬ ∃ contents, StringAs contents (Text.trimmed raw).toList) →
      ofLiteral raw = .text (Text.trimmed raw)) ∧
    ((Text.trimmed raw).toList.head? = some '[' ∨ (Text.trimmed raw).toList.head? = some '\x7b' →
      ofLiteral raw = .text (Text.trimmed raw)) ∧
    (Text.trimmed raw ∈ ["01", "1.", "+1", "1e"] → ofLiteral raw = .text (Text.trimmed raw)) := by
  refine ⟨ofLiteral_eq_null_iff, fun b => ofLiteral_eq_bool_iff, exists_ofLiteral_eq_number_iff,
    ?_, ?_, ?_, ?_, ?_⟩
  · intro n hText
    exact ofLiteral_of_literalAs (.number hText)
  · intro contents hText
    exact ofLiteral_of_literalAs (.text hText)
  · intro hWord hNumber hString
    exact ofLiteral_of_plain (not_literalAs_of_other hWord hNumber hString)
  · intro hOpen
    exact ofLiteral_of_plain (not_literalAs_of_open hOpen)
  · intro hMem
    exact ofLiteral_of_plain (not_literalAs_of_mem hMem)

/-- A literal is a proper number, if it is a number. -/
theorem ofLiteral_ne_notANumber (raw : String) : ofLiteral raw ≠ .number .notANumber := by
  intro hNumber
  obtain ⟨n, -, hValue⟩ := exists_numeral_of_ofLiteral hNumber
  exact n.value_ne_notANumber hValue.symm

end Value

end Gamebook
