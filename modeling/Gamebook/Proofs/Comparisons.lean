import Gamebook.Proofs.Choices

/-!
# Gamebook — conditions are parsed as they are written

The operator of a condition is found by looking for each symbol anywhere in the
text, in a fixed order, and the text is then cut at its first two occurrences.
Both could go wrong: `>=` has `>` inside, and two symbols that stand next to each
other could make up a third one. If no other part of the condition has a
character of the symbols, neither happens. What stands around the operator does
not count in the search, and between two operators no symbol begins that does
not lie inside one of them.

* `Operator.cut?_append`, `Operator.cut?_self` — where a text is cut.
* `Operator.infix_between_iff` — what lies in a text with a part in its middle that
  has no character of a symbol.
* `Operator.find?_between`, `Operator.find?_repeated` — which operator is found.
* `Condition.parse_between`, `Condition.parse_repeated` — what is parsed.
* `Condition.parse_as_written` — the same with blanks around the two sides.
-/

namespace Gamebook

open Text

namespace Operator

variable {symbol before behind mid core cs : List Char} {op : Operator} {source source' : String}

-- ---------------------------------------------------------------------------
-- The characters of operators
-- ---------------------------------------------------------------------------

/-- The characters that operators are made of. -/
def marks : List Char := ['=', '!', '<', '>']

theorem mem_marks_of_mem_symbol (op : Operator) {c : Char} (hMem : c ∈ op.symbol.toList) :
    c ∈ marks := by
  have hAll : op.symbol.toList.all (· ∈ marks) = true := by cases op <;> decide
  exact of_decide_eq_true (List.all_eq_true.mp hAll c hMem)

/-- A class of characters that has none of them. -/
theorem not_mem_marks {p : Char → Bool} {c : Char} (hNone : marks.all (fun c => !p c) = true)
    (hClass : p c = true) : c ∉ marks := by
  intro hMark
  have hOther := List.all_eq_true.mp hNone c hMark
  rw [hClass] at hOther
  cases hOther

theorem not_mem_symbol (hText : ∀ c ∈ cs, c ∉ marks) (op : Operator) :
    ∀ c ∈ cs, c ∉ op.symbol.toList :=
  fun c hMem hMark => hText c hMem (op.mem_marks_of_mem_symbol hMark)

theorem head?_symbol_ne (hText : ∀ c ∈ cs, c ∉ marks) (op : Operator) :
    ∀ c ∈ cs, op.symbol.toList.head? ≠ some c :=
  fun c hMem hHead => not_mem_symbol hText op c hMem (List.mem_of_mem_head? hHead)

-- ---------------------------------------------------------------------------
-- Cutting
-- ---------------------------------------------------------------------------

/-- A text without the first character of a symbol does not stop a search for the symbol. -/
theorem cut?_append (hBefore : ∀ c ∈ before, symbol.head? ≠ some c) (hSymbol : symbol ≠ []) :
    cut? symbol (before ++ cs) = (cut? symbol cs).map fun p => (before ++ p.1, p.2) := by
  obtain ⟨first, symbol, rfl⟩ := List.exists_cons_of_ne_nil hSymbol
  induction before with
  | nil =>
    rw [List.nil_append]
    simp only [List.nil_append, Option.map_id_fun', id_eq]
  | cons c before ih =>
    obtain ⟨hHead, hTail⟩ := List.forall_mem_cons.mp hBefore
    have hOther : (first :: symbol).isPrefixOf (c :: (before ++ cs)) = false := by
      have hNe : (first == c) = false := beq_false_of_ne fun hEq => hHead (congrArg some hEq)
      rw [List.isPrefixOf, hNe, Bool.false_and]
    rw [List.cons_append, cut?, hOther, if_neg Bool.false_ne_true, ih hTail, Option.map_map]
    rfl

theorem cut?_self (hSymbol : symbol ≠ []) (behind : List Char) :
    cut? symbol (symbol ++ behind) = some ([], behind) := by
  obtain ⟨first, symbol, rfl⟩ := List.exists_cons_of_ne_nil hSymbol
  have hHere : (first :: symbol).isPrefixOf (first :: (symbol ++ behind)) = true :=
    List.isPrefixOf_iff_prefix.mpr (List.prefix_append (first :: symbol) behind)
  rw [List.cons_append, cut?, if_pos hHere]
  simp only [List.length_cons, List.drop_succ_cons, List.drop_left]

/-- A text is cut at the first symbol, whatever follows it. -/
theorem cut?_between (hBefore : ∀ c ∈ before, c ∉ marks) (op : Operator) (behind : List Char) :
    cut? op.symbol.toList (before ++ (op.symbol.toList ++ behind)) = some (before, behind) := by
  rw [cut?_append (head?_symbol_ne hBefore op) op.symbol_ne_nil, cut?_self op.symbol_ne_nil]
  simp only [Option.map_some, List.append_nil]

theorem cut?_eq_none (hText : ∀ c ∈ cs, c ∉ marks) (op : Operator) :
    cut? op.symbol.toList cs = none := by
  have hWhole : cut? op.symbol.toList (cs ++ []) =
      (cut? op.symbol.toList []).map fun p => (cs ++ p.1, p.2) :=
    cut?_append (head?_symbol_ne hText op) op.symbol_ne_nil
  rw [List.append_nil] at hWhole
  exact hWhole

-- ---------------------------------------------------------------------------
-- Where a symbol lies
-- ---------------------------------------------------------------------------

/-- What stands in front of a text can be left out of a search if it has no character of the
symbol. -/
theorem infix_append_left_iff (hBefore : ∀ c ∈ before, c ∉ symbol) (hSymbol : symbol ≠ []) :
    symbol <:+: before ++ cs ↔ symbol <:+: cs := by
  have hFirst : ∀ c ∈ before, symbol.head? ≠ some c :=
    fun c hMem hHead => hBefore c hMem (List.mem_of_mem_head? hHead)
  rw [← isSome_cut?_iff hSymbol, cut?_append hFirst hSymbol, Option.isSome_map,
    isSome_cut?_iff hSymbol]

theorem infix_append_right_iff (hBehind : ∀ c ∈ behind, c ∉ symbol) (hSymbol : symbol ≠ []) :
    symbol <:+: cs ++ behind ↔ symbol <:+: cs := by
  have hReversed : ∀ c ∈ behind.reverse, c ∉ symbol.reverse := by
    intro c hMem hSame
    exact hBehind c (List.mem_reverse.mp hMem) (List.mem_reverse.mp hSame)
  rw [← List.reverse_infix, List.reverse_append, infix_append_left_iff hReversed (by simpa),
    List.reverse_infix]

/-- No symbol reaches over a character that it does not have. -/
theorem infix_between_iff (hMid : ∀ c ∈ mid, c ∉ symbol) (hNonempty : mid ≠ [])
    (hSymbol : symbol ≠ []) :
    symbol <:+: before ++ (mid ++ behind) ↔ symbol <:+: before ∨ symbol <:+: behind := by
  rw [List.infix_append_iff_ne_nil, infix_append_left_iff hMid hSymbol]
  constructor
  · rintro (hBefore | hBehind | ⟨first, second, -, hSecond, hSplit, -, hPrefix⟩)
    · exact Or.inl hBefore
    · exact Or.inr hBehind
    · -- Its second half would begin with the first character of the middle.
      obtain ⟨c, mid, rfl⟩ := List.exists_cons_of_ne_nil hNonempty
      obtain ⟨c', second, rfl⟩ := List.exists_cons_of_ne_nil hSecond
      rw [List.cons_append, List.cons_prefix_cons] at hPrefix
      have hHave : c ∈ symbol := by
        rw [hSplit, hPrefix.1]
        exact List.mem_append_right _ List.mem_cons_self
      exact absurd hHave (hMid c List.mem_cons_self)
  · rintro (hBefore | hBehind)
    · exact Or.inl hBefore
    · exact Or.inr (Or.inl hBehind)

-- ---------------------------------------------------------------------------
-- Finding
-- ---------------------------------------------------------------------------

/-- Which operator is found depends only on which symbols lie in the text. -/
theorem find?_congr (hSame : ∀ op : Operator,
    op.symbol.toList <:+: source.toList ↔ op.symbol.toList <:+: source'.toList) :
    find? source = find? source' := by
  have hOccurs : (fun op : Operator => op.occursIn source) = fun op => op.occursIn source' := by
    funext op
    rw [Bool.eq_iff_iff, occursIn, occursIn, isSome_cut?_iff op.symbol_ne_nil,
      isSome_cut?_iff op.symbol_ne_nil]
    exact hSame op
  rw [find?, find?, hOccurs]

/-- What stands around a text can be left out of the search if it has no characters of
operators. -/
theorem find?_core (hSource : source.toList = before ++ (core ++ behind))
    (hBefore : ∀ c ∈ before, c ∉ marks) (hBehind : ∀ c ∈ behind, c ∉ marks) :
    find? source = find? (String.ofList core) := by
  apply find?_congr
  intro op
  rw [hSource, infix_append_left_iff (not_mem_symbol hBefore op) op.symbol_ne_nil,
    infix_append_right_iff (not_mem_symbol hBehind op) op.symbol_ne_nil, String.toList_ofList]

/-- Alone, an operator is found as itself, even where it contains another one. -/
theorem find?_symbol (op : Operator) : find? op.symbol = some op := by
  cases op <;> decide

/-- Next to itself it is found as itself as well: no other symbol comes about there that is looked
for earlier. -/
theorem find?_twice (op : Operator) : find? (op.symbol ++ op.symbol) = some op := by
  cases op <;> decide

/-- Between texts without the characters of operators an operator is found. -/
theorem find?_between (hSource : source.toList = before ++ (op.symbol.toList ++ behind))
    (hBefore : ∀ c ∈ before, c ∉ marks) (hBehind : ∀ c ∈ behind, c ∉ marks) :
    find? source = some op := by
  rw [find?_core hSource hBefore hBehind, String.ofList_toList, find?_symbol]

/-- An operator that stands there twice is found all the same. -/
theorem find?_repeated (hSource : source.toList =
      before ++ (op.symbol.toList ++ (mid ++ (op.symbol.toList ++ behind))))
    (hBefore : ∀ c ∈ before, c ∉ marks) (hMid : ∀ c ∈ mid, c ∉ marks)
    (hBehind : ∀ c ∈ behind, c ∉ marks) : find? source = some op := by
  have hCore : source.toList =
      before ++ ((op.symbol.toList ++ (mid ++ op.symbol.toList)) ++ behind) := by
    rw [hSource, List.append_assoc, List.append_assoc]
  rw [find?_core hCore hBefore hBehind]
  by_cases hNil : mid = []
  · rw [hNil, List.nil_append, ← String.toList_append, String.ofList_toList, find?_twice]
  · rw [← find?_symbol op]
    apply find?_congr
    intro other
    rw [String.toList_ofList,
      infix_between_iff (not_mem_symbol hMid other) hNil other.symbol_ne_nil, or_self]

end Operator

-- ---------------------------------------------------------------------------
-- Parsing
-- ---------------------------------------------------------------------------

namespace Condition

variable {op : Operator} {left right rest : List Char} {source : String}

/-- A condition is what stands on the two sides of its operator. -/
theorem parse_between (hSource : source.toList = left ++ (op.symbol.toList ++ right))
    (hLeft : ∀ c ∈ left, c ∉ Operator.marks) (hRight : ∀ c ∈ right, c ∉ Operator.marks) :
    parse source = .ok ⟨String.ofList (trim left), op, .ofLiteral (String.ofList right)⟩ := by
  have hSides : sides op source = (left, right) := by
    rw [sides, hSource, Operator.cut?_between hLeft op right]
    simp only [Operator.cut?_eq_none hRight op]
  rw [parse, Operator.find?_between hSource hLeft hRight]
  simp only [hSides]

/-- What stands behind a second occurrence of the operator does not count. -/
theorem parse_repeated (hSource : source.toList =
      left ++ (op.symbol.toList ++ (right ++ (op.symbol.toList ++ rest))))
    (hLeft : ∀ c ∈ left, c ∉ Operator.marks) (hRight : ∀ c ∈ right, c ∉ Operator.marks)
    (hRest : ∀ c ∈ rest, c ∉ Operator.marks) :
    parse source = .ok ⟨String.ofList (trim left), op, .ofLiteral (String.ofList right)⟩ := by
  have hSides : sides op source = (left, right) := by
    rw [sides, hSource, Operator.cut?_between hLeft op]
    simp only [Operator.cut?_between hRight op]
  rw [parse, Operator.find?_repeated hSource hLeft hRight hRest]
  simp only [hSides]

-- ---------------------------------------------------------------------------
-- Blanks around the sides
-- ---------------------------------------------------------------------------

/-- Blanks and nothing else, maybe none at all. -/
def AllBlank (s : String) : Prop := ∀ c ∈ s.toList, isBlank c = true

instance decidableAllBlank (s : String) : Decidable (AllBlank s) :=
  List.decidableBAll (fun c => isBlank c = true) s.toList

/-- A text without the characters of operators. -/
def Unmarked (s : String) : Prop := ∀ c ∈ s.toList, c ∉ Operator.marks

instance decidableUnmarked (s : String) : Decidable (Unmarked s) :=
  List.decidableBAll (fun c => c ∉ Operator.marks) s.toList

section Written

variable {b₁ left b₂ b₃ right b₄ : String}

/-- A condition is parsed without the blanks around its sides, and without what stands behind a
second occurrence of its operator. -/
theorem parse_spaced (hBlank₁ : AllBlank b₁) (hLeft : Unmarked left) (hBlank₂ : AllBlank b₂)
    (hBlank₃ : AllBlank b₃) (hRight : Unmarked right) (hBlank₄ : AllBlank b₄) (op : Operator) :
    parse (b₁ ++ left ++ b₂ ++ op.symbol ++ b₃ ++ right ++ b₄) =
        .ok ⟨trimmed left, op, .ofLiteral right⟩ ∧
      ∀ rest : String, Unmarked rest →
        parse (b₁ ++ left ++ b₂ ++ op.symbol ++ b₃ ++ right ++ b₄ ++ op.symbol ++ rest) =
          .ok ⟨trimmed left, op, .ofLiteral right⟩ := by
  have hUnmarked : ∀ {s : String}, AllBlank s → Unmarked s :=
    fun hBlank c hMem => Operator.not_mem_marks (by decide) (hBlank c hMem)
  have hBefore : ∀ c ∈ b₁.toList ++ (left.toList ++ b₂.toList), c ∉ Operator.marks := by
    rw [List.forall_mem_append, List.forall_mem_append]
    exact ⟨hUnmarked hBlank₁, hLeft, hUnmarked hBlank₂⟩
  have hBehind : ∀ c ∈ b₃.toList ++ (right.toList ++ b₄.toList), c ∉ Operator.marks := by
    rw [List.forall_mem_append, List.forall_mem_append]
    exact ⟨hUnmarked hBlank₃, hRight, hUnmarked hBlank₄⟩
  have hName : String.ofList (trim (b₁.toList ++ (left.toList ++ b₂.toList))) = trimmed left := by
    rw [trim_append_left hBlank₁, trim_append_right hBlank₂]
    rfl
  have hOperand : Value.ofLiteral (String.ofList (b₃.toList ++ (right.toList ++ b₄.toList))) =
      .ofLiteral right := by
    apply Value.ofLiteral_congr
    rw [String.toList_ofList, trim_append_left hBlank₃, trim_append_right hBlank₄]
  rw [← hName, ← hOperand]
  constructor
  · exact parse_between (by simp) hBefore hBehind
  · intro rest hRest
    exact parse_repeated (by simp) hBefore hBehind hRest

/-- **Conditions are parsed as they are written.** If neither side has a character of the
operators, a condition is its left side without the blanks around it, the operator that is
written, and the literal on its right side, whatever blanks stand around the two sides. A second
occurrence of the operator and what follows it change nothing. So `>=` is never taken for `>`,
nor `<=` for `<`. -/
theorem parse_as_written (hBlank₁ : AllBlank b₁) (hLeft : Unmarked left) (hBlank₂ : AllBlank b₂)
    (hBlank₃ : AllBlank b₃) (hRight : Unmarked right) (hBlank₄ : AllBlank b₄) :
    (∀ op : Operator, parse (b₁ ++ left ++ b₂ ++ op.symbol ++ b₃ ++ right ++ b₄) =
      .ok ⟨trimmed left, op, .ofLiteral right⟩) ∧
    (∀ (op : Operator) (rest : String), Unmarked rest →
      parse (b₁ ++ left ++ b₂ ++ op.symbol ++ b₃ ++ right ++ b₄ ++ op.symbol ++ rest) =
        parse (b₁ ++ left ++ b₂ ++ op.symbol ++ b₃ ++ right ++ b₄)) ∧
    (∀ name operand, parse (b₁ ++ left ++ b₂ ++ ">=" ++ b₃ ++ right ++ b₄) ≠
      .ok ⟨name, .greater, operand⟩) ∧
    ∀ name operand, parse (b₁ ++ left ++ b₂ ++ "<=" ++ b₃ ++ right ++ b₄) ≠
      .ok ⟨name, .less, operand⟩ := by
  have hParse := parse_spaced hBlank₁ hLeft hBlank₂ hBlank₃ hRight hBlank₄
  refine ⟨fun op => (hParse op).1, ?_, ?_, ?_⟩
  · intro op rest hRest
    rw [(hParse op).1, (hParse op).2 rest hRest]
  · intro name operand hRead
    have hWritten := (hParse .atLeast).1.symm.trans hRead
    cases hWritten
  · intro name operand hRead
    have hWritten := (hParse .atMost).1.symm.trans hRead
    cases hWritten

/-- Nothing but the operator separates the sides here, and the blanks are not those of ASCII. -/
theorem parse_as_written_crowded :
    parse "\u3000金 币>=\"3 枚\"\u2003>=" = .ok ⟨"金 币", .atLeast, .text "3 枚"⟩ := by
  have hFirst : AllBlank "\u3000" := by decide
  have hLeft : Unmarked "金 币" := by decide
  have hNone : AllBlank "" := by decide
  have hRight : Unmarked "\"3 枚\"" := by decide
  have hLast : AllBlank "\u2003" := by decide
  have hRest : Unmarked "" := by decide
  have hName : trimmed "金 币" = "金 币" := by decide +kernel
  have hOperand : Value.ofLiteral "\"3 枚\"" = .text "3 枚" := by decide +kernel
  have hWritten := parse_as_written hFirst hLeft hNone hNone hRight hLast
  have hRead := (hWritten.2.1 .atLeast "" hRest).trans (hWritten.1 .atLeast)
  rw [hName, hOperand] at hRead
  exact hRead

end Written

end Condition

end Gamebook
