import Gamebook.Proofs.Placeholders
import Gamebook.Proofs.WrittenDirectives

/-!
# Gamebook — quoting

Not every text can be written into a directive as it is: blanks at its ends are
trimmed away, a line feed ends the line, and `1` is a number. As a JSON string it
can. The quotes keep its blanks from being trimmed, line feeds are written as
escapes, and no escape has a closing brace, so the directive ends where the string
does. Only a closing brace of the text itself still ends it, and so do U+2028 and
U+2029, which JSON lets stand as they are. What is put in for a placeholder is not
read again, so the text may look like a placeholder or a directive itself.

* `fitsDirective_of_stringAs` — which strings fit into a directive.
* `ofLiteral_of_stringAs` — as a literal a string is its contents.
* `Segment.all_of_not_mem` — without an equals sign there is no directive.
* `Template.process_quoted` — what is quoted is set and shown, however it is spelled.
* `Template.quoted_text_is_shown` — the same for a text as it is written.
-/

namespace Gamebook

open Text

variable {x s q : String}

/-- A text that can be quoted in a directive: without closing braces and without the separators
U+2028 and U+2029. -/
def Quotable (s : String) : Prop := ∀ c ∈ s.toList, c ≠ '\x7d' ∧ c ≠ '\u2028' ∧ c ≠ '\u2029'

instance decidableQuotable (s : String) : Decidable (Quotable s) :=
  List.decidableBAll (fun c => c ≠ '\x7d' ∧ c ≠ '\u2028' ∧ c ≠ '\u2029') s.toList

-- ---------------------------------------------------------------------------
-- Strings in directives
-- ---------------------------------------------------------------------------

/-- A string fits into a directive if its contents can be quoted. -/
theorem fitsDirective_of_stringAs (hString : Json.StringAs s.toList q.toList)
    (hQuotable : Quotable s) : FitsDirective q := by
  obtain ⟨body, hSpelled, hText⟩ := hString
  have hBody : ∀ c ∈ body, c ≠ '\x7d' ∧ isLineEnd c = false := by
    intro c hMem
    obtain ⟨hControl, hFrom⟩ := Json.range_of_spelledAs hSpelled c hMem
    have hEnds : c ≠ '\x7d' ∧ c ≠ '\u2028' ∧ c ≠ '\u2029' := by
      rcases hFrom with hOwn | hLow
      · exact hQuotable c hOwn
      · refine ⟨?_, ?_, ?_⟩ <;> rintro rfl <;> exact absurd hLow (by decide)
    refine ⟨hEnds.1, ?_⟩
    rw [Bool.eq_false_iff]
    intro hLine
    simp only [isLineEnd, Bool.or_eq_true, beq_iff_eq] at hLine
    rcases hLine with ((rfl | rfl) | hLine) | hParagraph
    · exact absurd hControl (by decide)
    · exact absurd hControl (by decide)
    · exact hEnds.2.1 hLine
    · exact hEnds.2.2 hParagraph
  constructor
  · refine ⟨'"', ?_, by decide⟩
    rw [hText]
    exact List.mem_cons_self
  · rw [hText, List.forall_mem_cons, List.forall_mem_append, List.forall_mem_singleton]
    exact ⟨by decide, hBody, by decide⟩

/-- As a literal a string is its contents, with the blanks at their ends. -/
theorem ofLiteral_of_stringAs (hString : Json.StringAs s.toList q.toList) :
    Value.ofLiteral q = .text s := by
  have hTrim : (trimmed q).toList = q.toList := by
    obtain ⟨body, -, hText⟩ := hString
    have hQuote : isBlank '"' = false := by decide
    rw [trimmed, String.toList_ofList, hText, trim_between hQuote hQuote]
  have hLiteral : Value.LiteralAs (.text (String.ofList s.toList)) (trimmed q).toList := by
    rw [hTrim]
    exact .text hString
  rw [Value.ofLiteral_of_literalAs hLiteral, String.ofList_toList]

-- ---------------------------------------------------------------------------
-- Text without directives
-- ---------------------------------------------------------------------------

/-- Without an equals sign there is no directive. -/
theorem Segment.all_of_not_mem {text : List Char} (hNonempty : text ≠ []) (hNone : '=' ∉ text) :
    all text = [plain text] := by
  have hStarts : ∀ behind, behind ≠ [] → behind <:+ text →
      ∀ d rest, ¬ Directive.Starts d (behind ++ []) rest := by
    intro behind _ hSuffix d rest hStarts
    have hMem : '=' ∈ behind := by
      rw [← List.append_nil behind, hStarts.text_eq]
      simp [Directive.source]
    exact hNone (hSuffix.subset hMem)
  have hEnd : all [] = [] := by rw [all]
  have hWhole := all_append hNonempty hStarts (by simp [hEnd])
  rwa [List.append_nil, hEnd] at hWhole

/-- A placeholder has no directive inside. -/
theorem Segment.all_placeholder {name : List Char} (hName : Piece.IsName name) :
    all (Piece.placeholder name).source = [plain (Piece.placeholder name).source] := by
  refine all_of_not_mem (List.cons_ne_nil _ _) fun hMem => ?_
  rw [Piece.source, List.mem_cons, List.mem_append, List.mem_singleton] at hMem
  rcases hMem with hOpen | hWord | hClose
  · exact absurd hOpen (by decide)
  · exact absurd (hName.2 _ hWord) (by decide)
  · exact absurd hClose (by decide)

-- ---------------------------------------------------------------------------
-- Set and shown
-- ---------------------------------------------------------------------------

namespace Template

/-- A template that sets a variable and has its placeholder behind that. -/
theorem segments_set_then_show (hName : IsVariable x) (hFits : FitsDirective q) :
    segments ("\x7bset " ++ x ++ " = " ++ q ++ "\x7d\x7b" ++ x ++ "\x7d") =
      [.directive (.spaced x q), .plain (Piece.placeholder x.toList).source] := by
  have hText : ("\x7bset " ++ x ++ " = " ++ q ++ "\x7d\x7b" ++ x ++ "\x7d").toList =
      (Directive.spaced x q).source ++ (Piece.placeholder x.toList).source := by
    rw [Directive.source_spaced]
    simp [Piece.source]
  rw [segments, hText, Segment.all_spaced hName hFits, Segment.all_placeholder hName]

/-- What is quoted is set and shown, however the string is spelled. -/
theorem process_quoted (hName : IsVariable x) (hString : Json.StringAs s.toList q.toList)
    (hQuotable : Quotable s) (vars : Vars) :
    process ("\x7bset " ++ x ++ " = " ++ q ++ "\x7d\x7b" ++ x ++ "\x7d") vars =
      (s, vars.insert x (.text s)) := by
  have hSegments := segments_set_then_show hName (fitsDirective_of_stringAs hString hQuotable)
  generalize "\x7bset " ++ x ++ " = " ++ q ++ "\x7d\x7b" ++ x ++ "\x7d" = template at hSegments ⊢
  have hAssign : assign template vars = vars.insert x (.text s) := by
    have hSet := Directive.setIn_spaced x q vars
    rw [ofLiteral_of_stringAs hString] at hSet
    rw [assign, directives, hSegments, ← hSet]
    rfl
  have hStripped : stripped template = (Piece.placeholder x.toList).source := by
    have hOpen : isBlank '\x7b' = false := by decide
    have hClose : isBlank '\x7d' = false := by decide
    have hPlain :
        (segments template).flatMap Segment.text = (Piece.placeholder x.toList).source := by
      rw [hSegments]
      simp [Segment.text]
    rw [stripped, hPlain]
    exact trim_between hOpen hClose x.toList
  have hShown : interpolate (vars.insert x (.text s)) (Piece.placeholder x.toList).source =
      s.toList := by
    have hFill := interpolate_placeholder hName (vars.insert x (.text s)) [] []
    rw [Piece.fill, String.ofList_toList, Std.ExtTreeMap.getElem?_insert_self] at hFill
    simpa [interpolate, Piece.all, Value.display] using hFill
  rw [process_eq, shown, hAssign, fill, hStripped, hShown, String.ofList_toList]

/-- **A quoted text is shown as it is.** A template that sets a variable to a text, written as a
JSON string, and then shows the variable, shows exactly that text: with its line feeds, quotes,
backslashes, opening braces, control characters and the blanks at its ends. The variable has the
text for its value, and no other variable changes. -/
theorem quoted_text_is_shown (hName : IsVariable x) (hQuotable : Quotable s) (vars : Vars) :
    process ("\x7bset " ++ x ++ " = " ++ (Json.string s).text ++ "\x7d\x7b" ++ x ++ "\x7d") vars =
      (s, vars.insert x (.text s)) := by
  have hString : Json.StringAs s.toList (Json.string s).text.toList :=
    ⟨_, Json.spelledAs_writeString s.toList, String.toList_ofList⟩
  exact process_quoted hName hString hQuotable vars

/-- A text that looks like the directive that sets it, between blanks, with a line feed, an escape
and a control character. -/
theorem quoted_text_is_shown_braces :
    process "\x7bset set = \" \x7bset set = \\\"\\n\\\\n\\u0007\\\"\x7b\\r\"\x7d\x7bset\x7d" ∅ =
      (" \x7bset set = \"\n\\n\x07\"\x7b\r",
        Std.ExtTreeMap.ofList [("set", Value.text " \x7bset set = \"\n\\n\x07\"\x7b\r")]) := by
  have hName : IsVariable "set" := by decide
  have hQuotable : Quotable " \x7bset set = \"\n\\n\x07\"\x7b\r" := by decide
  exact quoted_text_is_shown hName hQuotable ∅

end Template

end Gamebook
