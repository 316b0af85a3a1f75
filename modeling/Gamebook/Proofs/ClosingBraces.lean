import Gamebook.Proofs.Grammar

/-!
# Gamebook — the closing brace of a directive

A directive should end at the first closing brace behind its equals sign. It does
unless its value is blank. A value needs a character, and blanks are left out of
it as long as one remains; so in front of the closing brace of a blank value
reading goes on, takes the brace itself as the first character of the value and
ends at the next closing brace of the line, if there is one. What stands between
the two braces is swallowed: it is not shown, and placeholders in it are neither
filled nor reported.

* `Directive.Overruns` — blanks up to the first closing brace, and another one
  behind it on the line.
* `Directive.overruns_of_mem_value`, `Directive.eq_of_overruns` — a value has a
  closing brace in no other case, and what it is then.
* `Tokens.leads_of_append` — every directive of a template leads the text from
  its place on.
* `Template.closes_first_unless_blank` — where the directives of a template end.
* `Template.blank_value_swallows` — a template in which one does not end where it
  should.
-/

namespace Gamebook

open Text

namespace Directive

variable {cs blanks swallowed rest rest' : List Char} {d : Directive}

/-- The text has nothing but blanks in front of its first closing brace, and the line goes on to
another one. -/
structure Overruns (cs blanks swallowed rest : List Char) : Prop where
  text_eq : cs = blanks ++ '\x7d' :: (swallowed ++ '\x7d' :: rest)
  blank : ∀ c ∈ blanks, isBlank c = true
  line : ∀ c ∈ swallowed, c ≠ '\x7d' ∧ isLineEnd c = false

/-- The directive ends at the first closing brace behind its equals sign. -/
def ClosesFirst (d : Directive) : Prop := '\x7d' ∉ d.indent ++ d.value

instance decidableClosesFirst (d : Directive) : Decidable d.ClosesFirst :=
  inferInstanceAs (Decidable ('\x7d' ∉ d.indent ++ d.value))

/-- What stands behind the equals sign of a directive, if the text goes on with `rest`. -/
def behindEquals (d : Directive) (rest : List Char) : List Char :=
  d.indent ++ (d.value ++ '\x7d' :: rest)

theorem source_append (d : Directive) (rest : List Char) : d.source ++ rest =
    opening ++ (d.lead ++ (d.name ++ (d.gap ++ '=' :: d.behindEquals rest))) := by
  simp only [source, behindEquals, List.append_assoc, List.cons_append, List.nil_append]

theorem WellFormed.close_not_mem_indent (hWellFormed : d.WellFormed) : '\x7d' ∉ d.indent := by
  intro hMem
  have hBlank := hWellFormed.indent _ hMem
  exact absurd hBlank (by decide)

/-- Behind its first character a value has no closing brace. -/
theorem WellFormed.close_not_mem_tail (hWellFormed : d.WellFormed) : '\x7d' ∉ d.value.tail := by
  obtain ⟨c, body, hValue, -, hBody⟩ := hWellFormed.value
  rw [hValue, List.tail_cons]
  intro hMem
  exact (hBody _ hMem).1 rfl

/-- A value has a closing brace only as its first character, where only blanks stand in front. -/
theorem overruns_of_mem_value (hWellFormed : d.WellFormed) (hMem : '\x7d' ∈ d.value)
    (rest : List Char) : Overruns (d.behindEquals rest) d.indent d.value.tail rest := by
  obtain ⟨c, body, hValue, -, hBody⟩ := hWellFormed.value
  have hFirst : c = '\x7d' := by
    rw [hValue, List.mem_cons] at hMem
    rcases hMem with hHead | hTail
    · exact hHead.symm
    · exact absurd rfl (hBody _ hTail).1
  refine ⟨?_, hWellFormed.indent, ?_⟩
  · rw [behindEquals, hValue, hFirst]
    rfl
  · rw [hValue]
    exact hBody

/-- The directive that a text with a blank value starts with when the value runs on. -/
theorem starts_of_overruns (hStarts : d.Starts cs rest')
    (hOver : Overruns (d.behindEquals rest') blanks swallowed rest) :
    Starts { d with indent := blanks, value := '\x7d' :: swallowed } cs rest := by
  obtain ⟨hWellFormed, hText⟩ := hStarts
  refine ⟨{ hWellFormed with indent := hOver.blank, value := ?_ }, ?_⟩
  · exact ⟨'\x7d', swallowed, rfl, by decide, hOver.line⟩
  · rw [hText, source_append, source_append, hOver.text_eq]
    rfl

/-- The blanks in front of a value end in front of the first closing brace. -/
theorem length_indent_le (hWellFormed : d.WellFormed)
    (hOver : Overruns (d.behindEquals rest') blanks swallowed rest) :
    d.indent.length ≤ blanks.length := by
  rcases List.append_eq_append_iff.mp hOver.text_eq with ⟨gap, hGap, -⟩ | ⟨gap, hGap, hBehind⟩
  · rw [hGap, List.length_append]
    omega
  · cases gap with
    | nil => exact Nat.le_of_eq (by rw [hGap, List.append_nil])
    | cons c gap =>
      -- The closing brace would be one of the blanks.
      have hMem : '\x7d' ∈ d.indent := by
        rw [hGap, (List.cons.inj hBehind).1]
        exact List.mem_append_right _ List.mem_cons_self
      exact absurd hMem hWellFormed.close_not_mem_indent

/-- A blank value with another closing brace behind it on the line always runs on to that brace. -/
theorem eq_of_overruns (hLeads : d.Leads cs rest')
    (hOver : Overruns (d.behindEquals rest') blanks swallowed rest) :
    d.indent = blanks ∧ d.value = '\x7d' :: swallowed ∧ rest' = rest := by
  have hOther := starts_of_overruns hLeads.toStarts hOver
  have hLongest : blanks.length ≤ d.indent.length := hLeads.longest _ _ hOther
  have hShortest := length_indent_le hLeads.wellFormed hOver
  exact value_unique hOver.text_eq (by omega) hLeads.wellFormed.value hOther.wellFormed.value

theorem closesFirst_iff (hLeads : d.Leads cs rest) : d.ClosesFirst ↔
    ¬ ∃ blanks swallowed rest', Overruns (d.behindEquals rest) blanks swallowed rest' := by
  have hIndent := hLeads.wellFormed.close_not_mem_indent
  rw [ClosesFirst, List.mem_append, not_or]
  constructor
  · rintro ⟨-, hValue⟩ ⟨blanks, swallowed, rest', hOver⟩
    obtain ⟨-, hEq, -⟩ := eq_of_overruns hLeads hOver
    rw [hEq] at hValue
    exact hValue List.mem_cons_self
  · intro hNone
    refine ⟨hIndent, fun hMem => hNone ?_⟩
    exact ⟨_, _, _, overruns_of_mem_value hLeads.wellFormed hMem rest⟩

end Directive

-- ---------------------------------------------------------------------------
-- Directives of a template
-- ---------------------------------------------------------------------------

namespace Tokens

variable {cs : List Char} {segments before after : List Segment} {d : Directive}

/-- Tokens make up the text that they are the tokens of. -/
theorem flatMap_source (hTokens : Tokens cs segments) : segments.flatMap Segment.source = cs := by
  rw [← hTokens.all_eq]
  exact Segment.flatMap_source_all cs

/-- Every directive leads the text from its place on. -/
theorem leads_of_append (hTokens : Tokens cs (before ++ .directive d :: after)) :
    d.Leads (d.source ++ after.flatMap Segment.source) (after.flatMap Segment.source) := by
  generalize hSegments : before ++ .directive d :: after = segments at hTokens
  induction hTokens generalizing before with
  | nil => exact absurd hSegments (List.append_ne_nil_of_right_ne_nil _ (List.cons_ne_nil _ _))
  | directive hLeads hRest ih =>
    cases before with
    | nil =>
      cases hSegments
      rw [hRest.flatMap_source, ← hLeads.text_eq]
      exact hLeads
    | cons segment before => exact ih (List.cons.inj hSegments).2
  | plain _ _ _ _ ih =>
    cases before with
    | nil => cases hSegments
    | cons segment before => exact ih (List.cons.inj hSegments).2

end Tokens

namespace Template

open Directive

/--
**A directive ends at its first closing brace unless its value is blank.** The
value of a directive has a closing brace at most as its first character. It ends
at the first closing brace behind its equals sign exactly if something else than
blanks stands in front of that brace or the line has no other one behind it.
Otherwise the first brace and everything up to the next one are its value.
-/
theorem closes_first_unless_blank {template : String} {before after : List Segment}
    {d : Directive} (hSegments : segments template = before ++ .directive d :: after) :
    '\x7d' ∉ d.value.tail ∧
    (d.ClosesFirst ↔ ¬ ∃ blanks swallowed rest,
      Overruns (d.behindEquals (after.flatMap Segment.source)) blanks swallowed rest) ∧
    ∀ blanks swallowed rest,
      Overruns (d.behindEquals (after.flatMap Segment.source)) blanks swallowed rest →
        d.indent = blanks ∧ d.value = '\x7d' :: swallowed ∧
          after.flatMap Segment.source = rest := by
  have hLeads := Tokens.leads_of_append (segments_eq_iff.mp hSegments)
  refine ⟨hLeads.wellFormed.close_not_mem_tail, closesFirst_iff hLeads, ?_⟩
  intro blanks swallowed rest hOver
  exact eq_of_overruns hLeads hOver

/-- The rest of the line belongs to the blank value, up to the second closing brace. -/
theorem closes_first_unless_blank_mood :
    ∃ d, segments "\x7bset mood = \x7dok \x7bmood\x7d!" = [.directive d, .plain ['!']] ∧
      ¬ d.ClosesFirst ∧ d.value = "\x7dok \x7bmood".toList := by
  have hSegments : segments "\x7bset mood = \x7dok \x7bmood\x7d!" =
      [] ++ .directive ⟨[' '], "mood".toList, [' '], [' '], "\x7dok \x7bmood".toList⟩ ::
        [.plain ['!']] := by
    decide +kernel
  obtain ⟨-, hCloses, hOverrun⟩ := closes_first_unless_blank hSegments
  have hOver : Overruns " \x7dok \x7bmood\x7d!".toList [' '] "ok \x7bmood".toList ['!'] :=
    ⟨by decide, List.all_eq_true.mp rfl, by simp [isLineEnd]⟩
  exact ⟨_, hSegments, fun hFirst => hCloses.mp hFirst ⟨_, _, _, hOver⟩, (hOverrun _ _ _ hOver).2.1⟩

/-- What a scene says behind a blank value is lost up to the next closing brace: the text is not
shown and its placeholder is not found. -/
theorem blank_value_swallows :
    let template := "\x7bset mood = \x7dok \x7bmood\x7d"
    (∃ d ∈ directives template, '\x7d' ∈ d.value ∧ ¬ d.ClosesFirst) ∧
      placeholders template = [] ∧ stripped template = [] := by
  decide +kernel

end Template

end Gamebook
