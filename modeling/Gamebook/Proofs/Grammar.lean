import Gamebook.Template.Basic

/-!
# Gamebook — templates follow the grammar of directives

What makes a directive is told by its parts alone: `Directive.WellFormed` says
which parts are allowed, `Directive.source` puts them together. The parts of a
directive at the start of a text are determined by the text, but for the blanks
behind the equals sign: they may belong to the value or stand in front of it.
Reading leaves as many of them out of the value as it can.

* `Directive.Starts` — a text starts with a directive.
* `Directive.Leads` — the same, with no other way to leave more blanks out of
  the value.
* `Tokens` — the segments of a text from left to right: a directive wherever
  one starts that is not inside another, and plain text between them.
* `read?_eq_some_iff` — reading finds the directive that leads a text.
* `segments_eq_iff` — scanning a template gives its tokens.
* `scan_follows_grammar` — both together, with the bytes that are read and nothing lost.
-/

namespace Gamebook

open Text

namespace Directive

variable {cs body value indent rest : List Char} {d : Directive}

/-- The text starts with the directive and goes on with the rest. -/
structure Starts (d : Directive) (cs rest : List Char) : Prop where
  wellFormed : d.WellFormed
  text_eq : cs = d.source ++ rest

/-- The text starts with the directive, and there is no way to see a directive at its start that
leaves more blanks out of the value. -/
structure Leads (d : Directive) (cs rest : List Char) : Prop extends Starts d cs rest where
  longest : ∀ (d' : Directive) (rest' : List Char), d'.Starts cs rest' →
    d'.indent.length ≤ d.indent.length

/-- The number of bytes that a directive takes in UTF-8. -/
def size (d : Directive) : Nat := (String.ofList d.source).utf8ByteSize

-- ---------------------------------------------------------------------------
-- Values
-- ---------------------------------------------------------------------------

theorem untilClose?_eq_some_iff : untilClose? cs = some (body, rest) ↔
    cs = body ++ '\x7d' :: rest ∧ ∀ c ∈ body, c ≠ '\x7d' ∧ isLineEnd c = false := by
  constructor
  · intro hRead
    refine ⟨eq_of_untilClose? hRead, ?_⟩
    -- On the text: the first character closes the value, ends the line or belongs to the value.
    induction cs generalizing body with
    | nil => cases hRead
    | cons c cs ih =>
      rw [untilClose?] at hRead
      split at hRead
      · cases hRead
        exact List.forall_mem_nil _
      · rename_i hOpen
        split at hRead
        · cases hRead
        · rename_i hLine
          obtain ⟨⟨body', rest'⟩, hTail, hBody⟩ := Option.map_eq_some_iff.mp hRead
          cases hBody
          rw [List.forall_mem_cons]
          exact ⟨⟨ne_of_beq_false (Bool.eq_false_iff.mpr hOpen), Bool.eq_false_iff.mpr hLine⟩,
            ih hTail⟩
  · rintro ⟨rfl, hBody⟩
    induction body with
    | nil => rfl
    | cons c body ih =>
      obtain ⟨⟨hOpen, hLine⟩, hTail⟩ := List.forall_mem_cons.mp hBody
      rw [List.cons_append, untilClose?, if_neg (by rwa [beq_iff_eq]), hLine,
        if_neg Bool.false_ne_true, ih hTail]
      rfl

theorem valueAt?_eq_some_iff : valueAt? cs = some (value, rest) ↔
    cs = value ++ '\x7d' :: rest ∧ IsValue value := by
  constructor
  · intro hRead
    refine ⟨eq_of_valueAt? hRead, ?_⟩
    cases cs with
    | nil => cases hRead
    | cons c cs =>
      rw [valueAt?] at hRead
      split at hRead
      · cases hRead
      · rename_i hLine
        obtain ⟨⟨body, rest'⟩, hTail, hValue⟩ := Option.map_eq_some_iff.mp hRead
        cases hValue
        exact ⟨c, body, rfl, Bool.eq_false_iff.mpr hLine, (untilClose?_eq_some_iff.mp hTail).2⟩
  · rintro ⟨rfl, c, body, rfl, hLine, hBody⟩
    have hTail : untilClose? (body ++ '\x7d' :: rest) = some (body, rest) :=
      untilClose?_eq_some_iff.mpr ⟨rfl, hBody⟩
    rw [List.cons_append, valueAt?, hLine, if_neg Bool.false_ne_true, hTail]
    rfl

-- ---------------------------------------------------------------------------
-- Values behind blanks
-- ---------------------------------------------------------------------------

/-- A value at the very start leaves no blanks out. -/
theorem indented?_of_valueAt? (hValue : valueAt? cs = some (value, rest)) :
    ∃ indent' value' rest', indented? cs = some (indent', value', rest') := by
  cases cs with
  | nil => cases hValue
  | cons c cs =>
    rw [indented?, hValue]
    split
    · split
      · exact ⟨_, _, _, rfl⟩
      · exact ⟨_, _, _, rfl⟩
    · exact ⟨_, _, _, rfl⟩

theorem sound_of_indented? (hRead : indented? cs = some (indent, value, rest)) :
    (∀ c ∈ indent, isBlank c = true) ∧ IsValue value := by
  have hHere : ∀ {cs indent : List Char},
      (valueAt? cs).map (fun p => (([] : List Char), p.1, p.2)) = some (indent, value, rest) →
        (∀ c ∈ indent, isBlank c = true) ∧ IsValue value := by
    intro cs indent hMap
    obtain ⟨⟨value', rest'⟩, hValue, hParts⟩ := Option.map_eq_some_iff.mp hMap
    cases hParts
    exact ⟨List.forall_mem_nil _, (valueAt?_eq_some_iff.mp hValue).2⟩
  induction cs generalizing indent with
  | nil => cases hRead
  | cons c cs ih =>
    rw [indented?] at hRead
    split at hRead
    · rename_i hBlank
      split at hRead
      · rename_i indent' value' rest' hTail
        cases hRead
        obtain ⟨hIndent, hValue⟩ := ih hTail
        exact ⟨List.forall_mem_cons.mpr ⟨hBlank, hIndent⟩, hValue⟩
      · exact hHere hRead
    · exact hHere hRead

/-- Wherever a value stands behind blanks, reading leaves out at least those. -/
theorem indented?_of_blanks (hIndent : ∀ c ∈ indent, isBlank c = true) (hValue : IsValue value)
    (rest : List Char) :
    ∃ indent' value' rest',
      indented? (indent ++ (value ++ '\x7d' :: rest)) = some (indent', value', rest') ∧
        indent.length ≤ indent'.length := by
  induction indent with
  | nil =>
    obtain ⟨indent', value', rest', hRead⟩ :=
      indented?_of_valueAt? (valueAt?_eq_some_iff.mpr ⟨rfl, hValue⟩)
    exact ⟨indent', value', rest', hRead, Nat.zero_le _⟩
  | cons c indent ih =>
    obtain ⟨hBlank, hTail⟩ := List.forall_mem_cons.mp hIndent
    obtain ⟨indent', value', rest', hRead, hLength⟩ := ih hTail
    refine ⟨c :: indent', value', rest', ?_, Nat.succ_le_succ hLength⟩
    rw [List.cons_append, indented?, if_pos hBlank, hRead]

/-- How many blanks are left out determines the rest. -/
theorem value_unique {indent' value' rest' : List Char}
    (hText : indent ++ (value ++ '\x7d' :: rest) = indent' ++ (value' ++ '\x7d' :: rest'))
    (hLength : indent.length = indent'.length) (hValue : IsValue value)
    (hValue' : IsValue value') : indent = indent' ∧ value = value' ∧ rest = rest' := by
  obtain ⟨hIndent, hBehind⟩ := List.append_inj hText hLength
  -- Both are what `valueAt?` reads from the same text.
  have hRead : valueAt? (value ++ '\x7d' :: rest) = some (value, rest) :=
    valueAt?_eq_some_iff.mpr ⟨rfl, hValue⟩
  rw [hBehind, valueAt?_eq_some_iff.mpr ⟨rfl, hValue'⟩] at hRead
  cases hRead
  exact ⟨hIndent, rfl, rfl⟩

-- ---------------------------------------------------------------------------
-- Directives
-- ---------------------------------------------------------------------------

theorem isBlank_of_mem_blanks {c : Char} (hMem : c ∈ blanks cs) : isBlank c = true :=
  List.all_eq_true.mp List.all_takeWhile c hMem

/-- Up to the equals sign a text can be read as a directive in one way only. -/
theorem behindSet?_eq (hWellFormed : d.WellFormed) (area : List Char) :
    behindSet? (d.lead ++ (d.name ++ (d.gap ++ '=' :: area))) =
      (indented? area).map fun p => ({ d with indent := p.1, value := p.2.1 }, p.2.2) := by
  obtain ⟨⟨hLead, hLeadBlank⟩, ⟨hName, hNameWord⟩, hGap, -, -⟩ := hWellFormed
  -- The blanks end at the name, the name at the gap or at the equals sign.
  have hAtName : ∀ c, (d.name ++ (d.gap ++ '=' :: area)).head? = some c → isBlank c = false := by
    intro c hHead
    obtain ⟨c', name, hCons⟩ := List.exists_cons_of_ne_nil hName
    rw [hCons] at hHead hNameWord
    cases hHead
    exact isBlank_eq_false_of_isWordChar (hNameWord _ List.mem_cons_self)
  have hAtGap : ∀ c, (d.gap ++ '=' :: area).head? = some c → isWordChar c = false := by
    intro c hHead
    cases hCons : d.gap with
    | nil =>
      rw [hCons] at hHead
      cases hHead
      decide
    | cons c' gap =>
      rw [hCons] at hHead hGap
      cases hHead
      exact isWordChar_eq_false_of_isBlank (hGap _ List.mem_cons_self)
  have hAtEquals : ∀ c, ('=' :: area).head? = some c → isBlank c = false := by
    intro c hHead
    cases hHead
    decide
  unfold behindSet?
  simp only [blanks, trimStart, word, afterWord, takeWhile_run hLeadBlank hAtName,
    dropWhile_run hLeadBlank hAtName, takeWhile_run hNameWord hAtGap,
    dropWhile_run hNameWord hAtGap, takeWhile_run hGap hAtEquals, dropWhile_run hGap hAtEquals,
    List.isEmpty_eq_false_iff.mpr hLead, List.isEmpty_eq_false_iff.mpr hName, Bool.or_false,
    if_neg Bool.false_ne_true]

/-- What is read as a directive is one. -/
theorem wellFormed_of_read? (hRead : read? cs = some (d, rest)) : d.WellFormed := by
  unfold read? at hRead
  split at hRead
  · unfold behindSet? at hRead
    simp only at hRead
    split at hRead
    · cases hRead
    · rename_i hParts
      split at hRead
      · obtain ⟨⟨indent, value, rest'⟩, hArea, hDirective⟩ := Option.map_eq_some_iff.mp hRead
        cases hDirective
        rw [Bool.or_eq_true, List.isEmpty_iff, List.isEmpty_iff, not_or] at hParts
        obtain ⟨hIndent, hValue⟩ := sound_of_indented? hArea
        exact {
          lead := ⟨hParts.1, fun _ => isBlank_of_mem_blanks⟩
          name := ⟨hParts.2, fun _ => isWordChar_of_mem_word⟩
          gap := fun _ => isBlank_of_mem_blanks
          indent := hIndent
          value := hValue }
      · cases hRead
  · cases hRead

theorem starts_of_read? (hRead : read? cs = some (d, rest)) : d.Starts cs rest :=
  ⟨wellFormed_of_read? hRead, eq_of_read? hRead⟩

/-- A text that starts with a directive is read as one: the same up to the equals sign, with no
fewer blanks left out of the value. -/
theorem read?_of_starts (hStarts : d.Starts cs rest) :
    ∃ indent value rest', read? cs = some ({ d with indent, value }, rest') ∧
      d.indent.length ≤ indent.length := by
  obtain ⟨hWellFormed, rfl⟩ := hStarts
  obtain ⟨indent, value, rest', hArea, hLength⟩ :=
    indented?_of_blanks hWellFormed.indent hWellFormed.value rest
  refine ⟨indent, value, rest', ?_, hLength⟩
  have hText : d.source ++ rest = '\x7b' :: 's' :: 'e' :: 't' :: (d.lead ++ (d.name ++ (d.gap ++
      '=' :: (d.indent ++ (d.value ++ '\x7d' :: rest))))) := by
    simp [source, opening]
  rw [hText, read?, behindSet?_eq hWellFormed, hArea]
  rfl

theorem leads_of_read? (hRead : read? cs = some (d, rest)) : d.Leads cs rest where
  toStarts := starts_of_read? hRead
  longest := by
    intro d' rest' hStarts
    obtain ⟨indent, value, rest'', hRead', hLength⟩ := read?_of_starts hStarts
    rw [hRead] at hRead'
    cases hRead'
    exact hLength

/-- Reading finds the directive that leads the text. -/
theorem read?_eq_some_iff : read? cs = some (d, rest) ↔ d.Leads cs rest := by
  constructor
  · exact leads_of_read?
  · intro hLeads
    obtain ⟨indent, value, rest', hRead, hLength⟩ := read?_of_starts hLeads.toStarts
    have hStarts := starts_of_read? hRead
    have hLongest : indent.length ≤ d.indent.length := hLeads.longest _ _ hStarts
    -- The two agree up to the equals sign and leave equally many blanks out.
    have hText := hLeads.text_eq.symm.trans hStarts.text_eq
    simp only [source, List.append_assoc, List.append_cancel_left_eq, List.cons_append,
      List.cons.injEq, true_and, List.nil_append] at hText
    obtain ⟨rfl, rfl, rfl⟩ := value_unique hText (Nat.le_antisymm hLength hLongest)
      hLeads.wellFormed.value hStarts.wellFormed.value
    exact hRead

theorem exists_read?_iff : (∃ d rest, read? cs = some (d, rest)) ↔ ∃ d rest, Starts d cs rest := by
  constructor
  · rintro ⟨d, rest, hRead⟩
    exact ⟨d, rest, starts_of_read? hRead⟩
  · rintro ⟨d, rest, hStarts⟩
    obtain ⟨indent, value, rest', hRead, -⟩ := read?_of_starts hStarts
    exact ⟨_, _, hRead⟩

theorem read?_eq_none_iff : read? cs = none ↔ ∀ d rest, ¬ Starts d cs rest := by
  rw [Option.eq_none_iff_forall_ne_some]
  constructor
  · intro hNone d rest hStarts
    obtain ⟨d', rest', hRead⟩ := exists_read?_iff.mpr ⟨d, rest, hStarts⟩
    exact hNone _ hRead
  · rintro hNone ⟨d, rest⟩ hRead
    exact hNone d rest (starts_of_read? hRead)

/-- What follows a directive begins right behind its bytes. -/
theorem extract_of_starts (hStarts : d.Starts cs rest) :
    (String.ofList cs).toByteArray.extract d.size (String.ofList cs).utf8ByteSize =
      (String.ofList rest).toByteArray := by
  rw [hStarts.text_eq, String.ofList_append, String.toByteArray_append]
  refine ByteArray.extract_append_eq_right ?_ ?_
  · rw [size, String.size_toByteArray]
  · rw [String.utf8ByteSize_append, String.size_toByteArray, String.size_toByteArray]

end Directive

-- ---------------------------------------------------------------------------
-- Tokens
-- ---------------------------------------------------------------------------

/-- The segments of a text from left to right. A directive is taken wherever one starts, unless it
is inside another; what stands between two directives, or at an end, is one piece of plain text. -/
inductive Tokens : List Char → List Segment → Prop where
  | nil : Tokens [] []
  | directive {d : Directive} {cs rest : List Char} {segments : List Segment}
      (hLeads : d.Leads cs rest) (hRest : Tokens rest segments) :
      Tokens cs (.directive d :: segments)
  | plain {text rest : List Char} {segments : List Segment} (hNonempty : text ≠ [])
      (hNone : ∀ behind, behind ≠ [] → behind <:+ text →
        ∀ d rest', ¬ Directive.Starts d (behind ++ rest) rest')
      (hWhole : ∀ text', segments.head? ≠ some (.plain text')) (hRest : Tokens rest segments) :
      Tokens (text ++ rest) (.plain text :: segments)

namespace Segment

variable {c : Char} {cs rest text : List Char} {d : Directive} {segments : List Segment}

theorem all_of_read? (hRead : Directive.read? cs = some (d, rest)) :
    all cs = directive d :: all rest := by
  cases cs with
  | nil => cases hRead
  | cons c cs =>
    rw [all]
    split
    · rename_i d' rest' hRead'
      rw [hRead] at hRead'
      cases hRead'
      rfl
    · rename_i hNone
      rw [hRead] at hNone
      cases hNone

theorem all_cons_of_none (hNone : Directive.read? (c :: cs) = none) :
    all (c :: cs) = cons c (all cs) := by
  rw [all]
  split
  · rename_i d rest hRead
    rw [hNone] at hRead
    cases hRead
  · rfl

/-- A character in front of a directive, or of nothing, is plain text on its own. -/
theorem cons_of_head? (hWhole : ∀ text', segments.head? ≠ some (plain text')) :
    cons c segments = plain [c] :: segments := by
  cases segments with
  | nil => rfl
  | cons segment segments =>
    cases segment with
    | plain text => exact absurd rfl (hWhole text)
    | directive d => rfl

/-- Plain text is scanned as one piece if no directive starts in it. -/
theorem all_append (hNonempty : text ≠ [])
    (hNone : ∀ behind, behind ≠ [] → behind <:+ text →
      ∀ d rest', ¬ Directive.Starts d (behind ++ rest) rest')
    (hWhole : ∀ text', (all rest).head? ≠ some (plain text')) :
    all (text ++ rest) = plain text :: all rest := by
  induction text with
  | nil => exact absurd rfl hNonempty
  | cons c text ih =>
    have hRead : Directive.read? (c :: (text ++ rest)) = none :=
      Directive.read?_eq_none_iff.mpr (hNone (c :: text) hNonempty List.suffix_rfl)
    rw [List.cons_append, all_cons_of_none hRead]
    cases text with
    | nil => exact cons_of_head? hWhole
    | cons c' text =>
      rw [ih (List.cons_ne_nil _ _) fun behind hBehind hSuffix =>
        hNone behind hBehind (hSuffix.trans (List.suffix_cons _ _))]
      rfl

end Segment

namespace Tokens

variable {c : Char} {cs : List Char} {segments : List Segment}

/-- A character at which no directive starts joins the plain text behind it. -/
theorem cons (hTokens : Tokens cs segments)
    (hNone : ∀ d rest, ¬ Directive.Starts d (c :: cs) rest) :
    Tokens (c :: cs) (Segment.cons c segments) := by
  -- On its own it is the only place of the text [c] at which a directive could start.
  have hAlone : ∀ behind, behind ≠ [] → behind <:+ [c] →
      ∀ d rest', ¬ Directive.Starts d (behind ++ cs) rest' := by
    intro behind hBehind hSuffix
    rcases List.suffix_cons_iff.mp hSuffix with rfl | hNil
    · exact hNone
    · exact absurd (List.suffix_nil.mp hNil) hBehind
  cases hTokens with
  | nil =>
    refine plain (List.cons_ne_nil _ _) hAlone ?_ nil
    intro text' hHead
    cases hHead
  | directive hLeads hRest =>
    refine plain (List.cons_ne_nil _ _) hAlone ?_ (directive hLeads hRest)
    intro text' hHead
    cases hHead
  | @plain text rest segments hNonempty hNone' hWhole hRest =>
    refine @plain (c :: text) rest segments (List.cons_ne_nil _ _) ?_ hWhole hRest
    intro behind hBehind hSuffix
    rcases List.suffix_cons_iff.mp hSuffix with rfl | hTail
    · exact hNone
    · exact hNone' behind hBehind hTail

theorem of_all (cs : List Char) : Tokens cs (Segment.all cs) := by
  fun_induction Segment.all cs with
  | case1 => exact nil
  | case2 c cs d rest hRead ih => exact directive (Directive.leads_of_read? hRead) ih
  | case3 c cs hNone ih => exact ih.cons (Directive.read?_eq_none_iff.mp hNone)

/-- A text has only one list of tokens. -/
theorem all_eq (hTokens : Tokens cs segments) : Segment.all cs = segments := by
  induction hTokens with
  | nil => rw [Segment.all]
  | directive hLeads _ ih => rw [Segment.all_of_read? (Directive.read?_eq_some_iff.mpr hLeads), ih]
  | plain hNonempty hNone hWhole _ ih =>
    rw [Segment.all_append hNonempty hNone (by rwa [ih]), ih]

end Tokens

namespace Template

/-- Scanning a template gives its tokens. -/
theorem segments_eq_iff {template : String} {segments : List Segment} :
    Template.segments template = segments ↔ Tokens template.toList segments := by
  constructor
  · rintro rfl
    exact Tokens.of_all _
  · exact Tokens.all_eq

/--
**Templates follow the grammar of directives.** A text is read as a directive
exactly if it starts with one, and what is read is the one that leaves most
blanks out of the value; what follows begins right behind the bytes of that
directive. Scanning a template gives exactly its tokens: a directive wherever
one starts that is not inside an earlier one, plain text between them, and
nothing of the template is lost.
-/
theorem scan_follows_grammar :
    (∀ cs : List Char, (Directive.read? cs).isSome = true ↔
      ∃ d rest, Directive.WellFormed d ∧ cs = d.source ++ rest) ∧
    (∀ (cs : List Char) (d : Directive) (rest : List Char),
      Directive.read? cs = some (d, rest) ↔ d.Leads cs rest) ∧
    (∀ (cs : List Char) (d : Directive) (rest : List Char),
      Directive.read? cs = some (d, rest) →
        (String.ofList cs).toByteArray.extract d.size (String.ofList cs).utf8ByteSize =
          (String.ofList rest).toByteArray) ∧
    (∀ (template : String) (segments : List Segment),
      Template.segments template = segments ↔ Tokens template.toList segments) ∧
    ∀ template : String, (segments template).flatMap Segment.source = template.toList := by
  refine ⟨?_, fun _ _ _ => Directive.read?_eq_some_iff, ?_, fun _ _ => segments_eq_iff,
    fun _ => Segment.flatMap_source_all _⟩
  · intro cs
    rw [Option.isSome_iff_exists, Prod.exists, Directive.exists_read?_iff]
    exact exists_congr fun d => exists_congr fun rest =>
      ⟨fun h => ⟨h.wellFormed, h.text_eq⟩, fun h => ⟨h.1, h.2⟩⟩
  · intro cs d rest hRead
    exact Directive.extract_of_starts (Directive.starts_of_read? hRead)

-- A value may be nothing but a blank, which is then not left out of it.
example : (segments "A\x7bset x=1\x7dB\x7bset mood = \x7dC").map Segment.source =
    ["A", "\x7bset x=1\x7d", "B", "\x7bset mood = \x7d", "C"].map String.toList := by
  decide +kernel

end Template

end Gamebook
