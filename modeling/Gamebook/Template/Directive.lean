import Gamebook.Literal
import Gamebook.Text.Word
import Gamebook.Vars

/-!
# Gamebook — set directives

* `Directive` — the parts of a directive as it is written.
* `Directive.source` — the characters it was written with.
* `Directive.WellFormed` — which parts make a directive.
* `Directive.read?` — the directive at the start of a text and what follows it.
* `Directive.setIn` — the variables after a directive.

A directive is an opening brace, `set`, at least one blank, a name, an equals
sign with optional blanks around it, a value, and a closing brace. The value
has at least one character, stays on one line, and ends at the first closing
brace behind its first character. Of the blanks in front of the value as many
as possible are left out of it.
-/

namespace Gamebook

open Text

/-- The parts of a set directive. -/
structure Directive where
  /-- The blanks behind `set`. -/
  lead : List Char
  name : List Char
  /-- The blanks between the name and the equals sign. -/
  gap : List Char
  /-- The blanks between the equals sign and the value. -/
  indent : List Char
  value : List Char
deriving DecidableEq

namespace Directive

/-- The characters a directive begins with. -/
def opening : List Char := ['\x7b', 's', 'e', 't']

/-- The directive as it was written. -/
def source (d : Directive) : List Char :=
  opening ++ (d.lead ++ (d.name ++ (d.gap ++ '=' :: (d.indent ++ (d.value ++ ['\x7d'])))))

/-- A value: not empty, on one line, and no closing brace behind its first character. -/
def IsValue (value : List Char) : Prop :=
  ∃ c cs, value = c :: cs ∧ isLineEnd c = false ∧
    ∀ x ∈ cs, x ≠ '\x7d' ∧ isLineEnd x = false

/-- The parts that make a directive. -/
structure WellFormed (d : Directive) : Prop where
  lead : d.lead ≠ [] ∧ ∀ c ∈ d.lead, isBlank c = true
  name : d.name ≠ [] ∧ ∀ c ∈ d.name, isWordChar c = true
  gap : ∀ c ∈ d.gap, isBlank c = true
  indent : ∀ c ∈ d.indent, isBlank c = true
  value : IsValue d.value

/-- The variable that the directive sets. -/
def target (d : Directive) : String := String.ofList d.name

/-- The value that it sets the variable to. -/
def assigned (d : Directive) : Value := .ofLiteral (String.ofList d.value)

/-- The variables after the directive. -/
def setIn (vars : Vars) (d : Directive) : Vars := vars.insert d.target d.assigned

/-! ## Reading -/

/-- The characters up to the next closing brace on the line, and what follows it. -/
def untilClose? : List Char → Option (List Char × List Char)
  | [] => none
  | c :: cs =>
    if c == '\x7d' then some ([], cs)
    else if isLineEnd c then none
    else (untilClose? cs).map fun p => (c :: p.1, p.2)

/-- A value that begins with the first character of the text, and what follows its closing
brace. -/
def valueAt? : List Char → Option (List Char × List Char)
  | [] => none
  | c :: cs => if isLineEnd c then none else (untilClose? cs).map fun p => (c :: p.1, p.2)

/-- The blanks left out, the value, and what follows, with as many blanks left out as leave
a value. -/
def indented? : List Char → Option (List Char × List Char × List Char)
  | [] => none
  | c :: cs =>
    if isBlank c then
      -- A blank is left out if a value remains behind it, and is part of the value if not.
      match indented? cs with
      | some (indent, value, rest) => some (c :: indent, value, rest)
      | none => (valueAt? (c :: cs)).map fun p => ([], p.1, p.2)
    else (valueAt? (c :: cs)).map fun p => ([], p.1, p.2)

/-- The leading blanks of a text. -/
def blanks (cs : List Char) : List Char := cs.takeWhile isBlank

/-- The directive whose text behind `set` begins with `cs`, and what follows it. -/
def behindSet? (cs : List Char) : Option (Directive × List Char) :=
  let named := trimStart cs
  if (blanks cs).isEmpty || (word named).isEmpty then none
  else
    match trimStart (afterWord named) with
    | '=' :: area =>
      (indented? area).map fun (indent, value, rest) =>
        ({ lead := blanks cs, name := word named, gap := blanks (afterWord named), indent,
           value }, rest)
    | _ => none

/-- The directive at the start of a text, and what follows it. -/
def read? : List Char → Option (Directive × List Char)
  | '\x7b' :: 's' :: 'e' :: 't' :: cs => behindSet? cs
  | _ => none

/-! ## Nothing is lost in reading -/

/-- Everything up to the closing brace is the value and that brace. -/
theorem eq_of_untilClose? {cs value rest : List Char}
    (h : untilClose? cs = some (value, rest)) : cs = value ++ '\x7d' :: rest := by
  induction cs generalizing value with
  | nil => simp [untilClose?] at h
  | cons c cs ih =>
    rw [untilClose?] at h
    split at h
    · simp_all
    · split at h
      · simp at h
      · obtain ⟨p, hp, hv⟩ := Option.map_eq_some_iff.1 h
        simp only [Prod.mk.injEq] at hv
        rw [← hv.1, List.cons_append, ← ih (by rw [hp, ← hv.2])]

theorem eq_of_valueAt? {cs value rest : List Char} (h : valueAt? cs = some (value, rest)) :
    cs = value ++ '\x7d' :: rest := by
  cases cs with
  | nil => simp [valueAt?] at h
  | cons c cs =>
    rw [valueAt?] at h
    split at h
    · simp at h
    · obtain ⟨p, hp, hv⟩ := Option.map_eq_some_iff.1 h
      simp only [Prod.mk.injEq] at hv
      rw [← hv.1, List.cons_append, ← eq_of_untilClose? (by rw [hp, ← hv.2])]

theorem eq_of_indented? {cs indent value rest : List Char}
    (h : indented? cs = some (indent, value, rest)) :
    cs = indent ++ (value ++ '\x7d' :: rest) := by
  induction cs generalizing indent value rest with
  | nil => simp [indented?] at h
  | cons c cs ih =>
    have here : ∀ {indent value rest},
        (valueAt? (c :: cs)).map (fun p => (([] : List Char), p.1, p.2)) =
          some (indent, value, rest) → c :: cs = indent ++ (value ++ '\x7d' :: rest) := by
      intro indent value rest h
      obtain ⟨p, hp, hv⟩ := Option.map_eq_some_iff.1 h
      simp only [Prod.mk.injEq] at hv
      rw [← hv.1, ← hv.2.1, ← hv.2.2, List.nil_append]
      exact eq_of_valueAt? hp
    rw [indented?] at h
    split at h
    · split at h
      · rename_i i v r hr
        simp only [Option.some.injEq, Prod.mk.injEq] at h
        rw [← h.1, ← h.2.1, ← h.2.2, List.cons_append, ← ih hr]
      · exact here h
    · exact here h

theorem blanks_append_trimStart (cs : List Char) : blanks cs ++ trimStart cs = cs :=
  List.takeWhile_append_dropWhile

theorem eq_of_behindSet? {cs rest : List Char} {d : Directive}
    (h : behindSet? cs = some (d, rest)) : opening ++ cs = d.source ++ rest := by
  unfold behindSet? at h
  simp only at h
  split at h
  · simp at h
  · split at h
    · rename_i area hgap
      obtain ⟨p, hp, hv⟩ := Option.map_eq_some_iff.1 h
      obtain ⟨indent, value, r⟩ := p
      simp only [Prod.mk.injEq] at hv
      have harea := eq_of_indented? hp
      conv => lhs; rw [← blanks_append_trimStart cs, ← word_append_afterWord (trimStart cs),
        ← blanks_append_trimStart (afterWord (trimStart cs)), hgap, harea]
      rw [← hv.1, ← hv.2]
      simp [source]
    · simp at h

/-- What is read is the source of the directive, and nothing of the text is lost. -/
theorem eq_of_read? {cs rest : List Char} {d : Directive} (h : read? cs = some (d, rest)) :
    cs = d.source ++ rest := by
  unfold read? at h
  split at h
  · rw [← eq_of_behindSet? h]; rfl
  · simp at h

/-- A directive takes at least one character. -/
theorem length_lt_of_read? {cs rest : List Char} {d : Directive}
    (h : read? cs = some (d, rest)) : rest.length < cs.length := by
  rw [eq_of_read? h]
  simp [source, opening]
  omega

end Directive

end Gamebook
