import Gamebook.Proofs.Grammar
import Gamebook.Proofs.Literals

/-!
# Gamebook — directives as authors write them

In front of a value the grammar does not tell how many blanks belong to it, and
reading leaves out as many as it can. So a directive is read back as it is
exactly if its value begins with no blank; in any other way to write it, the
blanks in front of the literal move out of the value, and the literal is still
the same.

* `Directive.read?_of_wellFormed` — a directive is read back, whatever follows it.
* `Directive.spaced` — the directive that sets a variable to a literal, with a
  blank wherever authors put one.
* `Segment.all_spaced`, `Directive.setIn_spaced` — it is scanned as one segment,
  and it sets the variable to the value that the literal writes.
-/

namespace Gamebook

open Text

variable {x lit : String}

/-- A name of a variable: letters, digits and `_`, at least one. -/
def IsVariable (x : String) : Prop := x.toList ≠ [] ∧ ∀ c ∈ x.toList, isWordChar c = true

instance decidableIsVariable (x : String) : Decidable (IsVariable x) :=
  have := List.decidableBAll (fun c => isWordChar c = true) x.toList
  instDecidableAnd

/-- A literal that a directive can hold: not blank, on one line and without a closing brace. -/
structure FitsDirective (lit : String) : Prop where
  notBlank : ∃ c ∈ lit.toList, isBlank c = false
  line : ∀ c ∈ lit.toList, c ≠ '\x7d' ∧ isLineEnd c = false

namespace Directive

variable {d : Directive} {indent value : List Char}

-- ---------------------------------------------------------------------------
-- Reading back
-- ---------------------------------------------------------------------------

/-- A value that does not begin with a blank is found behind all blanks. -/
theorem indented?_append (hIndent : ∀ c ∈ indent, isBlank c = true) (hValue : IsValue value)
    (hFirst : ∀ c, value.head? = some c → isBlank c = false) (rest : List Char) :
    indented? (indent ++ (value ++ '\x7d' :: rest)) = some (indent, value, rest) := by
  induction indent with
  | nil =>
    have hRead : valueAt? (value ++ '\x7d' :: rest) = some (value, rest) :=
      valueAt?_eq_some_iff.mpr ⟨rfl, hValue⟩
    obtain ⟨c, body, rfl, -, -⟩ := hValue
    rw [List.cons_append] at hRead
    rw [List.nil_append, List.cons_append, indented?, hFirst c rfl, if_neg Bool.false_ne_true,
      hRead]
    rfl
  | cons c indent ih =>
    obtain ⟨hBlank, hTail⟩ := List.forall_mem_cons.mp hIndent
    rw [List.cons_append, indented?, if_pos hBlank, ih hTail]

/-- A directive is read back if its value does not begin with a blank. -/
theorem read?_of_wellFormed (hWellFormed : d.WellFormed)
    (hFirst : ∀ c, d.value.head? = some c → isBlank c = false) (rest : List Char) :
    read? (d.source ++ rest) = some (d, rest) := by
  have hArea := indented?_append hWellFormed.indent hWellFormed.value hFirst rest
  have hText : d.source ++ rest = '\x7b' :: 's' :: 'e' :: 't' :: (d.lead ++ (d.name ++ (d.gap ++
      '=' :: (d.indent ++ (d.value ++ '\x7d' :: rest))))) := by
    simp [source, opening]
  rw [hText, read?, behindSet?_eq hWellFormed, hArea]
  rfl

-- ---------------------------------------------------------------------------
-- With a blank wherever authors put one
-- ---------------------------------------------------------------------------

/-- The directive that sets a variable to a literal, with a blank wherever authors put one. The
blanks in front of the literal itself are left out of its value. -/
def spaced (x lit : String) : Directive where
  lead := [' ']
  name := x.toList
  gap := [' ']
  indent := ' ' :: blanks lit.toList
  value := trimStart lit.toList

theorem isValue_trimStart (hFits : FitsDirective lit) : IsValue (trimStart lit.toList) := by
  obtain ⟨c, hMem, hBlank⟩ := hFits.notBlank
  have hNonempty : trimStart lit.toList ≠ [] := by
    obtain ⟨before, behind, hText⟩ := List.append_of_mem hMem
    rw [hText, trimStart_append hBlank]
    exact List.append_ne_nil_of_right_ne_nil _ (List.cons_ne_nil _ _)
  have hLine : ∀ c ∈ trimStart lit.toList, c ≠ '\x7d' ∧ isLineEnd c = false :=
    fun c hTail => hFits.line c ((List.dropWhile_suffix isBlank).subset hTail)
  obtain ⟨first, body, hText⟩ := List.exists_cons_of_ne_nil hNonempty
  rw [hText, List.forall_mem_cons] at hLine
  exact ⟨first, body, hText, hLine.1.2, hLine.2⟩

theorem isBlank_of_mem_space : ∀ c ∈ [' '], isBlank c = true :=
  List.forall_mem_singleton.mpr rfl

theorem wellFormed_spaced (hName : IsVariable x) (hFits : FitsDirective lit) :
    (spaced x lit).WellFormed where
  lead := ⟨List.cons_ne_nil _ _, isBlank_of_mem_space⟩
  name := hName
  gap := isBlank_of_mem_space
  indent := List.forall_mem_cons.mpr ⟨rfl, fun _ => isBlank_of_mem_blanks⟩
  value := isValue_trimStart hFits

/-- The source of the directive has the literal with all of its blanks. -/
theorem source_spaced (x lit : String) :
    (spaced x lit).source = ("\x7bset " ++ x ++ " = " ++ lit ++ "\x7d").toList := by
  have hLit : blanks lit.toList ++ (trimStart lit.toList ++ ['\x7d']) = lit.toList ++ ['\x7d'] := by
    rw [← List.append_assoc, blanks_append_trimStart]
  simp [source, spaced, opening, hLit]

/-- The directive is read with all the blanks in front of its literal left out. -/
theorem read?_spaced (hName : IsVariable x) (hFits : FitsDirective lit) (rest : List Char) :
    read? ((spaced x lit).source ++ rest) = some (spaced x lit, rest) :=
  read?_of_wellFormed (wellFormed_spaced hName hFits)
    (fun _ hHead => isBlank_of_head?_trimStart hHead) rest

/-- Without those blanks the literal writes the same value. -/
theorem assigned_spaced (x lit : String) : (spaced x lit).assigned = .ofLiteral lit := by
  have hBlank : ∀ c ∈ blanks lit.toList, isBlank c = true := fun _ => isBlank_of_mem_blanks
  have hTrim : trim lit.toList = trim (trimStart lit.toList) := by
    rw [← trim_append_left hBlank (trimStart lit.toList), blanks_append_trimStart]
  apply Value.ofLiteral_congr
  rw [String.toList_ofList, hTrim]
  rfl

theorem setIn_spaced (x lit : String) (vars : Vars) :
    (spaced x lit).setIn vars = vars.insert x (.ofLiteral lit) := by
  have hTarget : (spaced x lit).target = x := String.ofList_toList
  rw [setIn, hTarget, assigned_spaced]

end Directive

/-- The directive is a segment of its own, and the scan goes on behind it. -/
theorem Segment.all_spaced (hName : IsVariable x) (hFits : FitsDirective lit) (rest : List Char) :
    all ((Directive.spaced x lit).source ++ rest) = .directive (.spaced x lit) :: all rest :=
  all_of_read? (Directive.read?_spaced hName hFits rest)

end Gamebook
