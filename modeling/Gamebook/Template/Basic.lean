import Gamebook.Template.Directive
import Gamebook.Template.Placeholder

/-!
# Gamebook — scene templates

* `Segment` — a run of plain text or a set directive.
* `Template.segments` — the segments of a template, from left to right.
* `Template.directives`, `Template.stripped` — its directives, and its text
  without them and without the blanks at its ends.
* `Template.placeholders` — the names of the placeholders in its plain text.
* `Template.assign` — the variables after its directives.
* `Template.shown` — the text that is shown: the stripped text with the values
  that the variables have after the directives.
* `Template.apply`, `Template.process` — a template carried out in one pass over
  its segments: the text and the variables it leaves. `process_eq` says that
  these are `shown` and `assign`.
-/

namespace Gamebook

/-- A run of plain text or a set directive. -/
inductive Segment where
  | plain (text : List Char)
  | directive (d : Directive)
deriving DecidableEq

namespace Segment

/-- A plain character in front of segments: it joins a run of plain text. -/
def cons (c : Char) : List Segment → List Segment
  | plain text :: segments => plain (c :: text) :: segments
  | segments => plain [c] :: segments

def all : List Char → List Segment
  | [] => []
  | c :: cs =>
    match _h : Directive.read? (c :: cs) with
    | some (d, rest) => directive d :: all rest
    | none => cons c (all cs)
termination_by cs => cs.length
decreasing_by
  · exact Directive.length_lt_of_read? ‹_›
  · simp

/-- The characters a segment was written with. -/
def source : Segment → List Char
  | plain text => text
  | directive d => d.source

/-- The plain text of a segment, none for a directive. -/
def text : Segment → List Char
  | plain text => text
  | directive _ => []

def directive? : Segment → Option Directive
  | plain _ => none
  | directive d => some d

@[simp] theorem flatMap_source_cons (c : Char) (segments : List Segment) :
    (cons c segments).flatMap source = c :: segments.flatMap source := by
  unfold cons
  split <;> simp [source]

/-- The segments of a text make up the text. -/
theorem flatMap_source_all (cs : List Char) : (all cs).flatMap source = cs := by
  fun_induction all cs with
  | case1 => rfl
  | case2 c cs d rest h ih => rw [List.flatMap_cons, ih]; exact (Directive.eq_of_read? h).symm
  | case3 c cs h ih => rw [flatMap_source_cons, ih]

end Segment

namespace Template

def segments (template : String) : List Segment := Segment.all template.toList

/-- The directives of a template, in their order. -/
def directives (template : String) : List Directive :=
  (segments template).filterMap Segment.directive?

/-- The plain text of a template without the blanks at its ends. -/
def stripped (template : String) : List Char :=
  Text.trim ((segments template).flatMap Segment.text)

/-- The names of the placeholders in the plain text of a template. -/
def placeholders (template : String) : List String :=
  (segments template).flatMap fun segment => Piece.names segment.text

/-- The variables after the directives of a template. -/
def assign (template : String) (vars : Vars) : Vars :=
  (directives template).foldl Directive.setIn vars

/-- The stripped text of a template with values put in. -/
def fill (template : String) (vars : Vars) : String :=
  String.ofList (interpolate vars (stripped template))

/-- The text that a template shows when it is entered with some variables. -/
def shown (template : String) (vars : Vars) : String := fill template (assign template vars)

end Template

/-! ## One pass over a template -/

/-- Carries out a segment: plain text joins the text so far, a directive sets its variable. -/
def Segment.carryOut (done : List Char × Vars) : Segment → List Char × Vars
  | plain text => (done.1 ++ text, done.2)
  | directive d => (done.1, d.setIn done.2)

namespace Template

/-- Carries out the directives of a template. Gives the text without them and the variables
after them. -/
def apply (template : String) (vars : Vars) : List Char × Vars :=
  let done := (segments template).foldl Segment.carryOut ([], vars)
  (Text.trim done.1, done.2)

/-- Carries out a template: its directives, and then its placeholders. -/
def process (template : String) (vars : Vars) : String × Vars :=
  let done := apply template vars
  (String.ofList (interpolate done.2 done.1), done.2)

/-- The pass collects the plain text and carries out the directives independently. -/
theorem foldl_carryOut (segments : List Segment) (text : List Char) (vars : Vars) :
    segments.foldl Segment.carryOut (text, vars) =
      (text ++ segments.flatMap Segment.text,
        (segments.filterMap Segment.directive?).foldl Directive.setIn vars) := by
  induction segments generalizing text vars with
  | nil => simp
  | cons segment segments ih =>
    rw [List.foldl_cons, ih]
    cases segment with
    | plain t =>
      have htext : (Segment.plain t :: segments).flatMap Segment.text =
          t ++ segments.flatMap Segment.text := List.flatMap_cons
      rw [htext, ← List.append_assoc]
      rfl
    | directive d =>
      have htext : (Segment.directive d :: segments).flatMap Segment.text =
          segments.flatMap Segment.text := List.flatMap_cons
      rw [htext]
      rfl

theorem apply_eq (template : String) (vars : Vars) :
    apply template vars = (stripped template, assign template vars) := by
  rw [apply, foldl_carryOut, List.nil_append]
  rfl

/-- One pass gives the text that is shown and the variables after the directives. -/
theorem process_eq (template : String) (vars : Vars) :
    process template vars = (shown template vars, assign template vars) := by
  rw [process, apply_eq]
  rfl

end Template

end Gamebook
