import Gamebook.Text.Word
import Gamebook.Vars

/-!
# Gamebook — placeholders

* `Piece` — a plain character or a placeholder: a name between braces.
* `Piece.all` — the pieces of a text, from left to right.
* `Piece.names` — the names of its placeholders.
* `interpolate` — the text with the values of defined variables in place of
  their placeholders; a placeholder of an undefined variable stays as it is.

The pieces are found before any value is put in, so a value is never searched
for placeholders itself.
-/

namespace Gamebook

open Text

/-- A piece of a text. -/
inductive Piece where
  | plain (c : Char)
  | placeholder (name : List Char)
deriving DecidableEq

namespace Piece

def source : Piece → List Char
  | plain c => [c]
  | placeholder name => '\x7b' :: (name ++ ['\x7d'])

/-- The placeholder at the start of a text, and what follows it. -/
def read? : List Char → Option (List Char × List Char)
  | '\x7b' :: cs =>
    if (word cs).isEmpty then none
    else
      match afterWord cs with
      | '\x7d' :: rest => some (word cs, rest)
      | _ => none
  | _ => none

theorem eq_of_read? {cs name rest : List Char} (h : read? cs = some (name, rest)) :
    cs = (placeholder name).source ++ rest := by
  unfold read? at h
  split at h
  · rename_i cs
    split at h
    · simp at h
    · split at h
      · rename_i r hr
        simp only [Option.some.injEq, Prod.mk.injEq] at h
        conv => lhs; rw [← word_append_afterWord cs, hr]
        rw [← h.1, ← h.2]
        simp [source]
      · simp at h
  · simp at h

/-- A placeholder takes at least one character. -/
theorem length_lt_of_read? {cs name rest : List Char} (h : read? cs = some (name, rest)) :
    rest.length < cs.length := by
  rw [eq_of_read? h]
  simp [source]
  omega

def all : List Char → List Piece
  | [] => []
  | c :: cs =>
    match _h : read? (c :: cs) with
    | some (name, rest) => placeholder name :: all rest
    | none => plain c :: all cs
termination_by cs => cs.length
decreasing_by
  · exact length_lt_of_read? ‹_›
  · simp

def name? : Piece → Option (List Char)
  | plain _ => none
  | placeholder name => some name

/-- The names of the placeholders of a text, from left to right. -/
def names (cs : List Char) : List String :=
  ((all cs).filterMap name?).map String.ofList

/-- The pieces of a text make up the text. -/
theorem flatMap_source_all (cs : List Char) : (all cs).flatMap source = cs := by
  fun_induction all cs with
  | case1 => rfl
  | case2 c cs name rest h ih => rw [List.flatMap_cons, ih, ← eq_of_read? h]
  | case3 c cs h ih => rw [List.flatMap_cons, ih]; rfl

/-- A piece with the value of its variable put in, if it has one. -/
def fill (vars : Vars) : Piece → List Char
  | plain c => [c]
  | placeholder name =>
    match vars[String.ofList name]? with
    | some v => v.display.toList
    | none => (placeholder name).source

end Piece

/-- The text with the values of defined variables in place of their placeholders. -/
def interpolate (vars : Vars) (cs : List Char) : List Char :=
  (Piece.all cs).flatMap (Piece.fill vars)

end Gamebook
