import Gamebook.Json.Numeral
import Gamebook.Json.Text

/-!
# Gamebook — the tokens of a JSON text

* `Token` — a mark, a scalar, or something that is neither; a scalar that is
  not well formed is a token too and carries its fault.
* `Token.next` — the first token of a text and what follows it.
* `Token.all` — the tokens of a text.

A fault is not raised here: whoever needs the value of a token raises it, so a
text is refused for the first fault that matters. What follows a fault is
never asked for, and the tokens end there.
-/

namespace Gamebook.Json

inductive Token where
  | openArray
  | closeArray
  | openObject
  | closeObject
  | comma
  | colon
  | null
  | bool (b : Bool)
  | number (n : Except Error Numeral)
  | string (s : StringText)
  /-- A misspelled or cut word. -/
  | broken (e : Error)
  /-- A character that begins no token. -/
  | stray

/-- The blanks between tokens. -/
def isSpace (c : Char) : Bool := c == ' ' || c == '\t' || c == '\n' || c == '\r'

/-- What follows the rest of a word, or how the text fails to go on with it. -/
def wordEnd : List Char → List Char → Except Error (List Char)
  | [], cs => .ok cs
  | _ :: _, [] => .error (.endOfText .value)
  | w :: ws, c :: cs => if w = c then wordEnd ws cs else .error .expectedIdent

namespace Token

/-- The token of a word whose first letter was read. -/
def ofWord (token : Token) (ending cs : List Char) : Token × List Char :=
  match wordEnd ending cs with
  | .ok rest => (token, rest)
  | .error e => (.broken e, [])

def ofNumeral (cs : List Char) : Token × List Char :=
  match scanNumeral cs with
  | .ok (n, rest) => (.number (.ok n), rest)
  | .error e => (.number (.error e), [])

/-- The token that begins with `c`, and what follows it. -/
def ofChar (c : Char) (cs : List Char) : Token × List Char :=
  if c == '[' then (openArray, cs)
  else if c == ']' then (closeArray, cs)
  else if c == '\x7b' then (openObject, cs)
  else if c == '\x7d' then (closeObject, cs)
  else if c == ',' then (comma, cs)
  else if c == ':' then (colon, cs)
  else if c == 'n' then ofWord null "ull".toList cs
  else if c == 't' then ofWord (bool true) "rue".toList cs
  else if c == 'f' then ofWord (bool false) "alse".toList cs
  else if c == '"' then (string (StringText.scan cs).1, (StringText.scan cs).2)
  else if c == '-' || c.isDigit then ofNumeral (c :: cs)
  else (stray, cs)

/-- The first token of a text and what follows it, if there is a token. -/
def next : List Char → Option (Token × List Char)
  | [] => none
  | c :: cs => if isSpace c then next cs else some (ofChar c cs)

end Token

theorem length_wordEnd_le {ending cs rest : List Char} (h : wordEnd ending cs = .ok rest) :
    rest.length ≤ cs.length := by
  fun_induction wordEnd ending cs with
  | case1 cs => simp_all
  | case2 => simp at h
  | case3 w ws cs ih => exact Nat.le_succ_of_le (ih h)
  | case4 => simp at h

namespace Token

theorem length_ofWord_le (token : Token) (ending cs : List Char) :
    (ofWord token ending cs).2.length ≤ cs.length := by
  unfold ofWord
  split
  · exact length_wordEnd_le ‹_›
  · simp

theorem length_ofNumeral_lt (c : Char) (cs : List Char) :
    (ofNumeral (c :: cs)).2.length < (c :: cs).length := by
  unfold ofNumeral
  split
  · exact length_scanNumeral_lt ‹_›
  · simp

/-- A token takes at least its first character. -/
theorem length_ofChar_le (c : Char) (cs : List Char) : (ofChar c cs).2.length ≤ cs.length := by
  -- Whatever the first character is, no more is left than without it.
  have hIte : ∀ (first : Bool) {p q : Token × List Char}, p.2.length ≤ cs.length →
      q.2.length ≤ cs.length → (if first then p else q).2.length ≤ cs.length := by
    intro first p q hp hq
    cases first with
    | true => exact hp
    | false => exact hq
  have hSign : ∀ token : Token, (token, cs).2.length ≤ cs.length := fun _ => Nat.le_refl _
  unfold ofChar
  refine hIte _ (hSign _) (hIte _ (hSign _) (hIte _ (hSign _) (hIte _ (hSign _) (hIte _ (hSign _)
    (hIte _ (hSign _) ?_)))))
  refine hIte _ (length_ofWord_le _ _ _) (hIte _ (length_ofWord_le _ _ _)
    (hIte _ (length_ofWord_le _ _ _) ?_))
  refine hIte _ (StringText.length_scan_le cs) (hIte _ ?_ (hSign _))
  exact Nat.le_of_lt_succ (length_ofNumeral_lt c cs)

theorem length_lt_of_next {cs rest : List Char} {t : Token} (h : next cs = some (t, rest)) :
    rest.length < cs.length := by
  fun_induction next cs with
  | case1 => simp at h
  | case2 c cs _ ih => exact Nat.lt_succ_of_lt (ih h)
  | case3 c cs _ =>
    have := length_ofChar_le c cs
    simp only [Option.some.injEq] at h
    rw [h] at this
    exact Nat.lt_succ_of_le this

def all (cs : List Char) : List Token :=
  match _h : next cs with
  | none => []
  | some (t, rest) => t :: all rest
termination_by cs.length
decreasing_by exact length_lt_of_next ‹_›

end Token

end Gamebook.Json
