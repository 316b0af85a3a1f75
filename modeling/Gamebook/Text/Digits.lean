/-!
# Gamebook — decimal digits

* `digit?` — an ASCII digit's value.
* `digits` — the leading run of digits of a text and what follows it.
* `digitsValue` — the natural number that a run of digits writes.
* `count?` — the same where only counts of 64 bits are known, digit by digit.
* `dropPlus` — a text without the plus sign that digits may have in front.
* `decimal` — a natural number written in decimal.
-/

namespace Gamebook.Text

/-- The value of an ASCII digit. -/
def digit? (c : Char) : Option (Fin 10) :=
  if h : '0'.toNat ≤ c.toNat ∧ c.toNat - '0'.toNat < 10 then some ⟨c.toNat - '0'.toNat, h.2⟩
  else none

/-- The leading run of ASCII digits, and what follows it. -/
def digits : List Char → List (Fin 10) × List Char
  | [] => ([], [])
  | c :: cs =>
    match digit? c with
    | some d => (d :: (digits cs).1, (digits cs).2)
    | none => ([], c :: cs)

/-- The natural number that a run of digits writes. -/
def digitsValue (ds : List (Fin 10)) : Nat := ds.foldl (fun n d => 10 * n + d.val) 0

/-- A count with one more digit behind it, if that fits 64 bits. -/
def pushDigit? (n : Nat) (d : Fin 10) : Option Nat :=
  if 10 * n + d.val < Nat.pow 2 64 then some (10 * n + d.val) else none

/-- The count that a run of digits writes. There is none without a digit, and none if the digits
read so far stop fitting 64 bits. -/
def count? (ds : List (Fin 10)) : Option Nat :=
  if ds.isEmpty then none else ds.foldlM pushDigit? 0

/-- A text without one plus sign in front. -/
def dropPlus : List Char → List Char
  | '+' :: cs => cs
  | cs => cs

/-- A natural number in decimal, without leading zeros. -/
def decimal (n : Nat) : List Char := Nat.toDigits 10 n

/-- How many digits `decimal` writes. -/
def decimalLength (n : Nat) : Nat := (decimal n).length

/-- Every digit read was one character of the text. -/
theorem length_digits_add (cs : List Char) :
    (digits cs).1.length + (digits cs).2.length = cs.length := by
  induction cs with
  | nil => simp [digits]
  | cons c cs ih =>
    unfold digits
    split
    · simp only [List.length_cons]; omega
    · simp

end Gamebook.Text
