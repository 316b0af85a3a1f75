import Gamebook.Json.Error
import Gamebook.Number.Numeral

/-!
# Gamebook — numerals in JSON

* `Json.scanNumeral` — the numeral at the start of a text: an optional minus, a
  whole part without a leading zero, an optional fraction, an optional exponent.
* `Accumulated` — the significand that a run of digits fills, at most 64 bits.
* `Numeral.read` — what a numeral stands for: an integer, or the number that
  its 64-bit significand and its power of ten give.

A numeral with a fraction or an exponent, or beyond 64 bits, is not read to the
nearest number: its significand is rounded, and so is the scaling by the power
of ten, in steps of at most 308 places. The result may miss the nearest number
by a few units in the last place.
-/

namespace Gamebook

open Text Json

namespace Json

/-! ## Scanning -/

/-- At least one digit: the digits and what follows, or how the text fails. -/
def someDigits (cs : List Char) : Except Error (List (Fin 10) × List Char) :=
  match digits cs with
  | ([], []) => .error (.endOfText .value)
  | ([], _ :: _) => .error .invalidNumber
  | (d :: ds, rest) => .ok (d :: ds, rest)

/-- The whole part: a zero on its own, or digits that do not begin with one. -/
def scanWhole (cs : List Char) : Except Error (List (Fin 10) × List Char) := do
  let (whole, rest) ← someDigits cs
  if whole.head? == some 0 && whole.length != 1 then .error .invalidNumber
  else .ok (whole, rest)

/-- The fraction, if there is a point. -/
def scanFraction : List Char → Except Error (Option (List (Fin 10)) × List Char)
  | '.' :: cs => do
    let (fraction, rest) ← someDigits cs
    .ok (some fraction, rest)
  | cs => .ok (none, cs)

/-- The exponent, if there is an `e` or `E`. -/
def scanExponent : List Char → Except Error (Option (Bool × List (Fin 10)) × List Char)
  | [] => .ok (none, [])
  | c :: cs =>
    if c == 'e' || c == 'E' then do
      let (exponent, rest) ← someDigits (Numeral.sign cs).2
      .ok (some ((Numeral.sign cs).1, exponent), rest)
    else .ok (none, c :: cs)

/-- An optional minus: whether it is there, and what follows. -/
def scanMinus : List Char → Bool × List Char
  | '-' :: cs => (true, cs)
  | cs => (false, cs)

/-- The numeral at the start of a text, and what follows it. -/
def scanNumeral (cs : List Char) : Except Error (Numeral × List Char) := do
  let (whole, rest) ← scanWhole (scanMinus cs).2
  let (fraction, rest) ← scanFraction rest
  let (exponent, rest) ← scanExponent rest
  .ok ({ negative := (scanMinus cs).1, whole, fraction, exponent }, rest)

/-! ## Lengths -/

theorem length_someDigits_lt {cs rest : List Char} {ds : List (Fin 10)}
    (h : someDigits cs = .ok (ds, rest)) : rest.length < cs.length := by
  have hl := length_digits_add cs
  unfold someDigits at h
  split at h
  · simp at h
  · simp at h
  · rename_i heq
    simp only [Except.ok.injEq, Prod.mk.injEq] at h
    simp only [heq, List.length_cons] at hl
    rw [← h.2]
    omega

theorem length_scanWhole_lt {cs rest : List Char} {ds : List (Fin 10)}
    (h : scanWhole cs = .ok (ds, rest)) : rest.length < cs.length := by
  unfold scanWhole at h
  cases hd : someDigits cs with
  | error e => simp [hd, bind, Except.bind] at h
  | ok p =>
    simp only [hd, bind, Except.bind] at h
    split at h
    · simp at h
    · simp only [Except.ok.injEq, Prod.mk.injEq] at h
      have : p.2.length < _ := length_someDigits_lt hd
      rw [← h.2]
      exact this

theorem length_scanFraction_le {cs rest : List Char} {f : Option (List (Fin 10))}
    (h : scanFraction cs = .ok (f, rest)) : rest.length ≤ cs.length := by
  unfold scanFraction at h
  split at h
  · rename_i cs
    cases hd : someDigits cs with
    | error e => simp [hd, bind, Except.bind] at h
    | ok p =>
      simp only [hd, bind, Except.bind, Except.ok.injEq, Prod.mk.injEq] at h
      have : p.2.length < _ := length_someDigits_lt hd
      rw [← h.2]
      simp only [List.length_cons]
      omega
  · simp only [Except.ok.injEq, Prod.mk.injEq] at h
    simp [h.2]

theorem length_sign_le (cs : List Char) : (Numeral.sign cs).2.length ≤ cs.length := by
  unfold Numeral.sign
  split <;> simp

theorem length_scanExponent_le {cs rest : List Char} {e : Option (Bool × List (Fin 10))}
    (h : scanExponent cs = .ok (e, rest)) : rest.length ≤ cs.length := by
  unfold scanExponent at h
  split at h
  · simp only [Except.ok.injEq, Prod.mk.injEq] at h
    simp [← h.2]
  · rename_i c cs
    split at h
    · cases hd : someDigits (Numeral.sign cs).2 with
      | error e => simp [hd, bind, Except.bind] at h
      | ok p =>
        simp only [hd, bind, Except.bind, Except.ok.injEq, Prod.mk.injEq] at h
        have : p.2.length < _ := length_someDigits_lt hd
        have := length_sign_le cs
        rw [← h.2]
        simp only [List.length_cons]
        omega
    · simp only [Except.ok.injEq, Prod.mk.injEq] at h
      simp [← h.2]

/-- A numeral takes at least one character. -/
theorem length_scanNumeral_lt {cs rest : List Char} {n : Numeral}
    (h : scanNumeral cs = .ok (n, rest)) : rest.length < cs.length := by
  have hm : (scanMinus cs).2.length ≤ cs.length := by
    unfold scanMinus
    split <;> simp
  unfold scanNumeral at h
  cases hw : scanWhole (scanMinus cs).2 with
  | error e => simp [hw, bind, Except.bind] at h
  | ok w =>
    have : w.2.length < _ := length_scanWhole_lt hw
    cases hf : scanFraction w.2 with
    | error e => simp [hw, hf, bind, Except.bind] at h
    | ok f =>
      have : f.2.length ≤ _ := length_scanFraction_le hf
      cases he : scanExponent f.2 with
      | error e => simp [hw, hf, he, bind, Except.bind] at h
      | ok e =>
        have : e.2.length ≤ _ := length_scanExponent_le he
        simp only [hw, hf, he, bind, Except.bind, Except.ok.injEq, Prod.mk.injEq] at h
        rw [← h.2]
        omega

end Json

/-! ## Significands of 64 bits -/

/-- A significand filled by digits as long as it fits 64 bits. -/
structure Accumulated where
  significand : Nat
  /-- The digits that fitted. -/
  taken : Nat
  /-- The digits from the first one that did not fit. -/
  dropped : Nat
deriving DecidableEq

/-- Fills a significand; the first digit that does not fit ends it. -/
def accumulate (significand : Nat) : List (Fin 10) → Accumulated
  | [] => ⟨significand, 0, 0⟩
  | d :: ds =>
    if 10 * significand + d < Nat.pow 2 64 then
      let rest := accumulate (10 * significand + d) ds
      { rest with taken := rest.taken + 1 }
    else ⟨significand, 0, ds.length + 1⟩

namespace Magnitude

/-! ## Scaling by powers of ten -/

/-- The magnitude nearest to `10 ^ n`, for the places up to 308. -/
def powerOfTen (n : Nat) : Magnitude := (ofRatio? (Nat.pow 10 n) 1).getD zero

/-- Divides by `10 ^ places`, at most 308 places at a time and no further than zero. -/
def scaleDown (m : Magnitude) (places : Nat) : Magnitude :=
  if places ≤ 308 then (m.div? (powerOfTen places)).getD zero
  else if m.units = 0 then m
  else scaleDown ((m.div? (powerOfTen 308)).getD zero) (places - 308)
termination_by places

/-- Multiplies by `10 ^ places`; `none` beyond the largest magnitude. Zero stays zero, and
nothing else survives more than 308 places. -/
def scaleUp? (m : Magnitude) (places : Nat) : Option Magnitude :=
  if places ≤ 308 then m.mul? (powerOfTen places)
  else if m.units = 0 then some m
  else none

/-- A 64-bit significand times a power of ten. -/
def scaled? (significand : Nat) (exponent : Int) : Option Magnitude := do
  let m ← ofRatio? significand 1
  match exponent with
  | .ofNat places => m.scaleUp? places
  | .negSucc places => some (m.scaleDown (places + 1))

end Magnitude

namespace Numeral

/-! ## What a numeral stands for -/

/-- What a numeral stands for. -/
inductive Reading where
  | integer (i : Int)
  | real (x : Number)
deriving DecidableEq

def Reading.number : Reading → Number
  | integer i => .ofInt i
  | real x => x

/-- The largest exponent that is taken as written. -/
def exponentLimit : Nat := Nat.pow 2 31 - 1

/-- The number of that sign and that magnitude, which must not be beyond the largest. -/
def inRange (negative : Bool) : Option Magnitude → Except Error Number
  | some m => .ok (.finite negative m)
  | none => .error .numberOutOfRange

/-- The number of a 64-bit significand and a power of ten. -/
def scaledNumber (negative : Bool) (significand : Nat) (exponent : Int) :
    Except Error Number :=
  inRange negative (Magnitude.scaled? significand exponent)

/-- The number of a numeral through its 64-bit significand. -/
def readReal (n : Numeral) : Except Error Number :=
  let whole := accumulate 0 n.whole
  let filled := accumulate whole.significand n.fractionDigits
  -- An exponent past the limit decides the result, whatever the digits scale to.
  if exponentLimit < n.exponentValue.natAbs then
    if n.exponentValue < 0 || filled.significand = 0 then .ok (.finite n.negative .zero)
    else .error .numberOutOfRange
  else
    -- Each fraction digit taken lowers the power of ten, each whole digit dropped raises it.
    scaledNumber n.negative filled.significand
      (n.exponentValue - filled.taken + whole.dropped)

def isWhole (n : Numeral) : Bool := n.fraction.isNone && n.exponent.isNone

/-- What a numeral stands for. A whole numeral that fits 64 bits is an integer; minus zero
and a negative one beyond 63 bits are numbers. -/
def read (n : Numeral) : Except Error Reading :=
  let value := digitsValue n.whole
  if n.isWhole && value < Nat.pow 2 64 then
    if !n.negative then .ok (.integer value)
    else if value = 0 then .ok (.real (.finite true .zero))
    else if value ≤ Nat.pow 2 63 then .ok (.integer (-value))
    else .ok (.real (.ofInt (-value)))
  else n.readReal.map .real

end Numeral

end Gamebook
