import Gamebook.Json.Error

/-!
# Gamebook — strings in JSON

* `Json.readString` — the contents of a string, read from behind its opening
  quote: escapes replaced, surrogate pairs joined.
* `Json.skipString` — the same string only passed over: its escapes must be
  well formed, but surrogates need not be paired.
-/

namespace Gamebook.Json

/-! ## Escapes -/

/-- The value of a hexadecimal digit of either case. -/
def hexDigit? (c : Char) : Option Nat :=
  if '0'.toNat ≤ c.toNat && c.toNat ≤ '9'.toNat then some (c.toNat - '0'.toNat)
  else if 'a'.toNat ≤ c.toNat && c.toNat ≤ 'f'.toNat then some (c.toNat - 'a'.toNat + 10)
  else if 'A'.toNat ≤ c.toNat && c.toNat ≤ 'F'.toNat then some (c.toNat - 'A'.toNat + 10)
  else none

/-- The code unit that four hexadecimal digits write. -/
def unit? (a b c d : Char) : Option Nat := do
  some (0x1000 * (← hexDigit? a) + 0x100 * (← hexDigit? b) + 0x10 * (← hexDigit? c) +
    (← hexDigit? d))

/-- How a `\u` escape with fewer than four characters left fails: the text has ended if
fewer than four bytes are left. -/
def shortUnit (cs : List Char) : Error :=
  if (String.ofList cs).utf8ByteSize < 4 then .endOfText .string else .invalidEscape

def escaped? (c : Char) : Option Char :=
  if c == '"' || c == '\\' || c == '/' then some c
  else if c == 'b' then some '\x08'
  else if c == 'f' then some '\x0c'
  else if c == 'n' then some '\n'
  else if c == 'r' then some '\r'
  else if c == 't' then some '\t'
  else none

/-- The first half of a surrogate pair. -/
def isLead (n : Nat) : Bool := 0xD800 ≤ n && n ≤ 0xDBFF

def isTrail (n : Nat) : Bool := 0xDC00 ≤ n && n ≤ 0xDFFF

/-- The character of a surrogate pair. -/
def joined (lead trail : Nat) : Char :=
  Char.ofNat (0x10000 + (lead - 0xD800) * 0x400 + (trail - 0xDC00))

/-! ## Strings -/

/-- Puts a character in front of what is read after it. -/
def push (c : Char) (r : Except Error (List Char × List Char)) :
    Except Error (List Char × List Char) :=
  r.map fun p => (c :: p.1, p.2)

/-- Reads on to the closing quote: the contents, and what follows the quote. `lead` is the
first half of a surrogate pair that waits for its second half. -/
def readString (lead : Option Nat) : List Char → Except Error (List Char × List Char)
  | [] => .error (.endOfText .string)
  | '\\' :: 'u' :: a :: b :: c :: d :: rest =>
    match unit? a b c d, lead with
    | none, _ => .error .invalidEscape
    | some n, some first =>
      if isTrail n then push (joined first n) (readString none rest)
      else .error .surrogateUnpaired
    | some n, none =>
      if isTrail n then .error .surrogateUnpaired
      else if isLead n then readString (some n) rest
      else push (Char.ofNat n) (readString none rest)
  | '\\' :: 'u' :: rest => .error (shortUnit rest)
  | ['\\'] => .error (.endOfText .string)
  | c :: rest =>
    -- A first half may only be followed by an escape.
    if lead.isSome then .error .surrogateAlone
    else if c == '"' then .ok ([], rest)
    else if c == '\\' then
      match rest with
      | [] => .error (.endOfText .string)
      | e :: tail =>
        match escaped? e with
        | some x => push x (readString none tail)
        | none => .error .invalidEscape
    else if c.toNat < 0x20 then .error .controlCharacter
    else push c (readString none rest)

/-- Passes over a string: what follows its closing quote. -/
def skipString : List Char → Except Error (List Char)
  | [] => .error (.endOfText .string)
  | '\\' :: 'u' :: a :: b :: c :: d :: rest =>
    match unit? a b c d with
    | none => .error .invalidEscape
    | some _ => skipString rest
  | '\\' :: 'u' :: rest => .error (shortUnit rest)
  | ['\\'] => .error (.endOfText .string)
  | c :: rest =>
    if c == '"' then .ok rest
    else if c == '\\' then
      match rest with
      | [] => .error (.endOfText .string)
      | e :: tail => if (escaped? e).isSome then skipString tail else .error .invalidEscape
    else if c.toNat < 0x20 then .error .controlCharacter
    else skipString rest

/-- What a string of a text comes to, for a reader and for one that passes over it. -/
structure StringText where
  contents : Except Error String
  skipped : Except Error Unit

/-- The string behind an opening quote, and what follows its closing quote (nothing, if it
cannot even be passed over). -/
def StringText.scan (cs : List Char) : StringText × List Char :=
  let contents := (readString none cs).map fun p => String.ofList p.1
  match skipString cs with
  | .ok rest => (⟨contents, .ok ()⟩, rest)
  | .error e => (⟨contents, .error e⟩, [])

/-- Passing over a string never lengthens what is left. -/
theorem length_skipString_lt {cs rest : List Char} (h : skipString cs = .ok rest) :
    rest.length < cs.length := by
  fun_induction skipString cs generalizing rest <;>
    simp_all <;> grind

/-- What follows a string is no longer than what follows its opening quote. -/
theorem StringText.length_scan_le (cs : List Char) :
    (StringText.scan cs).2.length ≤ cs.length := by
  unfold StringText.scan
  split
  · exact Nat.le_of_lt (length_skipString_lt ‹_›)
  · simp

end Gamebook.Json
