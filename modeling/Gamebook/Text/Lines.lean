/-!
# Gamebook — lines of input

* `Line` — one line of input: its text, or bytes that are no text.
* `Line.all` — the lines of a byte sequence. A line ends at a line feed, with a
  carriage return before it dropped; a last line without a line feed counts.
-/

namespace Gamebook

/-- One line of input. -/
inductive Line where
  | text (s : String)
  /-- Bytes that are not UTF-8. -/
  | unreadable
deriving DecidableEq

namespace Line

def ofBytes (bytes : List UInt8) : Line :=
  match String.fromUTF8? ⟨bytes.toArray⟩ with
  | some s => text s
  | none => unreadable

/-- The bytes of a line that ended in a line feed, last one first, without a carriage return
at the end. -/
def dropReturn : List UInt8 → List UInt8
  | 0x0D :: bytes => bytes
  | bytes => bytes

/-- The lines of some bytes; `current` holds the bytes of the line so far, last one first. -/
def split (current : List UInt8) : List UInt8 → List (List UInt8)
  | [] => if current.isEmpty then [] else [current.reverse]
  | b :: bytes =>
    if b = 0x0A then (dropReturn current).reverse :: split [] bytes
    else split (b :: current) bytes

def all (bytes : ByteArray) : List Line := (split [] bytes.toList).map ofBytes

end Line

end Gamebook
