import Gamebook.Json.Token

/-!
# Gamebook — the syntax tree of a JSON text

* `Syntax` — a JSON value as it is written, up to the place where the text
  stops being JSON. A fault is part of the tree: a scalar that is not well
  formed, a missing value, an array or object that does not close.
* `Ending` — how an array or object ends.
* `Syntax.ofTokens` — the tree of a token list, built by a machine that keeps
  the open arrays and objects on a stack and looks at each token once.
* `Syntax.skip` — the check of a value that nobody asks for.

A reader walks the tree from left to right and raises the first fault it meets,
be it one of syntax or one of its own. What is skipped is judged differently
from what is read: strings need no paired surrogates, numbers may be out of
range and nesting has no limit.
-/

namespace Gamebook.Json

/-- How an array or object ends. -/
inductive Ending where
  | closed
  /-- The text ends where a comma or a closing bracket is due, or right behind the opening
  one. -/
  | cut
  /-- Something else than a comma or a closing bracket stands behind an entry. -/
  | noSeparator
  /-- The closing bracket stands behind a comma. -/
  | closedAfterComma
  /-- The text ends behind a comma. -/
  | cutAfterComma
  /-- Something else than a string stands where a key is due. -/
  | strayKey

/-- A JSON value as it is written. -/
inductive Syntax where
  | null
  | bool (b : Bool)
  | number (n : Except Error Numeral)
  | string (s : StringText)
  | array (items : List Syntax) (ending : Ending)
  | object (members : List (StringText × Syntax)) (ending : Ending)
  /-- A misspelled or cut word. -/
  | broken (e : Error)
  /-- No value stands here. -/
  | fault (e : Error)

abbrev Member := StringText × Syntax

/-! ## The machine -/

/-- An array or object that is open around the place of reading. -/
inductive Frame where
  /-- An array with its items so far. -/
  | item (done : List Syntax)
  /-- An object with its members so far and the key whose value is being read. -/
  | member (done : List Member) (key : StringText)

/-- What is due at the place of reading. -/
inductive Place where
  /-- A value, or the end of an array that has no items yet. -/
  | value
  /-- A key, or the end of an object that has no members yet. -/
  | key (done : List Member)
  /-- The colon behind a key. -/
  | colon (done : List Member) (key : StringText)
  /-- What may follow a finished value. -/
  | after (v : Syntax)

/-- The frame as a finished value, with `v` as its last entry. -/
def Frame.fill (v : Syntax) (ending : Ending) : Frame → Syntax
  | item done => .array (done ++ [v]) ending
  | member done key => .object (done ++ [(key, v)]) ending

/-- The tree when reading stops inside the frames: each keeps what it has. -/
def abandon (frames : List Frame) (v : Syntax) : Syntax :=
  frames.foldl (fun v frame => frame.fill v .cut) v

/-- Where reading goes with a token, or the tree if it stops there. -/
inductive Step where
  | go (place : Place) (frames : List Frame)
  | stop (tree : Syntax)

/-- The tree when the text ends. -/
def finish : Place → List Frame → Syntax
  | .value, .item [] :: frames => abandon frames (.array [] .cut)
  | .value, .item done :: frames => abandon frames (.array done .cutAfterComma)
  | .value, frames => abandon frames (.fault (.endOfText .value))
  | .key [], frames => abandon frames (.object [] .cut)
  | .key done, frames => abandon frames (.object done .cutAfterComma)
  | .colon done key, frames =>
    abandon frames (.object (done ++ [(key, .fault (.endOfText .object))]) .cut)
  | .after v, frames => abandon frames v

/-- A token where a value is due. -/
def Token.beginValue (frames : List Frame) : Token → Step
  | openArray => .go .value (.item [] :: frames)
  | openObject => .go (.key []) frames
  | null => .go (.after .null) frames
  | bool b => .go (.after (.bool b)) frames
  | number n => .go (.after (.number n)) frames
  | string s => .go (.after (.string s)) frames
  | broken e => .stop (abandon frames (.broken e))
  | closeArray =>
    match frames with
    | .item [] :: outer => .go (.after (.array [] .closed)) outer
    | .item done :: outer => .stop (abandon outer (.array done .closedAfterComma))
    | _ => .stop (abandon frames (.fault .expectedValue))
  | closeObject | comma | colon | stray => .stop (abandon frames (.fault .expectedValue))

/-- A token where a key is due. -/
def Token.beginKey (done : List Member) (frames : List Frame) : Token → Step
  | string s => .go (.colon done s) frames
  | closeObject =>
    match done with
    | [] => .go (.after (.object [] .closed)) frames
    | _ => .stop (abandon frames (.object done .closedAfterComma))
  | _ => .stop (abandon frames (.object done .strayKey))

/-- A token behind a finished value. -/
def Token.afterValue (v : Syntax) : List Frame → Token → Step
  | [], _ => .stop v
  | .item done :: frames, comma => .go .value (.item (done ++ [v]) :: frames)
  | .item done :: frames, closeArray => .go (.after (.array (done ++ [v]) .closed)) frames
  | .member done key :: frames, comma => .go (.key (done ++ [(key, v)])) frames
  | .member done key :: frames, closeObject =>
    .go (.after (.object (done ++ [(key, v)]) .closed)) frames
  | frame :: frames, _ => .stop (abandon frames (frame.fill v .noSeparator))

/-- Where reading goes with a token. -/
def Token.step (t : Token) : Place → List Frame → Step
  | .value, frames => t.beginValue frames
  | .key done, frames => t.beginKey done frames
  | .colon done key, frames =>
    match t with
    | colon => .go .value (.member done key :: frames)
    | _ => .stop (abandon frames (.object (done ++ [(key, .fault .expectedColon)]) .cut))
  | .after v, frames => t.afterValue v frames

namespace Syntax

/-- Reads on from a place inside the open frames: the tree, and the tokens from the one
where reading stopped. -/
def readOn : List Token → Place → List Frame → Syntax × List Token
  | [], place, frames => (Json.finish place frames, [])
  | t :: ts, place, frames =>
    match t.step place frames with
    | .go place frames => readOn ts place frames
    | .stop tree => (tree, t :: ts)

def ofTokens (ts : List Token) : Syntax × List Token := readOn ts .value []

def ofText (cs : List Char) : Syntax × List Token := ofTokens (Token.all cs)

end Syntax

/-! ## How arrays and objects end -/

namespace Ending

/-- The end of an array that is read. -/
def checkArray : Ending → Except Error Unit
  | closed => .ok ()
  | cut => .error (.endOfText .list)
  | noSeparator | strayKey => .error .expectedCommaOrBracket
  | closedAfterComma => .error .trailingComma
  | cutAfterComma => .error (.endOfText .value)

def checkObject : Ending → Except Error Unit
  | closed => .ok ()
  | cut => .error (.endOfText .object)
  | noSeparator => .error .expectedCommaOrBrace
  | closedAfterComma => .error .trailingComma
  | cutAfterComma => .error (.endOfText .value)
  | strayKey => .error .keyNotString

/-- The end of an array that is skipped. -/
def skipArray : Ending → Except Error Unit
  | closedAfterComma => .error .expectedValue
  | e => e.checkArray

def skipObject : Ending → Except Error Unit
  | closedAfterComma => .error .keyNotString
  | cutAfterComma => .error (.endOfText .object)
  | e => e.checkObject

end Ending

/-! ## Values that are skipped -/

namespace Syntax

mutual

/-- The check of a value that nobody asks for. -/
def skip : Syntax → Except Error Unit
  | null => .ok ()
  | bool _ => .ok ()
  | number (.ok _) => .ok ()
  | number (.error _) => .error .invalidNumber
  | string s => s.skipped
  | array items ending => do skipItems items; ending.skipArray
  | object members ending => do skipMembers members; ending.skipObject
  | broken e => .error e
  | fault e => .error e

def skipItems : List Syntax → Except Error Unit
  | [] => .ok ()
  | v :: vs => do skip v; skipItems vs

def skipMembers : List (StringText × Syntax) → Except Error Unit
  | [] => .ok ()
  | (key, v) :: ms => do key.skipped; skip v; skipMembers ms

end

end Syntax

end Gamebook.Json
