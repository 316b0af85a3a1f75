import Gamebook.Json.Syntax

/-!
# Gamebook — reading typed values from JSON

* `Reader` — a function from a syntax tree to a value or the first fault. It is
  given how deep values may still nest.
* `Reader.boolean`, `Reader.string`, `Reader.count`, `Reader.list`,
  `Reader.pairs`, `Reader.optional`, `Reader.any`, `Reader.variant` — readers of the basic
  kinds.
* `Record` — a structure with named fields. It is read from an object, with the
  fields in any order, or from an array of the fields in their own order.
* `Json.ofText` — a whole text read by a reader.
-/

namespace Gamebook.Json

/-- Reads a value of a tree in which `depth - 1` more levels may be entered. -/
abbrev Reader (α : Type) := (depth : Nat) → Syntax → Except Error α

/-- Nesting up to 127 levels is read. -/
def depthLimit : Nat := 128

/-- Enters an array or object: the depth that is left inside. -/
def enter : Nat → Except Error Nat
  | 0 | 1 => .error .tooDeep
  | depth + 1 => .ok depth

/-! ## Mismatches -/

/-- What an integer or a number is called where another kind is due. -/
def foundNumber : Numeral.Reading → Found
  | .integer i => .integer i
  | .real x => .real x

/-- How a value fails where `expected` is due: a scalar is read first, so its own fault
comes before the mismatch; an array or object is not entered. -/
def mismatch (expected : String) : Syntax → Error
  | .null => .wrongKind .null expected
  | .bool b => .wrongKind (.boolean b) expected
  | .number (.error e) => e
  | .number (.ok n) =>
    match n.read with
    | .ok reading => .wrongKind (foundNumber reading) expected
    | .error e => e
  | .string s =>
    match s.contents with
    | .ok t => .wrongKind (.text t) expected
    | .error e => e
  | .array _ _ => .wrongKind .sequence expected
  | .object _ _ => .wrongKind .map expected
  | .broken e => e
  | .fault e => e

/-! ## Basic kinds -/

def Reader.boolean : Reader Bool
  | _, .bool b => .ok b
  | _, v => .error (mismatch "a boolean" v)

def Reader.string : Reader String
  | _, .string s => s.contents
  | _, v => .error (mismatch "a string" v)

/-- Reads a count: an integer that is not negative. -/
def Reader.count : Reader Nat
  | _, .number (.ok n) =>
    match n.read with
    | .ok (.integer (.ofNat i)) => .ok i
    | .ok (.integer (.negSucc i)) => .error (.wrongValue (.integer (.negSucc i)) "usize")
    | .ok (.real x) => .error (.wrongKind (.real x) "usize")
    | .error e => .error e
  | _, v => .error (mismatch "usize" v)

/-- Reads `null` as nothing. -/
def Reader.optional {α : Type} (reader : Reader α) : Reader (Option α)
  | _, .null => .ok none
  | depth, v => (reader depth v).map some

def Reader.list {α : Type} (reader : Reader α) : Reader (List α)
  | depth, .array items ending => do
    let inner ← enter depth
    let values ← items.mapM (reader inner)
    ending.checkArray
    .ok values
  | _, v => .error (mismatch "a sequence" v)

/-- Reads the members of an object as pairs, in the order written. -/
def Reader.pairs {α : Type} (reader : Reader α) : Reader (List (String × α))
  | depth, .object members ending => do
    let inner ← enter depth
    let values ← members.mapM fun m => do
      let name ← m.1.contents
      let value ← reader inner m.2
      .ok (name, value)
    ending.checkObject
    .ok values
  | _, v => .error (mismatch "a map" v)

/-! ## Records -/

/-- A field of a record, in terms of the record while it is being filled. -/
structure Field (σ : Type) where
  name : String
  /-- Whether an array may end before this field. -/
  optional : Bool
  /-- Whether the field has been read. -/
  filled : σ → Bool
  fill : Nat → Syntax → σ → Except Error σ

/-- A structure with named fields. -/
structure Record (σ α : Type) where
  name : String
  fields : List (Field σ)
  empty : σ
  /-- The structure, or the first field that is missing. -/
  done : σ → Except Error α

namespace Record

variable {σ α : Type}

/-- Reads members into the fields they name; other members are skipped, and a field may not
come twice. -/
def fillMembers (fields : List (Field σ)) (depth : Nat) : List Member → σ → Except Error σ
  | [], partly => .ok partly
  | (key, v) :: members, partly => do
    let name ← key.contents
    match fields.find? (·.name == name) with
    | none =>
      -- A field that nobody asks for is checked, but not read.
      v.skip
      fillMembers fields depth members partly
    | some field =>
      if field.filled partly then .error (.duplicateField name)
      else do
        let partly ← field.fill depth v partly
        fillMembers fields depth members partly

/-- The end of an array that should hold nothing more. -/
def surplus : List Syntax → Ending → Except Error Unit
  | [], .noSeparator | [], .cutAfterComma => .error .trailingCharacters
  | [], ending => ending.checkArray
  | _ :: _, _ => .error .trailingCharacters

/-- Reads array items into the fields in their order. `index` counts the items read. -/
def fillItems (record : Record σ α) (depth : Nat) (ending : Ending) :
    (index : Nat) → List (Field σ) → List Syntax → σ → Except Error σ
  | _, [], items, partly => do
    surplus items ending
    .ok partly
  | index, field :: fields, [], partly => do
    -- An optional field at the end may be left out.
    ending.checkArray
    if field.optional then fillItems record depth ending index fields [] partly
    else .error (.tooFewElements index record.name record.fields.length)
  | index, field :: fields, v :: items, partly => do
    let partly ← field.fill depth v partly
    fillItems record depth ending (index + 1) fields items partly

def read (record : Record σ α) : Reader α
  | depth, .object members ending => do
    let inner ← enter depth
    let filled ← fillMembers record.fields inner members record.empty
    ending.checkObject
    record.done filled
  | depth, .array items ending => do
    let inner ← enter depth
    let filled ← fillItems record inner ending 0 record.fields items record.empty
    record.done filled
  | _, v => .error (mismatch ("struct " ++ record.name) v)

def required {β : Type} (name : String) : Option β → Except Error β
  | some v => .ok v
  | none => .error (.missingField name)

end Record

namespace Syntax

mutual

/-- The full check of a value of any kind. -/
def check (depth : Nat) : Syntax → Except Error Unit
  | null => .ok ()
  | bool _ => .ok ()
  | number (.ok n) => n.read.map fun _ => ()
  | number (.error e) => .error e
  | string s => s.contents.map fun _ => ()
  | array items ending =>
    match depth with
    | 0 | 1 => .error .tooDeep
    | inner + 1 => do checkItems inner items; ending.checkArray
  | object members ending =>
    match depth with
    | 0 | 1 => .error .tooDeep
    | inner + 1 => do checkMembers inner members; ending.checkObject
  | broken e => .error e
  | fault e => .error e

def checkItems (depth : Nat) : List Syntax → Except Error Unit
  | [] => .ok ()
  | v :: vs => do check depth v; checkItems depth vs

def checkMembers (depth : Nat) : List (StringText × Syntax) → Except Error Unit
  | [] => .ok ()
  | (key, v) :: ms => do discard key.contents; check depth v; checkMembers depth ms

end

end Syntax

/-- Reads a value of any kind: its tree, once all of it is checked. -/
def Reader.any : Reader Syntax := fun depth v => do
  v.check depth
  .ok v

/-! ## Variants and whole texts -/

/-- Reads one of a list of named variants: a string with the name, or an object with the
name as its only key and null as its value. -/
def Reader.variant {α : Type} (known : List (String × α)) : Reader α
  | _, .string s => do named (← s.contents)
  | depth, .object members ending => do
    discard (enter depth)
    match members with
    | [] => do ending.checkObject; .error .expectedValue
    | (key, v) :: more => do
      let a ← named (← key.contents)
      match v with
      | .null =>
        match more, ending with
        | [], .closed => .ok a
        | [], .cut => .error (.endOfText .object)
        | _, _ => .error .expectedValue
      | v => .error (mismatch "unit" v)
  | _, .fault e => .error e
  | _, _ => .error .expectedValue
where
  /-- The variant of that name. -/
  named (name : String) : Except Error α :=
    match known.find? (·.1 == name) with
    | some (_, a) => .ok a
    | none => .error (.unknownVariant name (known.map (·.1)))

def ofText {α : Type} (reader : Reader α) (text : String) : Except Error α :=
  match Syntax.ofText text.toList with
  | (tree, behind) => do
    let a ← reader depthLimit tree
    if behind.isEmpty then .ok a else .error .trailingCharacters

end Gamebook.Json
