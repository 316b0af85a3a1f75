import Gamebook.Proofs.SyntaxTree
import Gamebook.Proofs.WrittenNumbers

/-!
# Gamebook — written JSON is read back

* `tree` — the tree of a value. A finite number is the numeral that is scanned
  from its text, every other number is null.
* `isExact`, `noControl_write` — a value without binary64 numbers is written
  without control characters, so its text stays on one line.
* `ofText_write` — the text of a value is read as its tree, with nothing left.
-/

namespace Gamebook

open Json

variable {c : Char} {cs before behind rest : List Char}

-- ---------------------------------------------------------------------------
-- Counts
-- ---------------------------------------------------------------------------

/-- The numeral of a count. -/
def Numeral.ofCount (n : Nat) : Numeral where
  negative := false
  whole := (Text.digits (Text.decimal n)).1
  fraction := none
  exponent := none

theorem Numeral.writtenAs_decimal (n : Nat) : (ofCount n).WrittenAs (Text.decimal n) where
  whole := by
    show NoLeadingZero (Text.digits (Text.decimal n)).1
    rcases Nat.eq_zero_or_pos n with rfl | hPos
    · exact noLeadingZero_cons_iff.mpr fun _ => rfl
    · obtain ⟨d, hFirst, cs, hText⟩ := Text.exists_first_of_decimal hPos
      rw [hText, Text.digits, Text.digit?_digitChar]
      exact noLeadingZero_cons_iff.mpr fun hZero => absurd hZero hFirst
  text := by
    refine ⟨[], [], .none, .none, ?_⟩
    rw [List.append_nil, List.append_nil]
    exact (Text.digitChars_decimal n).symm

/-- A count that fits 64 bits is read as an integer. -/
theorem Numeral.read_ofCount {n : Nat} (hRange : n < Nat.pow 2 64) :
    (ofCount n).read = .ok (.integer n) := by
  have hValue : Text.digitsValue (ofCount n).whole = n := Text.digitsValue_decimal n
  have hWhole : ((ofCount n).isWhole && decide (n < Nat.pow 2 64)) = true := decide_eq_true hRange
  rw [Numeral.read]
  simp only [hValue, hWhole, if_true]
  rfl

-- ---------------------------------------------------------------------------
-- Values and their trees
-- ---------------------------------------------------------------------------

namespace Json

mutual

/-- The value holds no binary64 numbers. -/
def isExact : Json → Bool
  | null | bool _ | count _ | string _ => true
  | number _ => false
  | array items => areExact items
  | object members => membersExact members

def areExact : List Json → Bool
  | [] => true
  | v :: vs => isExact v && areExact vs

def membersExact : List (String × Json) → Bool
  | [] => true
  | (_, v) :: ms => isExact v && membersExact ms

end

theorem areExact_map {α : Type} {toJson : α → Json} {items : List α}
    (hItems : ∀ a ∈ items, (toJson a).isExact = true) : areExact (items.map toJson) = true := by
  induction items with
  | nil => rfl
  | cons a items ih =>
    obtain ⟨hFirst, hRest⟩ := List.forall_mem_cons.mp hItems
    rw [List.map_cons, areExact, hFirst, ih hRest]
    rfl

mutual

/-- The tree of a value. -/
def tree : Json → Syntax
  | null => .null
  | bool b => .bool b
  | count n => .number (.ok (.ofCount n))
  | number (.finite negative m) =>
    .number ((scanNumeral ((Number.finite negative m).write .json)).map Prod.fst)
  | number (.infinite _) | number .notANumber => .null
  | string s => .string ⟨.ok s, .ok ()⟩
  | array items => .array (trees items) .closed
  | object members => .object (memberTrees members) .closed

def trees : List Json → List Syntax
  | [] => []
  | v :: vs => tree v :: trees vs

def memberTrees : List (String × Json) → List Member
  | [] => []
  | (key, v) :: ms => (⟨.ok key, .ok ()⟩, tree v) :: memberTrees ms

end

-- ---------------------------------------------------------------------------
-- No control characters
-- ---------------------------------------------------------------------------

/-- The text has no characters below U+0020. -/
def NoControl (cs : List Char) : Prop := ∀ c ∈ cs, 0x20 ≤ c.toNat

instance decidableNoControl (cs : List Char) : Decidable (NoControl cs) :=
  List.decidableBAll (fun c : Char => 0x20 ≤ c.toNat) cs

theorem noControl_append (hBefore : NoControl before) (hBehind : NoControl behind) :
    NoControl (before ++ behind) :=
  List.forall_mem_append.mpr ⟨hBefore, hBehind⟩

theorem noControl_cons (hFirst : 0x20 ≤ c.toNat) (hRest : NoControl cs) : NoControl (c :: cs) :=
  List.forall_mem_cons.mpr ⟨hFirst, hRest⟩

theorem noControl_singleton (hOnly : 0x20 ≤ c.toNat) : NoControl [c] :=
  noControl_cons hOnly (List.forall_mem_nil _)

theorem NoControl.newline_not_mem (hText : NoControl cs) : '\n' ∉ cs := by
  intro hMem
  exact absurd (hText _ hMem) (by decide)

theorem noControl_decimal (n : Nat) : NoControl (Text.decimal n) := by
  intro c hMem
  have hRange := Text.isDigit_iff.mp (Text.isDigit_of_mem_decimal hMem)
  omega

theorem noControl_writeString (s : String) : NoControl (writeString s) := by
  have hBody : NoControl (s.toList.flatMap writeChar) :=
    fun c hMem => (range_of_spelledAs (spelledAs_writeString s.toList) c hMem).1
  exact noControl_append (noControl_cons (by decide) hBody) (noControl_singleton (by decide))

mutual

/-- A value without binary64 numbers is written without control characters. -/
theorem noControl_write : ∀ j : Json, j.isExact = true → NoControl j.write
  | null, _ => by rw [write]; decide
  | bool true, _ => by rw [write]; decide
  | bool false, _ => by rw [write]; decide
  | count n, _ => by rw [write]; exact noControl_decimal n
  | number x, hExact => by rw [isExact] at hExact; cases hExact
  | string s, _ => by rw [write]; exact noControl_writeString s
  | array items, hExact => by
    rw [write]
    rw [isExact] at hExact
    exact noControl_append (noControl_cons (by decide) (noControl_writeItems items hExact))
      (noControl_singleton (by decide))
  | object members, hExact => by
    rw [write]
    rw [isExact] at hExact
    exact noControl_append (noControl_cons (by decide) (noControl_writeMembers members hExact))
      (noControl_singleton (by decide))

theorem noControl_writeItems : ∀ items : List Json, areExact items = true →
    NoControl (writeItems items)
  | [], _ => List.forall_mem_nil _
  | [v], hExact => by
    rw [areExact, Bool.and_eq_true] at hExact
    rw [writeItems]
    exact noControl_write v hExact.1
  | v :: w :: vs, hExact => by
    rw [areExact, Bool.and_eq_true] at hExact
    rw [writeItems]
    exact noControl_append (noControl_write v hExact.1)
      (noControl_cons (by decide) (noControl_writeItems (w :: vs) hExact.2))

theorem noControl_writeMembers : ∀ members : List (String × Json), membersExact members = true →
    NoControl (writeMembers members)
  | [], _ => List.forall_mem_nil _
  | [(key, v)], hExact => by
    rw [membersExact, Bool.and_eq_true] at hExact
    rw [writeMembers]
    exact noControl_append (noControl_writeString key)
      (noControl_cons (by decide) (noControl_write v hExact.1))
  | (key, v) :: m :: ms, hExact => by
    rw [membersExact, Bool.and_eq_true] at hExact
    rw [writeMembers]
    exact noControl_append (noControl_append (noControl_writeString key)
      (noControl_cons (by decide) (noControl_write v hExact.1)))
      (noControl_cons (by decide) (noControl_writeMembers (m :: ms) hExact.2))

end

-- ---------------------------------------------------------------------------
-- Reading back
-- ---------------------------------------------------------------------------

variable {v : Syntax} {frames : List Frame}

/-- The marks between the parts of a value do not belong to a number. -/
theorem ends_mark (hMark : c ∈ [',', ':', ']', '\x7d']) (cs : List Char) : Ends (c :: cs) := by
  intro first hHead
  cases hHead
  simp only [List.mem_cons, List.not_mem_nil, or_false] at hMark
  rcases hMark with rfl | rfl | rfl | rfl <;> decide

/-- A scalar in front of a text is read where a value is due. -/
theorem readOn_scalarAs (hText : ScalarAs v cs) (hRest : Ends rest) (frames : List Frame) :
    Syntax.readOn (Token.all (cs ++ rest)) .value frames =
      Syntax.readOn (Token.all rest) (.after v) frames := by
  obtain ⟨t, hScalar, hTokens⟩ := all_append hText hRest
  rw [hTokens, Syntax.readOn]
  unfold Token.scalar? at hScalar
  split at hScalar <;> cases hScalar <;> rfl

theorem scalarAs_writeString (s : String) :
    ScalarAs (.string ⟨.ok s, .ok ()⟩) (writeString s) := by
  have hText : StringAs s.toList (writeString s) := ⟨_, spelledAs_writeString s.toList, rfl⟩
  have hScalar := ScalarAs.string hText
  rwa [String.ofList_toList] at hScalar

/-- A key and its colon are read where a key is due. -/
theorem readOn_key (key : String) (done : List Member) (cs : List Char) (frames : List Frame) :
    Syntax.readOn (Token.all (writeString key ++ ':' :: cs)) (.key done) frames =
      Syntax.readOn (Token.all cs) .value (.member done ⟨.ok key, .ok ()⟩ :: frames) := by
  have hColon : Ends (':' :: cs) := ends_mark (by decide) cs
  obtain ⟨t, hScalar, hTokens⟩ := all_append (scalarAs_writeString key) hColon
  rw [hTokens, Token.all_cons rfl]
  unfold Token.scalar? at hScalar
  split at hScalar <;> cases hScalar
  rfl

/-- A finite number in a value is its numeral. -/
theorem tree_finite {negative : Bool} {m : Magnitude} {n : Numeral}
    (hWritten : n.WrittenAs ((Number.finite negative m).write .json)) :
    (number (.finite negative m)).tree = .number (.ok n) := by
  have hScan := scanNumeral_append hWritten ends_nil
  rw [List.append_nil] at hScan
  rw [tree, hScan]
  rfl

/-- A finite number is written as its numeral, any other one as null. -/
theorem scalarAs_writeNumber (x : Number) : ScalarAs (number x).tree (x.write .json) := by
  cases x with
  | finite negative m =>
    obtain ⟨n, -, hWritten, -⟩ := Number.exists_written negative m
    rw [tree_finite hWritten]
    exact .number hWritten
  | infinite negative =>
    rw [tree]
    exact .null
  | notANumber =>
    rw [tree]
    exact .null

mutual

/-- What is written is read as its tree, wherever a value is due. -/
theorem readOn_write : ∀ (j : Json) (rest : List Char) (frames : List Frame),
    Ends rest → Syntax.readOn (Token.all (j.write ++ rest)) .value frames =
      Syntax.readOn (Token.all rest) (.after j.tree) frames
  | null => fun rest frames hRest => by
    rw [write, tree]
    exact readOn_scalarAs .null hRest frames
  | bool b => fun rest frames hRest => by
    rw [write, tree]
    exact readOn_scalarAs (.bool b) hRest frames
  | count n => fun rest frames hRest => by
    rw [write, tree]
    exact readOn_scalarAs (.number (Numeral.writtenAs_decimal n)) hRest frames
  | number x => fun rest frames hRest => by
    rw [write]
    exact readOn_scalarAs (scalarAs_writeNumber x) hRest frames
  | string s => fun rest frames hRest => by
    rw [write, tree]
    exact readOn_scalarAs (scalarAs_writeString s) hRest frames
  | array items => fun rest frames _ => by
    have hText : (array items).write ++ rest = '[' :: (writeItems items ++ ']' :: rest) := by
      rw [write, List.append_assoc, List.cons_append, List.singleton_append]
    rw [hText, tree, Token.all_cons rfl]
    exact readOn_writeItems items [] rest frames fun _ => rfl
  | object members => fun rest frames _ => by
    have hText : (object members).write ++ rest =
        '\x7b' :: (writeMembers members ++ '\x7d' :: rest) := by
      rw [write, List.append_assoc, List.cons_append, List.singleton_append]
    rw [hText, tree, Token.all_cons rfl]
    exact readOn_writeMembers members [] rest frames fun _ => rfl

/-- The items of an array behind some that are done. An array may end at once only if none are. -/
theorem readOn_writeItems : ∀ (items : List Json)
    (done : List Syntax) (rest : List Char) (frames : List Frame), (items = [] → done = []) →
      Syntax.readOn (Token.all (writeItems items ++ ']' :: rest)) .value (.item done :: frames) =
        Syntax.readOn (Token.all rest) (.after (.array (done ++ trees items) .closed)) frames
  | [] => fun done rest frames hDone => by
    rw [writeItems, List.nil_append, Token.all_cons rfl, hDone rfl]
    rfl
  | [v] => fun done rest frames _ => by
    rw [writeItems, readOn_write v _ _ (ends_mark (by decide) rest), Token.all_cons rfl]
    rfl
  | v :: w :: vs => fun done rest frames _ => by
    have hOn := readOn_writeItems (w :: vs) (done ++ [v.tree]) rest frames nofun
    rw [List.append_assoc] at hOn
    rw [writeItems, List.append_assoc, List.cons_append,
      readOn_write v _ _ (ends_mark (by decide) _), Token.all_cons rfl]
    exact hOn

/-- The members of an object behind some that are done. -/
theorem readOn_writeMembers : ∀ (members : List (String × Json))
    (done : List Member) (rest : List Char) (frames : List Frame), (members = [] → done = []) →
      Syntax.readOn (Token.all (writeMembers members ++ '\x7d' :: rest)) (.key done) frames =
        Syntax.readOn (Token.all rest)
          (.after (.object (done ++ memberTrees members) .closed)) frames
  | [] => fun done rest frames hDone => by
    rw [writeMembers, List.nil_append, Token.all_cons rfl, hDone rfl]
    rfl
  | [(key, v)] => fun done rest frames _ => by
    rw [writeMembers, List.append_assoc, List.cons_append, readOn_key,
      readOn_write v _ _ (ends_mark (by decide) rest), Token.all_cons rfl]
    rfl
  | (key, v) :: m :: ms => fun done rest frames _ => by
    have hOn := readOn_writeMembers (m :: ms) (done ++ [(⟨.ok key, .ok ()⟩, v.tree)]) rest
      frames nofun
    rw [List.append_assoc] at hOn
    rw [writeMembers, List.append_assoc, List.append_assoc, List.cons_append, List.cons_append,
      readOn_key, readOn_write v _ _ (ends_mark (by decide) _), Token.all_cons rfl]
    exact hOn

end

/-- **What is written is read back.** The text of a value is read as its tree, and nothing of the
text is left. -/
theorem ofText_write (j : Json) : Syntax.ofText j.write = (j.tree, []) := by
  have hRead := readOn_write j [] [] ends_nil
  rw [List.append_nil, Token.all_nil] at hRead
  exact hRead

/-- The text of a value is read as what its tree is read as. -/
theorem ofText_text {α : Type} {reader : Reader α} {j : Json} {a : α}
    (hRead : reader depthLimit j.tree = .ok a) : ofText reader j.text = .ok a := by
  refine ofText_eq_ok_iff.mpr ⟨j.tree, ?_, hRead⟩
  rw [text, String.toList_ofList]
  exact ofText_write j

-- ---------------------------------------------------------------------------
-- Lists, pairs and records
-- ---------------------------------------------------------------------------

variable {depth : Nat} {name : String}

theorem trees_eq_map (items : List Json) : trees items = items.map tree := by
  induction items with
  | nil => rw [trees, List.map_nil]
  | cons v vs ih => rw [trees, ih, List.map_cons]

theorem memberTrees_eq_map (members : List (String × Json)) :
    memberTrees members = members.map fun m => (⟨.ok m.1, .ok ()⟩, m.2.tree) := by
  induction members with
  | nil => rw [memberTrees, List.map_nil]
  | cons m ms ih => rw [memberTrees, ih, List.map_cons]

/-- Items that can all be read can be read as a list. -/
theorem mapM_eq_ok {α β γ : Type} {f : β → Except Error γ} {g : α → β} {back : α → γ}
    {items : List α} (hItems : ∀ a ∈ items, f (g a) = .ok (back a)) :
    (items.map g).mapM f = .ok (items.map back) := by
  induction items with
  | nil => rfl
  | cons a items ih =>
    obtain ⟨hFirst, hRest⟩ := List.forall_mem_cons.mp hItems
    rw [List.map_cons, List.mapM_cons, hFirst, ih hRest]
    rfl

/-- A closed array of readable items is read. -/
theorem list_eq_ok {α : Type} {reader : Reader α} {items : List Syntax} {values : List α}
    (hRead : items.mapM (reader (depth + 1)) = .ok values) :
    Reader.list reader (depth + 2) (.array items .closed) = .ok values := by
  simp only [Reader.list, enter, hRead, bind, Except.bind, Ending.checkArray]

/-- A closed object of readable members is read as pairs. -/
theorem pairs_eq_ok {α : Type} {reader : Reader α} {members : List Member}
    {values : List (String × α)}
    (hRead : members.mapM (fun m => do
      let name ← m.1.contents
      let value ← reader (depth + 1) m.2
      .ok (name, value)) = .ok values) :
    Reader.pairs reader (depth + 2) (.object members .closed) = .ok values := by
  simp only [bind, Except.bind] at hRead
  simp only [Reader.pairs, enter, hRead, bind, Except.bind, Ending.checkObject]

/-- A count that fits 64 bits is read back. -/
theorem count_tree {n : Nat} (hRange : n < Nat.pow 2 64) (depth : Nat) :
    Reader.count depth (count n).tree = .ok n := by
  rw [tree, Reader.count, Numeral.read_ofCount hRange]

theorem list_tree {α : Type} {reader : Reader α} {toJson : α → Json} {items : List α}
    (hItems : ∀ a ∈ items, reader (depth + 1) (toJson a).tree = .ok a) :
    Reader.list reader (depth + 2) (array (items.map toJson)).tree = .ok items := by
  have hRead : ((items.map (tree ∘ toJson)).mapM (reader (depth + 1))) = .ok (items.map id) :=
    mapM_eq_ok hItems
  rw [List.map_id] at hRead
  rw [tree, trees_eq_map, List.map_map]
  exact list_eq_ok hRead

/-- Members that can all be read can be read as pairs. -/
theorem pairs_tree_map {α β : Type} {reader : Reader β} {toJson : α → Json} {back : α → β}
    {members : List (String × α)}
    (hMembers : ∀ m ∈ members, reader (depth + 1) (toJson m.2).tree = .ok (back m.2)) :
    Reader.pairs reader (depth + 2) (object (members.map fun m => (m.1, toJson m.2))).tree =
      .ok (members.map fun m => (m.1, back m.2)) := by
  rw [tree, memberTrees_eq_map, List.map_map]
  refine pairs_eq_ok (mapM_eq_ok fun m hMem => ?_)
  simp only [Function.comp_apply, hMembers m hMem]
  rfl

theorem pairs_tree {α : Type} {reader : Reader α} {toJson : α → Json} {members : List (String × α)}
    (hMembers : ∀ m ∈ members, reader (depth + 1) (toJson m.2).tree = .ok m.2) :
    Reader.pairs reader (depth + 2) (object (members.map fun m => (m.1, toJson m.2))).tree =
      .ok members := by
  have hRead : Reader.pairs reader (depth + 2)
      (object (members.map fun m => (m.1, toJson m.2))).tree =
        .ok (members.map fun m => (m.1, id m.2)) := pairs_tree_map hMembers
  exact hRead.trans (congrArg Except.ok (List.map_id members))

namespace Record

variable {σ α : Type} {partly partly' : σ} {fields : List (Field σ)} {field : Field σ}
  {members : List Member} {v : Syntax}

/-- A closed object is read as a record by its members. -/
theorem read_object (record : Record σ α) (members : List Member) (depth : Nat) :
    record.read (depth + 2) (.object members .closed) =
      (fillMembers record.fields (depth + 1) members record.empty).bind record.done := by
  rw [read]
  simp only [enter, bind, Except.bind, Ending.checkObject]

/-- A member that fills a field which is still open. -/
theorem fillMembers_cons (hField : fields.find? (·.name == name) = some field)
    (hOpen : field.filled partly = false) (hFill : field.fill depth v partly = .ok partly') :
    fillMembers fields depth ((⟨.ok name, .ok ()⟩, v) :: members) partly =
      fillMembers fields depth members partly' := by
  rw [fillMembers]
  simp only [bind, Except.bind, hField, hOpen, Bool.false_eq_true, if_false, hFill]

end Record

end Json

end Gamebook
