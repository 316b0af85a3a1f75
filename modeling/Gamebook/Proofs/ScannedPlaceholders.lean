import Gamebook.Proofs.Placeholders
import Gamebook.Proofs.ScannedTemplates

/-!
# Gamebook — scanning a text for placeholders

Values are put in and names are collected by the same walk over a text, from one
opening brace to the next; the two differ in what they do with the plain text and
with a placeholder. That is a `Walker`, and the walk is proved right once, for every
walker that does on the borders of a text what a step from piece to piece does.

* `interpolate`, `placeholders` — the two scans, offset by offset.
* `Walker.Does` — what a walker has to do.
* `Walk.At` — how far a walk is, told by the characters of the text.
* `walkBrace_of_none`, `walkBrace_of_some`, `walk_finds` — what one round does.
* `rises_walk` — every round that goes on raises the cursor.
* `finds_interpolate`, `finds_placeholders` — the scans compute borders only and
  find what is found without offsets.
-/

namespace Gamebook

open Text

namespace Scan

variable {β : Type} {s text template : String} {cs behind before : List Char}

-- ---------------------------------------------------------------------------
-- Walks
-- ---------------------------------------------------------------------------

/-- The offset of the closing brace of a placeholder, if one is opened at an offset. -/
def closing? (s : String) (start : Nat) : Scan (Option Nat) := do
  let size := leading isWordCode (← cutFrom s (start + 1))
  let close := start + 1 + size
  note s close
  if size = 0 then return none
  else return if (← cutFrom s close).toList.head? = some '\x7d' then some close else none

/-- A text in the course of a walk from one opening brace to the next. -/
structure Walk (β : Type) where
  cursor : Nat
  output : β

/-- What a walk does with the text: with the plain text between two offsets, with the placeholder
between its two braces, and with an opening brace that opens none. -/
structure Walker (β : Type) where
  plain : β → Nat → Nat → Scan β
  placeholder : β → Nat → Nat → Scan β
  brace : β → β

/-- Goes on behind the placeholder at an opening brace, or else behind the brace. -/
def walkBrace (walker : Walker β) (text : String) (output : β) (start : Nat) :
    Scan (Walk β) := do
  match ← closing? text start with
  | some close =>
    let output ← walker.placeholder output start close
    note text (close + 1)
    return ⟨close + 1, output⟩
  | none =>
    note text (start + 1)
    return ⟨start + 1, walker.brace output⟩

/-- Goes on at the next opening brace. -/
def walk (walker : Walker β) (text : String) (now : Walk β) : Scan (Walk β ⊕ β) := do
  match find? (· == '\x7b') (← cutFrom text now.cursor) with
  | none => return .inr (← walker.plain now.output now.cursor text.utf8ByteSize)
  | some offset =>
    let output ← walker.plain now.output now.cursor (now.cursor + offset)
    return .inl (← walkBrace walker text output (now.cursor + offset))

/-- A walk over all of a text. -/
def walkAll (walker : Walker β) (text : String) (output : β) : Scan β :=
  loop (walk walker text) (text.utf8ByteSize + 1) ⟨0, output⟩

/-- Plain text stays, and so does a placeholder of a variable without a value. -/
def filler (value? : String → Option Value) (text : String) : Walker String where
  plain output i j := do return output ++ (← cut text i j)
  placeholder output start close := do
    match value? (← cut text (start + 1) close) with
    | some v => return output ++ v.display
    | none => return output ++ (← cut text start (close + 1))
  brace output := output ++ "\x7b"

/-- The names of placeholders are collected. -/
def collector (text : String) : Walker (List String) where
  plain names _ _ := return names
  placeholder names start close := do return names ++ [← cut text (start + 1) close]
  brace names := names

/-- The text with the values of defined variables in place of their placeholders. -/
def interpolate (value? : String → Option Value) (text : String) : Scan String :=
  walkAll (filler value? text) text ""

/-- Names with those of the placeholders of a part behind them. -/
def namesIn (names : List String) : Part → Scan (List String)
  | .plain text => walkAll (collector text) text names
  | .set _ _ => return names

/-- The names of the placeholders in the plain text of a template. -/
def placeholders (template : String) : Scan (List String) := do
  (← segments template).foldlM namesIn []

-- ---------------------------------------------------------------------------
-- What a walk finds
-- ---------------------------------------------------------------------------

theorem lt_of_closing? {start close : Nat}
    (hResult : (closing? s start).result = some (some close)) : start < close := by
  obtain ⟨behind, -, hResult⟩ := result_bind_eq_some hResult
  obtain ⟨-, -, hResult⟩ := result_bind_eq_some hResult
  split at hResult
  · cases hResult
  · obtain ⟨atClose, -, hResult⟩ := result_bind_eq_some hResult
    have hClose := Option.some.inj hResult
    split at hClose
    · cases hClose
      omega
    · cases hClose

theorem lt_of_walkBrace {walker : Walker β} {output : β} {start : Nat} {next : Walk β}
    (hNext : (walkBrace walker text output start).result = some next) : start < next.cursor := by
  obtain ⟨close?, hClose, hNext⟩ := result_bind_eq_some hNext
  split at hNext
  · obtain ⟨output', -, hNext⟩ := result_bind_eq_some hNext
    obtain ⟨-, -, hNext⟩ := result_bind_eq_some hNext
    cases hNext
    exact Nat.lt_succ_of_lt (lt_of_closing? hClose)
  · obtain ⟨-, -, hNext⟩ := result_bind_eq_some hNext
    cases hNext
    exact Nat.lt_succ_self start

theorem rises_walk (walker : Walker β) (text : String) :
    Rises Walk.cursor (walk walker text) := by
  intro now next hNext
  obtain ⟨rest, -, hNext⟩ := result_bind_eq_some hNext
  split at hNext
  · obtain ⟨output, -, hNext⟩ := result_bind_eq_some hNext
    cases hNext
  · obtain ⟨output, -, hNext⟩ := result_bind_eq_some hNext
    obtain ⟨next', hBrace, hNext⟩ := result_bind_eq_some hNext
    cases hNext
    exact Nat.lt_of_le_of_lt (Nat.le_add_right _ _) (lt_of_walkBrace hBrace)

theorem finds_closing (hText : s.toList = before ++ '\x7b' :: cs) :
    (closing? s (byteLength before)).Finds ((Piece.read? ('\x7b' :: cs)).map fun p =>
      byteLength before + 1 + byteLength p.1) := by
  have hOpen : s.toList = (before ++ ['\x7b']) ++ cs := by
    rw [hText, List.append_assoc, List.singleton_append]
  have hClose : s.toList = (before ++ ['\x7b'] ++ word cs) ++ afterWord cs := by
    rw [List.append_assoc _ (word cs), word_append_afterWord, hOpen]
  have hAt : byteLength before + 1 = byteLength (before ++ ['\x7b']) := by
    rw [byteLength_append, byteLength_open]
  rw [closing?]
  refine (finds_cutFrom hOpen hAt).bind ?_
  simp only [leading_isWordCode, String.toList_ofList, hAt, ← byteLength_append]
  refine (finds_note (isBorder_byteLength hClose)).bind ?_
  rw [Piece.read?]
  by_cases hNone : word cs = []
  · rw [hNone, if_pos byteLength_nil, if_pos List.isEmpty_nil]
    exact finds_pure none
  · rw [if_neg (mt byteLength_eq_zero_iff.mp hNone), if_neg (by rwa [List.isEmpty_iff])]
    refine (finds_cutFrom hClose rfl).bind ?_
    rw [String.toList_ofList]
    by_cases hHead : (afterWord cs).head? = some '\x7d'
    · obtain ⟨rest, hRest⟩ := List.head?_eq_some_iff.mp hHead
      rw [if_pos hHead, hRest]
      exact finds_pure _
    · rw [if_neg hHead]
      split
      · rename_i rest hRest
        rw [hRest] at hHead
        exact absurd rfl hHead
      · exact finds_pure none

theorem byteLength_placeholder (name : List Char) :
    byteLength (Piece.placeholder name).source = 1 + byteLength name + 1 := by
  rw [Piece.source, ← List.singleton_append, byteLength_append, byteLength_append, byteLength_open,
    byteLength_close, Nat.add_assoc]

/-- A walker that does, on the borders of a text, what a step from piece to piece does. -/
structure Walker.Does (walker : Walker β) (text : String) (step : β → Piece → β) : Prop where
  plain : ∀ {before cs behind : List Char} (output : β), text.toList = before ++ (cs ++ behind) →
    (walker.plain output (byteLength before) (byteLength before + byteLength cs)).Finds
      ((cs.map Piece.plain).foldl step output)
  placeholder : ∀ {before name behind : List Char} (output : β),
    text.toList = before ++ ((Piece.placeholder name).source ++ behind) →
    (walker.placeholder output (byteLength before) (byteLength before + 1 + byteLength name)).Finds
      (step output (.placeholder name))
  brace : ∀ output : β, walker.brace output = step output (.plain '\x7b')

/-- How far a walk is: the cursor is behind what is done, and the steps over the pieces of the
rest lead from the output so far to all of it. -/
structure Walk.At (text : String) (step : β → Piece → β) (all : β) (now : Walk β)
    (done rest : List Char) : Prop where
  text_eq : text.toList = done ++ rest
  cursor_eq : now.cursor = byteLength done
  output_eq : (Piece.all rest).foldl step now.output = all

/-- Only an opening brace can begin a placeholder. -/
theorem pieces_append_of_forall (hBefore : ∀ c ∈ before, (c == '\x7b') = false) (cs : List Char) :
    Piece.all (before ++ cs) = before.map Piece.plain ++ Piece.all cs := by
  induction before with
  | nil => rfl
  | cons c before ih =>
    obtain ⟨hFirst, hRest⟩ := List.forall_mem_cons.mp hBefore
    have hNone : Piece.read? (c :: (before ++ cs)) = none := by
      unfold Piece.read?
      split
      · rename_i hCons
        rw [(List.cons.inj hCons).1] at hFirst
        cases hFirst
      · rfl
    rw [List.cons_append, Piece.all_cons_of_none hNone, ih hRest, List.map_cons, List.cons_append]

variable {walker : Walker β} {step : β → Piece → β} {all : β}

section Braces

variable {output : β} {start : Nat} {done rest name : List Char} {now : Walk β}

/-- A brace at which no placeholder starts stays. -/
theorem walkBrace_of_none (hDoes : walker.Does text step)
    (hNone : Piece.read? ('\x7b' :: behind) = none)
    (hAt : Walk.At text step all ⟨start, output⟩ done ('\x7b' :: behind)) :
    (walkBrace walker text output start).Finds ⟨start + 1, walker.brace output⟩ ∧
      Walk.At text step all ⟨start + 1, walker.brace output⟩ (done ++ ['\x7b']) behind := by
  obtain ⟨hText, hStart, hAll⟩ := hAt
  have hBehind : text.toList = (done ++ ['\x7b']) ++ behind := by
    rw [hText, List.append_assoc, List.singleton_append]
  have hNext : start + 1 = byteLength (done ++ ['\x7b']) := by
    rw [byteLength_append, byteLength_open, ← hStart]
  refine ⟨?_, hBehind, hNext, ?_⟩
  · have hClose := finds_closing hText
    rw [hNone, ← hStart] at hClose
    refine hClose.bind ((finds_note ?_).bind (finds_pure _))
    rw [hNext]
    exact isBorder_byteLength hBehind
  · rw [← hAll, Piece.all_cons_of_none hNone, List.foldl_cons, hDoes.brace]

/-- A placeholder is handed to the walker. -/
theorem walkBrace_of_some (hDoes : walker.Does text step)
    (hRead : Piece.read? ('\x7b' :: behind) = some (name, rest))
    (hAt : Walk.At text step all ⟨start, output⟩ done ('\x7b' :: behind)) :
    ∃ next, (walkBrace walker text output start).Finds next ∧
      Walk.At text step all next (done ++ (Piece.placeholder name).source) rest := by
  obtain ⟨hText, hStart, hAll⟩ := hAt
  have hHere : text.toList = done ++ ((Piece.placeholder name).source ++ rest) := by
    rw [hText, Piece.eq_of_read? hRead]
  have hBehind : text.toList = (done ++ (Piece.placeholder name).source) ++ rest := by
    rw [hHere, List.append_assoc]
  have hNext : start + 1 + byteLength name + 1 =
      byteLength (done ++ (Piece.placeholder name).source) := by
    rw [byteLength_append, byteLength_placeholder, ← hStart]
    show start + 1 + byteLength name + 1 = start + (1 + byteLength name + 1)
    omega
  refine ⟨⟨_, step output (.placeholder name)⟩, ?_, hBehind, hNext, ?_⟩
  · have hClose := finds_closing hText
    have hPut := hDoes.placeholder output hHere
    rw [hRead, ← hStart] at hClose
    rw [← hStart] at hPut
    refine hClose.bind (hPut.bind ((finds_note ?_).bind (finds_pure _)))
    show IsBorder text (start + 1 + byteLength name + 1)
    rw [hNext]
    exact isBorder_byteLength hBehind
  · rw [← hAll, Piece.all_of_read? hRead, List.foldl_cons]

/-- One round finds all of the output, or goes on from where the walk then is. -/
theorem walk_finds (hDoes : walker.Does text step) (hAt : now.At text step all done rest) :
    (walk walker text now).Finds (.inr all) ∨
      ∃ next, (walk walker text now).Finds (.inl next) ∧
        ∃ done rest, next.At text step all done rest := by
  obtain ⟨hText, hCursor, hAll⟩ := hAt
  have hCut := finds_cutFrom hText hCursor
  rcases find?_open rest with ⟨hNone, hFind⟩ | ⟨before, behind, hSplit, hBefore, hFind⟩
  · left
    have hPieces := pieces_append_of_forall hNone []
    rw [List.append_nil, Piece.all, List.append_nil] at hPieces
    have hPlain : text.toList = done ++ (rest ++ []) := by rw [hText, List.append_nil]
    have hEnd : text.utf8ByteSize = byteLength done + byteLength rest := by
      rw [← byteLength_toList, hText, byteLength_append]
    refine hCut.bind ?_
    rw [hFind, ← hAll, hPieces, hCursor, hEnd]
    exact (hDoes.plain now.output hPlain).bind (finds_pure _)
  · right
    have hPlain : text.toList = done ++ (before ++ '\x7b' :: behind) := by rw [hText, hSplit]
    have hOutput := hDoes.plain now.output hPlain
    rw [← hCursor] at hOutput
    have hBrace : Walk.At text step all ⟨now.cursor + byteLength before,
        (before.map Piece.plain).foldl step now.output⟩ (done ++ before) ('\x7b' :: behind) := by
      refine ⟨?_, ?_, ?_⟩
      · rw [hPlain, List.append_assoc]
      · rw [hCursor, byteLength_append]
      · rw [← hAll, hSplit, pieces_append_of_forall hBefore, List.foldl_append]
    have hNext : ∃ next, (walkBrace walker text ((before.map Piece.plain).foldl step now.output)
        (now.cursor + byteLength before)).Finds next ∧
        ∃ done rest, next.At text step all done rest := by
      cases hRead : Piece.read? ('\x7b' :: behind) with
      | none =>
        obtain ⟨hFound, hAt'⟩ := walkBrace_of_none hDoes hRead hBrace
        exact ⟨_, hFound, _, _, hAt'⟩
      | some p =>
        obtain ⟨next, hFound, hAt'⟩ := walkBrace_of_some hDoes hRead hBrace
        exact ⟨next, hFound, _, _, hAt'⟩
    obtain ⟨next, hFound, hAt'⟩ := hNext
    refine ⟨next, hCut.bind ?_, hAt'⟩
    rw [hFind]
    exact hOutput.bind (hFound.bind (finds_pure _))

end Braces

theorem finds_walkAll (hDoes : walker.Does text step) (output : β) :
    (walkAll walker text output).Finds ((Piece.all text.toList).foldl step output) := by
  refine finds_loop
    (fun now => ∃ done rest, now.At text step ((Piece.all text.toList).foldl step output) done rest)
    text.utf8ByteSize (rises_walk walker text) ?_ ?_ ?_ ?_
  · rintro now ⟨done, rest, hAt⟩
    rw [hAt.cursor_eq, ← byteLength_toList, hAt.text_eq, byteLength_append]
    omega
  · rintro now ⟨done, rest, hAt⟩
    exact walk_finds hDoes hAt
  · exact ⟨[], text.toList, rfl, rfl, rfl⟩
  · show text.utf8ByteSize < 0 + (text.utf8ByteSize + 1)
    omega

-- ---------------------------------------------------------------------------
-- Values and names
-- ---------------------------------------------------------------------------

/-- A piece with the value of its variable put in, if it has one. -/
def put (value? : String → Option Value) : Piece → List Char
  | .plain c => [c]
  | .placeholder name =>
    match value? (String.ofList name) with
    | some v => v.display.toList
    | none => (Piece.placeholder name).source

/-- A text with pieces behind it, values put in. -/
def putBehind (value? : String → Option Value) (output : String) (piece : Piece) : String :=
  output ++ String.ofList (put value? piece)

theorem foldl_putBehind (value? : String → Option Value) (pieces : List Piece) (output : String) :
    pieces.foldl (putBehind value?) output =
      output ++ String.ofList (pieces.flatMap (put value?)) := by
  induction pieces generalizing output with
  | nil => rw [List.foldl_nil, List.flatMap_nil, String.ofList_nil, String.append_empty]
  | cons piece pieces ih =>
    rw [List.foldl_cons, ih, putBehind, List.flatMap_cons, String.ofList_append,
      String.append_assoc]

theorem flatMap_put_plain (value? : String → Option Value) (cs : List Char) :
    (cs.map Piece.plain).flatMap (put value?) = cs := by
  induction cs with
  | nil => rfl
  | cons c cs ih =>
    rw [List.map_cons, List.flatMap_cons, ih]
    rfl

theorem filler_does (value? : String → Option Value) (text : String) :
    (filler value? text).Does text (putBehind value?) where
  plain output hText := by
    rw [foldl_putBehind, flatMap_put_plain]
    exact (finds_cut hText rfl rfl).bind (finds_pure _)
  placeholder {before name behind} output hText := by
    have hOpen : text.toList = (before ++ ['\x7b']) ++ (name ++ '\x7d' :: behind) := by
      rw [hText]
      simp [Piece.source]
    have hName := finds_cut hOpen rfl rfl
    rw [byteLength_append, byteLength_open] at hName
    have hSize : byteLength before + 1 + byteLength name + 1 =
        byteLength before + byteLength (Piece.placeholder name).source := by
      rw [byteLength_placeholder]
      omega
    refine hName.bind ?_
    rw [putBehind, put]
    cases value? (String.ofList name) with
    | some v =>
      simp only [String.ofList_toList]
      exact finds_pure _
    | none => exact (finds_cut hText rfl hSize).bind (finds_pure _)
  brace _ := rfl

/-- Putting in values computes borders only and puts them in everywhere. -/
theorem finds_interpolate (value? : String → Option Value) (text : String) :
    (interpolate value? text).Finds
      (String.ofList ((Piece.all text.toList).flatMap (put value?))) := by
  have hFound := finds_walkAll (filler_does value? text) ""
  rwa [foldl_putBehind, String.empty_append] at hFound

/-- Names with that of a placeholder behind them. -/
def nameBehind (names : List String) (piece : Piece) : List String :=
  names ++ (piece.name?.map String.ofList).toList

theorem foldl_nameBehind (pieces : List Piece) (names : List String) :
    pieces.foldl nameBehind names = names ++ (pieces.filterMap Piece.name?).map String.ofList := by
  induction pieces generalizing names with
  | nil => exact (List.append_nil names).symm
  | cons piece pieces ih =>
    rw [List.foldl_cons, ih, nameBehind]
    cases piece with
    | plain c =>
      rw [List.filterMap_cons]
      simp [Piece.name?]
    | placeholder name => simp [Piece.name?]

theorem collector_does (text : String) : (collector text).Does text nameBehind where
  plain {before cs behind} names hText := by
    have hNone : (cs.map Piece.plain).filterMap Piece.name? = [] := by
      simp [Piece.name?]
    rw [foldl_nameBehind, hNone, List.map_nil, List.append_nil]
    exact finds_pure names
  placeholder {before name behind} names hText := by
    have hOpen : text.toList = (before ++ ['\x7b']) ++ (name ++ '\x7d' :: behind) := by
      rw [hText]
      simp [Piece.source]
    have hName := finds_cut hOpen rfl rfl
    rw [byteLength_append, byteLength_open] at hName
    exact hName.bind (finds_pure _)
  brace names := (List.append_nil names).symm

theorem finds_namesIn (names : List String) (segment : Segment) :
    (namesIn names (Part.of segment)).Finds (names ++ Piece.names segment.text) := by
  cases segment with
  | plain text =>
    have hFound := finds_walkAll (collector_does (String.ofList text)) names
    rw [foldl_nameBehind, String.toList_ofList] at hFound
    exact hFound
  | directive d =>
    have hNone : Piece.names (Segment.directive d).text = [] := by
      rw [Segment.text, Piece.names, Piece.all]
      rfl
    rw [hNone, List.append_nil]
    exact finds_pure names

theorem finds_foldlM_namesIn (segments : List Segment) (names : List String) :
    ((segments.map Part.of).foldlM namesIn names).Finds
      (names ++ segments.flatMap fun segment => Piece.names segment.text) := by
  induction segments generalizing names with
  | nil =>
    rw [List.flatMap_nil, List.append_nil]
    exact finds_pure names
  | cons segment segments ih =>
    rw [List.map_cons, List.foldlM_cons, List.flatMap_cons, ← List.append_assoc]
    exact (finds_namesIn names segment).bind (ih _)

/-- Collecting the placeholders of a template computes borders only and finds all of them. -/
theorem finds_placeholders (template : String) :
    (placeholders template).Finds (Template.placeholders template) :=
  (finds_segments template).bind (finds_foldlM_namesIn _ [])

end Scan

end Gamebook
