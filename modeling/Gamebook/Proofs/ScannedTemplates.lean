import Gamebook.Proofs.ScannedDirectives

/-!
# Gamebook — scanning a template for segments

A template is scanned from one opening brace to the next. A directive that is found
at a brace is cut out, and what stands between two of them is cut out as one piece
of plain text; so besides the cursor a scan keeps where the plain text begins that
is still pending. A brace without a directive is plain text too.

* `segments` — the scan, offset by offset.
* `Sweep.At` — how far a scan is, told by the characters of the template.
* `sweepBrace_of_none`, `sweepBrace_of_some`, `sweep_finds` — what one round does.
* `rises_sweep` — every round that goes on raises the cursor.
* `finds_segments` — the scan computes borders only and finds the segments.
-/

namespace Gamebook

open Text

namespace Scan

variable {s template : String} {cs behind before : List Char}

/-- A segment as it is cut out of a template. -/
inductive Part where
  | plain (text : String)
  | set (name value : String)

def Part.of : Segment → Part
  | .plain text => plain (String.ofList text)
  | .directive d => set d.target (String.ofList d.value)

/-- A template in the course of a scan. -/
structure Sweep where
  /-- Where the plain text begins that has not been cut out yet. -/
  plainFrom : Nat
  cursor : Nat
  parts : List Part

/-- Parts with the plain text between two offsets behind them, if there is any. -/
def withPlain (parts : List Part) (s : String) (i j : Nat) : Scan (List Part) :=
  if i < j then do return parts ++ [.plain (← cut s i j)] else return parts

/-- Goes on behind the directive at an opening brace, or else behind the brace. -/
def sweepBrace (template : String) (now : Sweep) (start : Nat) : Scan Sweep := do
  match ← directive? (← cutFrom template start) with
  | some d =>
    let parts ← withPlain now.parts template now.plainFrom start
    note template (start + d.size)
    return ⟨start + d.size, start + d.size, parts ++ [.set d.name d.value]⟩
  | none =>
    note template (start + 1)
    return { now with cursor := start + 1 }

/-- Goes on at the next opening brace. -/
def sweep (template : String) (now : Sweep) : Scan (Sweep ⊕ List Part) := do
  match find? (· == '\x7b') (← cutFrom template now.cursor) with
  | none => return .inr (← withPlain now.parts template now.plainFrom template.utf8ByteSize)
  | some offset => return .inl (← sweepBrace template now (now.cursor + offset))

/-- The segments of a template. -/
def segments (template : String) : Scan (List Part) :=
  loop (sweep template) (template.utf8ByteSize + 1) ⟨0, 0, []⟩

/-- Plain text as segments: one, or none if there is no text. -/
def plainOf (cs : List Char) : List Segment := if cs = [] then [] else [.plain cs]

/-- Characters in front of segments that do not begin with plain text are plain text. -/
theorem foldr_cons_eq {segments : List Segment}
    (hWhole : ∀ text', segments.head? ≠ some (.plain text')) (cs : List Char) :
    cs.foldr Segment.cons segments = plainOf cs ++ segments := by
  induction cs with
  | nil => rfl
  | cons c cs ih =>
    rw [List.foldr_cons, ih, plainOf, plainOf, if_neg (List.cons_ne_nil c cs)]
    split
    · rename_i hNil
      rw [hNil, List.nil_append, Segment.cons_of_head? hWhole]
      rfl
    · rfl

/-- Only an opening brace can begin a directive. -/
theorem all_append_of_forall (hBefore : ∀ c ∈ before, (c == '\x7b') = false) (cs : List Char) :
    Segment.all (before ++ cs) = before.foldr Segment.cons (Segment.all cs) := by
  induction before with
  | nil => rfl
  | cons c before ih =>
    obtain ⟨hFirst, hRest⟩ := List.forall_mem_cons.mp hBefore
    have hNone : Directive.read? (c :: (before ++ cs)) = none := by
      unfold Directive.read?
      split
      · rename_i hCons
        rw [(List.cons.inj hCons).1] at hFirst
        cases hFirst
      · rfl
    rw [List.cons_append, Segment.all_cons_of_none hNone, ih hRest, List.foldr_cons]

theorem finds_withPlain {done : List Char} (hText : s.toList = done ++ (cs ++ behind))
    (parts : List Part) :
    (withPlain parts s (byteLength done) (byteLength done + byteLength cs)).Finds
      (parts ++ (plainOf cs).map Part.of) := by
  rw [withPlain, plainOf]
  by_cases hNil : cs = []
  · rw [hNil, byteLength_nil, Nat.add_zero, if_neg (Nat.lt_irrefl _), if_pos rfl, List.map_nil,
      List.append_nil]
    exact finds_pure parts
  · have hSome : byteLength done < byteLength done + byteLength cs :=
      Nat.lt_add_of_pos_right (Nat.pos_of_ne_zero (mt byteLength_eq_zero_iff.mp hNil))
    rw [if_pos hSome, if_neg hNil]
    exact (finds_cut hText rfl rfl).bind (finds_pure _)

theorem byteLength_open : byteLength ['\x7b'] = 1 := rfl

/-- There is no opening brace in a text, or a first one, and that is found. -/
theorem find?_open (cs : List Char) :
    ((∀ c ∈ cs, (c == '\x7b') = false) ∧ find? (· == '\x7b') (String.ofList cs) = none) ∨
    ∃ before behind, cs = before ++ '\x7b' :: behind ∧ (∀ c ∈ before, (c == '\x7b') = false) ∧
      find? (· == '\x7b') (String.ofList cs) = some (byteLength before) := by
  have hCases := find?_cases (· == '\x7b') (String.ofList cs)
  rw [String.toList_ofList] at hCases
  rcases hCases with hNone | ⟨before, c, behind, hText, hBefore, hOpen, hFind⟩
  · exact Or.inl hNone
  · rw [beq_iff_eq] at hOpen
    subst hOpen
    exact Or.inr ⟨before, behind, hText, hBefore, hFind⟩

/-- How far a scan is: the plain text that is pending begins behind what is done and goes up to
the cursor, and the parts so far lack the segments of what is pending and of the rest. -/
structure Sweep.At (template : String) (now : Sweep) (done pending rest : List Char) : Prop where
  text_eq : template.toList = done ++ (pending ++ rest)
  plainFrom_eq : now.plainFrom = byteLength done
  cursor_eq : now.cursor = byteLength done + byteLength pending
  parts_eq : now.parts ++ (pending.foldr Segment.cons (Segment.all rest)).map Part.of =
    (Template.segments template).map Part.of

theorem lt_of_sweepBrace {now next : Sweep} {start : Nat}
    (hNext : (sweepBrace template now start).result = some next) : start < next.cursor := by
  obtain ⟨here, -, hNext⟩ := result_bind_eq_some hNext
  obtain ⟨found, hFound, hNext⟩ := result_bind_eq_some hNext
  split at hNext
  · obtain ⟨parts, -, hNext⟩ := result_bind_eq_some hNext
    obtain ⟨-, -, hNext⟩ := result_bind_eq_some hNext
    cases hNext
    exact Nat.lt_add_of_pos_right (size_pos hFound)
  · obtain ⟨-, -, hNext⟩ := result_bind_eq_some hNext
    cases hNext
    exact Nat.lt_succ_self start

theorem rises_sweep (template : String) : Rises Sweep.cursor (sweep template) := by
  intro now next hNext
  obtain ⟨rest, -, hNext⟩ := result_bind_eq_some hNext
  split at hNext
  · obtain ⟨parts, -, hNext⟩ := result_bind_eq_some hNext
    cases hNext
  · obtain ⟨next', hBrace, hNext⟩ := result_bind_eq_some hNext
    cases hNext
    exact Nat.lt_of_le_of_lt (Nat.le_add_right _ _) (lt_of_sweepBrace hBrace)

section Braces

variable {now : Sweep} {start : Nat} {done pending rest : List Char} {d : Directive}

/-- A brace at which no directive starts is pending plain text. -/
theorem sweepBrace_of_none (hNone : Directive.read? ('\x7b' :: behind) = none)
    (hAt : { now with cursor := start }.At template done pending ('\x7b' :: behind)) :
    (sweepBrace template now start).Finds { now with cursor := start + 1 } ∧
      { now with cursor := start + 1 }.At template done (pending ++ ['\x7b']) behind := by
  obtain ⟨hText, hFrom, hStart, hParts⟩ := hAt
  have hHere : template.toList = (done ++ pending) ++ '\x7b' :: behind := by
    rw [hText, List.append_assoc]
  have hBehind : template.toList = done ++ ((pending ++ ['\x7b']) ++ behind) := by
    rw [hText, List.append_assoc pending, List.singleton_append]
  have hNext : start + 1 = byteLength done + byteLength (pending ++ ['\x7b']) := by
    rw [byteLength_append, byteLength_open, ← Nat.add_assoc, ← hStart]
  have hBorder : IsBorder template (start + 1) := by
    rw [hNext, ← byteLength_append]
    exact isBorder_byteLength (hBehind.trans (List.append_assoc _ _ _).symm)
  refine ⟨?_, hBehind, hFrom, hNext, ?_⟩
  · have hRead := finds_directive (String.ofList ('\x7b' :: behind))
    rw [String.toList_ofList, hNone] at hRead
    refine (finds_cutFrom hHere (hStart.trans (byteLength_append _ _).symm)).bind (hRead.bind ?_)
    exact (finds_note hBorder).bind (finds_pure _)
  · rw [← hParts, Segment.all_cons_of_none hNone, List.foldr_append]
    rfl

/-- A directive follows the plain text that was pending. -/
theorem sweepBrace_of_some (hRead : Directive.read? ('\x7b' :: behind) = some (d, rest))
    (hAt : { now with cursor := start }.At template done pending ('\x7b' :: behind)) :
    ∃ next, (sweepBrace template now start).Finds next ∧
      next.At template (done ++ (pending ++ d.source)) [] rest := by
  obtain ⟨hText, hFrom, hStart, hParts⟩ := hAt
  have hHere : template.toList = (done ++ pending) ++ '\x7b' :: behind := by
    rw [hText, List.append_assoc]
  have hBehind : template.toList = (done ++ (pending ++ d.source)) ++ rest := by
    rw [hText, Directive.eq_of_read? hRead]
    simp only [List.append_assoc]
  have hNext : start + byteLength d.source = byteLength (done ++ (pending ++ d.source)) := by
    rw [byteLength_append, byteLength_append, ← Nat.add_assoc, ← hStart]
  have hBorder : IsBorder template (start + byteLength d.source) := by
    rw [hNext]
    exact isBorder_byteLength hBehind
  have hWhole : ∀ text', (Segment.directive d :: Segment.all rest).head? ≠
      some (.plain text') := nofun
  refine ⟨⟨_, _, now.parts ++ (plainOf pending).map Part.of ++
    [.set d.target (String.ofList d.value)]⟩, ?_, hBehind, hNext, hNext, ?_⟩
  · have hFound := finds_directive (String.ofList ('\x7b' :: behind))
    rw [String.toList_ofList, hRead] at hFound
    have hPlain := finds_withPlain hText now.parts
    rw [← hStart, ← hFrom] at hPlain
    refine (finds_cutFrom hHere (hStart.trans (byteLength_append _ _).symm)).bind (hFound.bind ?_)
    exact hPlain.bind ((finds_note hBorder).bind (finds_pure _))
  · rw [← hParts, Segment.all_of_read? hRead, foldr_cons_eq hWhole]
    simp [Part.of]

/-- One round finds all parts, or goes on from where the scan then is. -/
theorem sweep_finds (hAt : now.At template done pending rest) :
    (sweep template now).Finds (.inr ((Template.segments template).map Part.of)) ∨
      ∃ next, (sweep template now).Finds (.inl next) ∧
        ∃ done pending rest, next.At template done pending rest := by
  have hRest : template.toList = (done ++ pending) ++ rest := by
    rw [hAt.text_eq, List.append_assoc]
  have hCut := finds_cutFrom hRest (hAt.cursor_eq.trans (byteLength_append _ _).symm)
  rcases find?_open rest with ⟨hNone, hFind⟩ | ⟨before, behind, hSplit, hBefore, hFind⟩
  · -- Without an opening brace all of the rest is plain text.
    left
    have hAll : pending.foldr Segment.cons (Segment.all rest) = plainOf (pending ++ rest) := by
      have hRuns := all_append_of_forall hNone []
      have hWhole : ∀ text', ([] : List Segment).head? ≠ some (.plain text') := nofun
      rw [List.append_nil] at hRuns
      rw [hRuns, Segment.all, ← List.foldr_append, foldr_cons_eq hWhole, List.append_nil]
    have hEnd : template.utf8ByteSize = byteLength done + byteLength (pending ++ rest) := by
      rw [← byteLength_toList, hAt.text_eq, byteLength_append]
    have hPlain : template.toList = done ++ ((pending ++ rest) ++ []) := by
      rw [hAt.text_eq, List.append_nil]
    refine hCut.bind ?_
    rw [hFind, ← hAt.parts_eq, hAll, hAt.plainFrom_eq, hEnd]
    exact (finds_withPlain hPlain now.parts).bind (finds_pure _)
  · right
    have hBrace : { now with cursor := now.cursor + byteLength before }.At template done
        (pending ++ before) ('\x7b' :: behind) := by
      refine ⟨?_, hAt.plainFrom_eq, ?_, ?_⟩
      · rw [hAt.text_eq, hSplit, List.append_assoc]
      · rw [hAt.cursor_eq, byteLength_append, Nat.add_assoc]
      · rw [← hAt.parts_eq, hSplit, all_append_of_forall hBefore, List.foldr_append]
    have hNext : ∃ next, (sweepBrace template now (now.cursor + byteLength before)).Finds next ∧
        ∃ done pending rest, next.At template done pending rest := by
      cases hRead : Directive.read? ('\x7b' :: behind) with
      | none =>
        obtain ⟨hFound, hAt'⟩ := sweepBrace_of_none hRead hBrace
        exact ⟨_, hFound, _, _, _, hAt'⟩
      | some p =>
        obtain ⟨next, hFound, hAt'⟩ := sweepBrace_of_some hRead hBrace
        exact ⟨next, hFound, _, _, _, hAt'⟩
    obtain ⟨next, hFound, hAt'⟩ := hNext
    refine ⟨next, hCut.bind ?_, hAt'⟩
    rw [hFind]
    exact hFound.bind (finds_pure _)

end Braces

/-- Scanning a template computes borders only and finds its segments. -/
theorem finds_segments (template : String) :
    (segments template).Finds ((Template.segments template).map Part.of) := by
  refine finds_loop (fun now => ∃ done pending rest, now.At template done pending rest)
    template.utf8ByteSize (rises_sweep template) ?_ ?_ ?_ ?_
  · rintro now ⟨done, pending, rest, hAt⟩
    rw [hAt.cursor_eq, ← byteLength_toList, hAt.text_eq, byteLength_append, byteLength_append]
    omega
  · rintro now ⟨done, pending, rest, hAt⟩
    exact sweep_finds hAt
  · exact ⟨[], [], template.toList, rfl, rfl, rfl, rfl⟩
  · show template.utf8ByteSize < 0 + (template.utf8ByteSize + 1)
    omega

end Scan

end Gamebook
