import Gamebook.Proofs.ByteOrder
import Gamebook.Text.Blank
import Gamebook.Text.Word

/-!
# Gamebook — offsets in bytes

A text is held as its bytes in UTF-8, in which a character takes one to four. An
offset that counts bytes can miss: it may be past the end of the text, or between
the bytes of one character, and then nothing can be cut out of the text there.
`Scan` is for scanners that work with such offsets. It keeps every offset that a
scanner has computed, and fails at the first cut that cannot be made.

* `Text.IsBorder` — the offsets at which a text can be cut.
* `Text.slice?` — the text between two offsets, if it can be cut out.
* `Text.find?`, `Text.leading` — offsets as scanners compute them: of the first
  character of a class, and behind a run of bytes of an ASCII class.
* `Scan`, `Scan.Finds` — a scan, and one that computes borders only and finds its
  result.
* `Scan.loop`, `Scan.finds_loop` — a loop whose cursor rises in every round ends.
-/

namespace Gamebook

namespace Text

variable {s : String} {c : Char} {cs before behind : List Char} {i j : Nat} {p : Char → Bool}

-- ---------------------------------------------------------------------------
-- Lengths in bytes
-- ---------------------------------------------------------------------------

/-- How many bytes some characters take. -/
def byteLength (cs : List Char) : Nat := (String.ofList cs).utf8ByteSize

theorem byteLength_nil : byteLength [] = 0 := rfl

theorem byteLength_append (cs ds : List Char) :
    byteLength (cs ++ ds) = byteLength cs + byteLength ds := by
  rw [byteLength, String.ofList_append, String.utf8ByteSize_append]
  rfl

theorem byteLength_singleton (c : Char) : byteLength [c] = c.utf8Size := by
  rw [byteLength, ← String.singleton_eq_ofList, String.utf8ByteSize_singleton]

theorem byteLength_cons (c : Char) (cs : List Char) :
    byteLength (c :: cs) = c.utf8Size + byteLength cs := by
  rw [← byteLength_singleton]
  exact byteLength_append [c] cs

theorem byteLength_toList (s : String) : byteLength s.toList = s.utf8ByteSize := by
  rw [byteLength, String.ofList_toList]

theorem byteLength_eq_zero_iff : byteLength cs = 0 ↔ cs = [] := by
  cases cs with
  | nil => exact iff_of_true rfl rfl
  | cons c cs =>
    have := c.utf8Size_pos
    rw [byteLength_cons]
    refine iff_of_false (by omega) (List.cons_ne_nil _ _)

-- ---------------------------------------------------------------------------
-- Borders
-- ---------------------------------------------------------------------------

/-- A text can be cut at the offset: it is not past the end and not inside a character. -/
def IsBorder (s : String) (i : Nat) : Prop := String.Pos.Raw.IsValid s ⟨i⟩

instance decidableIsBorder (s : String) (i : Nat) : Decidable (IsBorder s i) :=
  inferInstanceAs (Decidable (String.Pos.Raw.IsValid s ⟨i⟩))

/-- The position of a border in the text. -/
def IsBorder.pos (hBorder : IsBorder s i) : s.Pos := s.pos ⟨i⟩ hBorder

theorem IsBorder.offset_pos (hBorder : IsBorder s i) : hBorder.pos.offset = ⟨i⟩ :=
  String.offset_pos

/-- The end of a text is a border, and so is the place of every byte that a character begins
with. There are no others. -/
theorem isBorder_iff_firstByte :
    IsBorder s i ↔ i = s.utf8ByteSize ∨ ∃ b, (bytes s)[i]? = some b ∧ b.IsUTF8FirstByte := by
  rw [IsBorder, String.Pos.Raw.isValid_iff_isUTF8FirstByte, String.Pos.Raw.ext_iff]
  refine or_congr_right ⟨?_, ?_⟩
  · rintro ⟨hLt, hFirst⟩
    exact ⟨_, List.getElem?_eq_getElem hLt, hFirst⟩
  · rintro ⟨b, hByte, hFirst⟩
    obtain ⟨hLt, rfl⟩ := List.getElem?_eq_some_iff.mp hByte
    exact ⟨hLt, hFirst⟩

/-- Behind any characters of a text there is a border. -/
theorem isBorder_byteLength (hText : s.toList = before ++ behind) :
    IsBorder s (byteLength before) := by
  refine String.Pos.Raw.isValid_iff_exists_append.mpr
    ⟨String.ofList before, String.ofList behind, ?_, rfl⟩
  rw [← String.ofList_append, ← hText, String.ofList_toList]

/-- The text between two offsets; none if it cannot be cut at both of them, in this order. -/
def slice? (s : String) (i j : Nat) : Option String :=
  if h : IsBorder s i ∧ IsBorder s j ∧ i ≤ j then some (s.extract h.1.pos h.2.1.pos) else none

theorem extract_between (a b c : ByteArray) :
    (a ++ (b ++ c)).extract a.size (a.size + b.size) = b := by
  have hBehind : (a ++ (b ++ c)).extract (a.size + 0) (a.size + b.size) =
      (b ++ c).extract 0 b.size := ByteArray.extract_append_size_add
  rw [Nat.add_zero] at hBehind
  rw [hBehind, ByteArray.extract_append_eq_left rfl]

/-- Characters of a text are cut out by their offsets. -/
theorem slice?_eq (hText : s.toList = before ++ (cs ++ behind)) :
    slice? s (byteLength before) (byteLength before + byteLength cs) = some (String.ofList cs) := by
  have hTo : IsBorder s (byteLength before + byteLength cs) := by
    rw [← byteLength_append]
    exact isBorder_byteLength (by rw [hText, List.append_assoc])
  have hBytes : s.toByteArray = (String.ofList before).toByteArray ++
      ((String.ofList cs).toByteArray ++ (String.ofList behind).toByteArray) := by
    rw [← String.toByteArray_append, ← String.toByteArray_append, ← String.ofList_append,
      ← String.ofList_append, ← hText, String.ofList_toList]
  rw [slice?, dif_pos ⟨isBorder_byteLength hText, hTo, Nat.le_add_right _ _⟩, Option.some_inj,
    ← String.toByteArray_inj, String.toByteArray_extract, IsBorder.offset_pos, IsBorder.offset_pos,
    hBytes]
  exact extract_between _ _ _

-- ---------------------------------------------------------------------------
-- Finding a character
-- ---------------------------------------------------------------------------

/-- Characters with their offsets. -/
def indices (i : Nat) : List Char → List (Nat × Char)
  | [] => []
  | c :: cs => (i, c) :: indices (i + c.utf8Size) cs

/-- The offset of the first character of a class. -/
def find? (p : Char → Bool) (s : String) : Option Nat :=
  ((indices 0 s.toList).find? fun x => p x.2).map Prod.fst

theorem find?_indices_of_forall (hNone : ∀ c ∈ cs, p c = false) (i : Nat) :
    (indices i cs).find? (fun x => p x.2) = none := by
  induction cs generalizing i with
  | nil => rfl
  | cons c cs ih =>
    obtain ⟨hFirst, hRest⟩ := List.forall_mem_cons.mp hNone
    rw [indices]
    refine (List.find?_cons_of_neg ?_).trans (ih hRest _)
    exact Bool.eq_false_iff.mp hFirst

theorem find?_indices_append (hBefore : ∀ c ∈ before, p c = false) (hFound : p c = true)
    (behind : List Char) (i : Nat) :
    (indices i (before ++ c :: behind)).find? (fun x => p x.2) =
      some (i + byteLength before, c) := by
  induction before generalizing i with
  | nil => exact List.find?_cons_of_pos hFound
  | cons b before ih =>
    obtain ⟨hFirst, hRest⟩ := List.forall_mem_cons.mp hBefore
    rw [List.cons_append, indices, byteLength_cons, ← Nat.add_assoc]
    refine (List.find?_cons_of_neg ?_).trans (ih hRest _)
    exact Bool.eq_false_iff.mp hFirst

/-- A class has no character in a text, or a first one, and that is found. -/
theorem find?_cases (p : Char → Bool) (s : String) :
    ((∀ c ∈ s.toList, p c = false) ∧ find? p s = none) ∨
    ∃ before c behind, s.toList = before ++ c :: behind ∧ (∀ c ∈ before, p c = false) ∧
      p c = true ∧ find? p s = some (byteLength before) := by
  have hSplit := List.takeWhile_append_dropWhile (p := fun c => !p c) (l := s.toList)
  have hBefore : ∀ c ∈ s.toList.takeWhile (fun c => !p c), p c = false := by
    intro c hMem
    exact Bool.not_eq_true' _ ▸ List.all_eq_true.mp List.all_takeWhile c hMem
  cases hBehind : s.toList.dropWhile (fun c => !p c) with
  | nil =>
    rw [hBehind, List.append_nil] at hSplit
    rw [hSplit] at hBefore
    exact Or.inl ⟨hBefore, by rw [find?, find?_indices_of_forall hBefore]; rfl⟩
  | cons c behind =>
    rw [hBehind] at hSplit
    have hFound : p c = true := by
      have hHead := List.head?_dropWhile_not (fun c => !p c) s.toList
      rw [hBehind] at hHead
      simpa using hHead
    refine Or.inr ⟨_, c, behind, hSplit.symm, hBefore, hFound, ?_⟩
    have hIndex := find?_indices_append hBefore hFound behind 0
    rw [hSplit, Nat.zero_add] at hIndex
    rw [find?, hIndex]
    rfl

/-- The offset behind the leading blanks. -/
def leadingBlanks (s : String) : Nat := (find? (fun c => !isBlank c) s).getD s.utf8ByteSize

theorem leadingBlanks_eq (s : String) :
    leadingBlanks s = byteLength (s.toList.takeWhile isBlank) := by
  rw [leadingBlanks]
  rcases find?_cases (fun c => !isBlank c) s with
    ⟨hAll, hNone⟩ | ⟨before, c, behind, hText, hBefore, hStop, hSome⟩
  · have hRun : (s.toList ++ []).takeWhile isBlank = s.toList :=
      takeWhile_run (fun c hMem => by simpa using hAll c hMem) nofun
    rw [List.append_nil] at hRun
    rw [hNone, hRun, byteLength_toList]
    rfl
  · have hBlank : ∀ c ∈ before, isBlank c = true := fun c hMem => by simpa using hBefore c hMem
    have hRun : s.toList.takeWhile isBlank = before := by
      rw [hText]
      refine takeWhile_run hBlank fun d hHead => ?_
      cases hHead
      simpa using hStop
    rw [hSome, hRun]
    rfl

-- ---------------------------------------------------------------------------
-- Runs of bytes
-- ---------------------------------------------------------------------------

/-- How many bytes in a row at the front of a text belong to a class. -/
def leading (p : Nat → Bool) (s : String) : Nat :=
  ((bytes s).takeWhile fun b => p b.toNat).length

variable {class? : Nat → Bool}

/-- A character of an ASCII class is one byte. -/
theorem encode_of_ascii (hAscii : ∀ n, class? n = true → n < 128) (hClass : class? c.toNat = true) :
    String.utf8EncodeChar c = [UInt8.ofNat c.toNat] ∧ (UInt8.ofNat c.toNat).toNat = c.toNat := by
  have hLt := hAscii _ hClass
  have hLe : c.val.toNat ≤ 127 := by
    have hVal : c.val.toNat < 128 := hLt
    omega
  exact ⟨if_pos hLe, UInt8.toNat_ofNat_of_lt' (Nat.lt_trans hLt (by decide))⟩

/-- Any other character does not begin with a byte of the class. -/
theorem exists_encode_of_not (hAscii : ∀ n, class? n = true → n < 128)
    (hClass : class? c.toNat = false) :
    ∃ b bs, String.utf8EncodeChar c = b :: bs ∧ class? b.toNat = false := by
  have hLarge : ∀ n, 128 ≤ n → n < 256 → class? (UInt8.ofNat n).toNat = false := by
    intro n hLow hHigh
    rw [UInt8.toNat_ofNat_of_lt' hHigh, Bool.eq_false_iff]
    intro hTrue
    have := hAscii n hTrue
    omega
  unfold String.utf8EncodeChar
  simp only
  split
  · rename_i hLe
    refine ⟨_, _, rfl, ?_⟩
    rw [UInt8.toNat_ofNat_of_lt' (Nat.lt_of_le_of_lt hLe (by decide))]
    exact hClass
  · repeat' split
    all_goals exact ⟨_, _, rfl, hLarge _ (by omega) (by omega)⟩

/-- A run of bytes of an ASCII class is a run of characters. -/
theorem leading_eq (hAscii : ∀ n, class? n = true → n < 128) (s : String) :
    leading class? s = byteLength (s.toList.takeWhile fun c => class? c.toNat) := by
  rw [leading, bytes_eq_flatMap]
  induction s.toList with
  | nil => rfl
  | cons c cs ih =>
    rw [List.flatMap_cons]
    cases hClass : class? c.toNat with
    | true =>
      obtain ⟨hBytes, hCode⟩ := encode_of_ascii hAscii hClass
      have hSize : c.utf8Size = 1 := by
        rw [← String.length_utf8EncodeChar, hBytes]
        rfl
      have hByte : class? (UInt8.ofNat c.toNat).toNat = true := by rw [hCode, hClass]
      simp only [hBytes, List.singleton_append, List.takeWhile_cons, hByte, hClass, if_true,
        List.length_cons, ih, byteLength_cons, hSize]
      exact Nat.add_comm _ _
    | false =>
      obtain ⟨b, bs, hBytes, hFirst⟩ := exists_encode_of_not hAscii hClass
      simp only [hBytes, List.cons_append, List.takeWhile_cons, hFirst, hClass, Bool.false_eq_true,
        if_false]
      rfl

end Text

-- ---------------------------------------------------------------------------
-- Scans
-- ---------------------------------------------------------------------------

open Text

/-- What comes of a scan. -/
structure Scan (α : Type) where
  /-- The offsets that it has computed, each with the text in which it counts. -/
  offsets : List (String × Nat)
  /-- What it has found; none if a text could not be cut. -/
  result : Option α

namespace Scan

variable {α β σ : Type} {a : α} {b : β}

/-- A scan that goes on with what another one finds. A cut that cannot be made ends it. -/
def andThen (x : Scan α) (f : α → Scan β) : Scan β :=
  match x.result with
  | some a => ⟨x.offsets ++ (f a).offsets, (f a).result⟩
  | none => ⟨x.offsets, none⟩

instance monadScan : Monad Scan where
  pure a := ⟨[], some a⟩
  bind := andThen

/-- Computes an offset. -/
def note (s : String) (i : Nat) : Scan Unit := ⟨[(s, i)], some ()⟩

/-- Cuts out the text between two offsets. -/
def cut (s : String) (i j : Nat) : Scan String := ⟨[(s, i), (s, j)], slice? s i j⟩

/-- Cuts out the text from an offset on. -/
def cutFrom (s : String) (i : Nat) : Scan String := cut s i s.utf8ByteSize

/-- Rounds of a scan, up to a number of them. Each of them goes on from some state or has found
the result; if none of them has, there is no result. -/
def loop (round : σ → Scan (σ ⊕ α)) : Nat → σ → Scan α
  | 0, _ => ⟨[], none⟩
  | rounds + 1, now => do
    match ← round now with
    | .inl next => loop round rounds next
    | .inr a => return a

/-- The scan computes no offset but borders, makes all of its cuts and finds the result. -/
structure Finds (x : Scan α) (a : α) : Prop where
  border : ∀ o ∈ x.offsets, IsBorder o.1 o.2
  result_eq : x.result = some a

theorem finds_pure (a : α) : (pure a : Scan α).Finds a := ⟨List.forall_mem_nil _, rfl⟩

theorem Finds.bind {x : Scan α} {f : α → Scan β} (hFirst : x.Finds a) (hNext : (f a).Finds b) :
    (x >>= f).Finds b := by
  have hBind : x >>= f = ⟨x.offsets ++ (f a).offsets, (f a).result⟩ := by
    show andThen x f = _
    rw [andThen, hFirst.result_eq]
  rw [hBind]
  exact ⟨List.forall_mem_append.mpr ⟨hFirst.border, hNext.border⟩, hNext.result_eq⟩

theorem finds_note {s : String} {i : Nat} (hBorder : IsBorder s i) : (note s i).Finds () :=
  ⟨List.forall_mem_singleton.mpr hBorder, rfl⟩

section Cuts

variable {s : String} {cs before behind : List Char} {i j : Nat}

/-- Characters of a text are cut out by the offset in front of them and the one behind them. -/
theorem finds_cut (hText : s.toList = before ++ (cs ++ behind)) (hFrom : i = byteLength before)
    (hTo : j = i + byteLength cs) : (cut s i j).Finds (String.ofList cs) := by
  subst hTo hFrom
  constructor
  · have hBehind : IsBorder s (byteLength before + byteLength cs) := by
      rw [← byteLength_append]
      exact isBorder_byteLength (by rw [hText, List.append_assoc])
    exact List.forall_mem_cons.mpr
      ⟨isBorder_byteLength hText, List.forall_mem_singleton.mpr hBehind⟩
  · exact slice?_eq hText

/-- The rest of a text is cut off by the offset in front of it. -/
theorem finds_cutFrom (hText : s.toList = before ++ cs) (hFrom : i = byteLength before) :
    (cutFrom s i).Finds (String.ofList cs) := by
  have hSplit : s.toList = before ++ (cs ++ []) := by rw [hText, List.append_nil]
  refine finds_cut hSplit hFrom ?_
  rw [← byteLength_toList, hText, byteLength_append, hFrom]

end Cuts

/-- A scan that goes on has what the first one finds and what comes of going on with it. -/
theorem result_bind_eq_some {x : Scan α} {f : α → Scan β} (hResult : (x >>= f).result = some b) :
    ∃ a, x.result = some a ∧ (f a).result = some b := by
  have hBind : (andThen x f).result = some b := hResult
  rw [andThen] at hBind
  split at hBind
  · rename_i a hFirst
    exact ⟨a, hFirst, hBind⟩
  · cases hBind

/-- Every round of a loop that goes on leaves the cursor higher than it was. -/
def Rises (cursor : σ → Nat) (round : σ → Scan (σ ⊕ α)) : Prop :=
  ∀ now next, (round now).result = some (.inl next) → cursor now < cursor next

/-- A loop whose cursor rises finds its result if every round from a good state does or goes on
from a good state, and in these the cursor never passes the end of the text. -/
theorem finds_loop {round : σ → Scan (σ ⊕ α)} {cursor : σ → Nat} (Good : σ → Prop) (size : Nat)
    (hRises : Rises cursor round) (hSize : ∀ now, Good now → cursor now ≤ size)
    (hRound : ∀ now, Good now → (round now).Finds (.inr a) ∨
      ∃ next, (round now).Finds (.inl next) ∧ Good next)
    {now : σ} (hGood : Good now) {rounds : Nat} (hRounds : size < cursor now + rounds) :
    (loop round rounds now).Finds a := by
  -- On the rounds that are left: the cursor has at most so many places to rise to.
  induction rounds generalizing now with
  | zero =>
    have := hSize now hGood
    omega
  | succ rounds ih =>
    rcases hRound now hGood with hFound | ⟨next, hNext, hGood'⟩
    · exact hFound.bind (finds_pure a)
    · have := hRises now next hNext.result_eq
      exact hNext.bind (ih hGood' (by omega))

end Scan

end Gamebook
