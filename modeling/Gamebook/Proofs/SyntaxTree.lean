import Gamebook.Json.Read
import Gamebook.Proofs.Numerals
import Gamebook.Proofs.Strings

/-!
# Gamebook — trees of scalars

A text is read as `null`, a truth value, a number or a string exactly if it has
the one token of such a value. Once the machine that builds the tree has opened
an array or an object, all that it reads ends up inside: `Nested` tells the
places inside, and every token leads from one of them to another or ends in a
tree that is no scalar.

* `Token.all_cons` — the tokens of a text one by one.
* `isScalar_readOn` — what is read inside an array or an object is no scalar.
* `ofTokens_of_scalar`, `exists_token_of_isScalar` — scalars and their tokens.
* `ScalarAs` — the grammar of scalars.
* `all_append`, `isWritten_ofChar` — a scalar is written in front of a text, and its token is
  read there.
* `ofText_of_scalarAs`, `scalarAs_of_ofText` — a text is read as a scalar if it is written as
  one, and only then.
-/

namespace Gamebook.Json

variable {c : Char} {cs : List Char} {t : Token} {ts behind : List Token} {v : Syntax}
  {place : Place} {frames : List Frame} {text rest ending : List Char}

-- ---------------------------------------------------------------------------
-- Tokens
-- ---------------------------------------------------------------------------

namespace Token

theorem all_nil : all [] = [] := by
  rw [all]
  rfl

/-- Tokens are read from the front. -/
theorem all_cons (hSpace : isSpace c = false) :
    all (c :: cs) = (ofChar c cs).1 :: all (ofChar c cs).2 := by
  have hNext : next (c :: cs) = some (ofChar c cs) := by
    rw [next, hSpace, if_neg Bool.false_ne_true]
  rw [all]
  split
  · rename_i hNone
    rw [hNext] at hNone
    cases hNone
  · rename_i t rest hSome
    rw [hNext] at hSome
    rw [Option.some.inj hSome]

/-- A text without tokens is nothing but spaces. -/
theorem isSpace_of_all_eq_nil (hNone : all cs = []) : ∀ c ∈ cs, isSpace c = true := by
  induction cs with
  | nil => exact List.forall_mem_nil _
  | cons c cs ih =>
    cases hSpace : isSpace c with
    | false =>
      rw [all_cons hSpace] at hNone
      cases hNone
    | true =>
      have hTail : all cs = [] := by
        rw [← hNone, all.eq_def (c :: cs), all.eq_def cs, next, if_pos hSpace]
      exact List.forall_mem_cons.mpr ⟨hSpace, ih hTail⟩

/-- The scalar that a token is on its own. -/
def scalar? : Token → Option Syntax
  | null => some .null
  | bool b => some (.bool b)
  | number n => some (.number n)
  | string s => some (.string s)
  | _ => none

end Token

-- ---------------------------------------------------------------------------
-- Inside arrays and objects
-- ---------------------------------------------------------------------------

/-- A value that is neither an array nor an object. -/
def Syntax.isScalar : Syntax → Bool
  | .null | .bool _ | .number _ | .string _ => true
  | _ => false

/-- The place is inside an array or an object, or behind one. -/
def Nested : Place → List Frame → Prop
  | .value, frames => frames ≠ []
  | .key _, _ => True
  | .colon _ _, _ => True
  | .after v, frames => v.isScalar = false ∨ frames ≠ []

theorem isScalar_fill (v : Syntax) (ending : Ending) (frame : Frame) :
    (frame.fill v ending).isScalar = false := by
  cases frame <;> rfl

theorem isScalar_abandon (hInside : v.isScalar = false ∨ frames ≠ []) :
    (abandon frames v).isScalar = false := by
  -- The value grows with every frame, so it is generalized.
  induction frames generalizing v with
  | nil => exact hInside.resolve_right fun hNil => hNil rfl
  | cons frame frames ih => exact ih (Or.inl (isScalar_fill v .cut frame))

theorem isScalar_finish (hNested : Nested place frames) :
    (finish place frames).isScalar = false := by
  unfold finish
  split
  · exact isScalar_abandon (Or.inl rfl)
  · exact isScalar_abandon (Or.inl rfl)
  · exact isScalar_abandon (Or.inl rfl)
  · exact isScalar_abandon (Or.inl rfl)
  · exact isScalar_abandon (Or.inl rfl)
  · exact isScalar_abandon (Or.inl rfl)
  · exact isScalar_abandon hNested

/-- Where a token leads from a place inside: to another one, or to a tree that is no scalar. -/
def Step.IsNested : Step → Prop
  | .go place frames => Nested place frames
  | .stop tree => tree.isScalar = false

theorem isNested_beginValue (hFrames : frames ≠ []) (t : Token) :
    (t.beginValue frames).IsNested := by
  unfold Token.beginValue
  split
  · exact List.cons_ne_nil _ _
  · trivial
  · exact Or.inr hFrames
  · exact Or.inr hFrames
  · exact Or.inr hFrames
  · exact Or.inr hFrames
  · exact isScalar_abandon (Or.inr hFrames)
  · split
    · exact Or.inl rfl
    · exact isScalar_abandon (Or.inl rfl)
    · exact isScalar_abandon (Or.inr hFrames)
  all_goals exact isScalar_abandon (Or.inr hFrames)

theorem isNested_beginKey (done : List Member) (frames : List Frame) (t : Token) :
    (t.beginKey done frames).IsNested := by
  unfold Token.beginKey
  split
  · trivial
  · split
    · exact Or.inl rfl
    · exact isScalar_abandon (Or.inl rfl)
  · exact isScalar_abandon (Or.inl rfl)

theorem isNested_afterValue (hInside : v.isScalar = false ∨ frames ≠ []) (t : Token) :
    (t.afterValue v frames).IsNested := by
  unfold Token.afterValue
  split
  · exact hInside.resolve_right fun hNil => hNil rfl
  · exact List.cons_ne_nil _ _
  · exact Or.inl rfl
  · trivial
  · exact Or.inl rfl
  · exact isScalar_abandon (Or.inl (isScalar_fill v .noSeparator _))

theorem isNested_step (hNested : Nested place frames) (t : Token) :
    (t.step place frames).IsNested := by
  cases place with
  | value => exact isNested_beginValue hNested t
  | key done => exact isNested_beginKey done frames t
  | after v => exact isNested_afterValue hNested t
  | colon done key =>
    unfold Token.step
    simp only
    split
    · exact List.cons_ne_nil _ _
    · exact isScalar_abandon (Or.inl rfl)

/-- What is read inside an array or an object is no scalar. -/
theorem isScalar_readOn (hNested : Nested place frames) (ts : List Token) :
    (Syntax.readOn ts place frames).1.isScalar = false := by
  induction ts generalizing place frames with
  | nil => exact isScalar_finish hNested
  | cons t ts ih =>
    have hStep := isNested_step hNested t
    rw [Syntax.readOn]
    split
    · rename_i place' frames' hGo
      rw [hGo] at hStep
      exact ih hStep
    · rename_i tree hStop
      rw [hStop] at hStep
      exact hStep

-- ---------------------------------------------------------------------------
-- Scalars
-- ---------------------------------------------------------------------------

/-- Behind a value that stands in nothing nothing more is read. -/
theorem readOn_after (v : Syntax) (ts : List Token) :
    Syntax.readOn ts (.after v) [] = (v, ts) := by
  cases ts with
  | nil => rfl
  | cons t ts => rfl

/-- The token of a scalar is read as the scalar. -/
theorem ofTokens_of_scalar (hScalar : t.scalar? = some v) (ts : List Token) :
    Syntax.ofTokens (t :: ts) = (v, ts) := by
  unfold Token.scalar? at hScalar
  split at hScalar
  all_goals cases hScalar
  all_goals exact readOn_after _ ts

/-- A scalar is read from its token alone. -/
theorem exists_token_of_isScalar (hScalar : (Syntax.ofTokens ts).1.isScalar = true) :
    ∃ t, t.scalar? = some (Syntax.ofTokens ts).1 ∧ ts = t :: (Syntax.ofTokens ts).2 := by
  cases ts with
  | nil => cases hScalar
  | cons t ts =>
    cases hToken : t.scalar? with
    | some v =>
      rw [ofTokens_of_scalar hToken]
      exact ⟨t, hToken, rfl⟩
    | none =>
      -- Every other token opens an array or an object, or is a fault.
      have hOther : (Syntax.ofTokens (t :: ts)).1.isScalar = false := by
        cases t with
        | openArray =>
          have hInside : Nested .value [.item []] := List.cons_ne_nil _ _
          exact isScalar_readOn hInside ts
        | openObject =>
          have hInside : Nested (.key []) [] := trivial
          exact isScalar_readOn hInside ts
        | null | bool | number | string => cases hToken
        | closeArray | closeObject | comma | colon | broken | stray => rfl
      rw [hOther] at hScalar
      cases hScalar

-- ---------------------------------------------------------------------------
-- The grammar of scalars
-- ---------------------------------------------------------------------------

/-- The texts that write a scalar. -/
inductive ScalarAs : Syntax → List Char → Prop
  | null : ScalarAs .null "null".toList
  | bool (b : Bool) : ScalarAs (.bool b) (if b then "true" else "false").toList
  | number {n : Numeral} {text : List Char} (hText : n.WrittenAs text) :
      ScalarAs (.number (.ok n)) text
  | string {contents text : List Char} (hText : StringAs contents text) :
      ScalarAs (.string ⟨.ok (String.ofList contents), .ok ()⟩) text

theorem wordEnd_eq_ok_iff : wordEnd ending cs = .ok rest ↔ cs = ending ++ rest := by
  induction ending generalizing cs with
  | nil =>
    rw [wordEnd, List.nil_append]
    exact ⟨Except.ok.inj, congrArg Except.ok⟩
  | cons w ws ih =>
    cases cs with
    | nil =>
      rw [wordEnd, List.cons_append]
      simp only [reduceCtorEq]
    | cons c cs =>
      rw [wordEnd, List.cons_append, List.cons.injEq]
      split
      · rename_i hSame
        rw [ih, and_iff_right hSame.symm]
      · rename_i hOther
        simp only [reduceCtorEq, false_iff, not_and]
        intro hSame
        exact absurd hSame.symm hOther

theorem ofWord_append (t : Token) (ending rest : List Char) :
    t.ofWord ending (ending ++ rest) = (t, rest) := by
  rw [Token.ofWord, wordEnd_eq_ok_iff.mpr rfl]

/-- The token of a scalar is a word only if the whole word was there. -/
theorem eq_append_of_ofWord (hScalar : (t.ofWord ending cs).1.scalar? = some v) :
    t.scalar? = some v ∧ cs = ending ++ (t.ofWord ending cs).2 := by
  cases hEnd : wordEnd ending cs with
  | error e =>
    rw [Token.ofWord, hEnd] at hScalar
    cases hScalar
  | ok rest =>
    have hWord : t.ofWord ending cs = (t, rest) := by rw [Token.ofWord, hEnd]
    rw [hWord] at hScalar ⊢
    exact ⟨hScalar, wordEnd_eq_ok_iff.mp hEnd⟩

theorem ofChar_eq_ofNumeral (hFirst : c = '-' ∨ c.isDigit = true) (cs : List Char) :
    Token.ofChar c cs = Token.ofNumeral (c :: cs) := by
  rcases hFirst with rfl | hDigit
  · rfl
  · have hNe : ∀ x, x.isDigit = false → c ≠ x := fun x => Text.ne_of_isDigit hDigit
    simp only [Token.ofChar, beq_iff_eq, hNe '[' rfl, hNe ']' rfl, hNe '\x7b' rfl, hNe '\x7d' rfl,
      hNe ',' rfl, hNe ':' rfl, hNe 'n' rfl, hNe 't' rfl, hNe 'f' rfl, hNe '"' rfl, if_false,
      hDigit, Bool.or_true, if_true]

theorem isSpace_of_isNumeralFirst (hFirst : c = '-' ∨ c.isDigit = true) : isSpace c = false := by
  rcases hFirst with rfl | hDigit
  · rfl
  · have hNe : ∀ x, x.isDigit = false → (c == x) = false :=
      fun x hOther => beq_false_of_ne (Text.ne_of_isDigit hDigit hOther)
    rw [isSpace, hNe ' ' rfl, hNe '\t' rfl, hNe '\n' rfl, hNe '\r' rfl]
    rfl

/-- The token of a scalar that is written in front of a text. -/
theorem ofChar_append (hText : ScalarAs v text) (hRest : Ends rest) :
    ∃ c behind t, text = c :: behind ∧ isSpace c = false ∧ t.scalar? = some v ∧
      Token.ofChar c (behind ++ rest) = (t, rest) := by
  cases hText with
  | null => exact ⟨'n', "ull".toList, .null, rfl, rfl, rfl, ofWord_append .null "ull".toList rest⟩
  | bool b =>
    cases b with
    | true => exact ⟨'t', "rue".toList, .bool true, rfl, rfl, rfl,
        ofWord_append (.bool true) "rue".toList rest⟩
    | false => exact ⟨'f', "alse".toList, .bool false, rfl, rfl, rfl,
        ofWord_append (.bool false) "alse".toList rest⟩
  | string hString =>
    obtain ⟨body, hSpelled, rfl⟩ := hString
    refine ⟨'"', body ++ ['"'], .string _, rfl, rfl, rfl, ?_⟩
    have hQuoted : Token.ofChar '"' (body ++ '"' :: rest) = (.string
        (StringText.scan (body ++ '"' :: rest)).1, (StringText.scan (body ++ '"' :: rest)).2) := rfl
    rw [List.append_assoc, List.singleton_append, hQuoted, scan_append hSpelled]
  | number hNumber =>
    obtain ⟨c, behind, rfl, hFirst⟩ := hNumber.exists_first
    refine ⟨c, behind, .number (.ok _), rfl, isSpace_of_isNumeralFirst hFirst, rfl, ?_⟩
    rw [ofChar_eq_ofNumeral hFirst, Token.ofNumeral, ← List.cons_append,
      scanNumeral_append hNumber hRest]

/-- The tokens of a text that begins with a scalar. -/
theorem all_append (hText : ScalarAs v text) (hRest : Ends rest) :
    ∃ t, t.scalar? = some v ∧ Token.all (text ++ rest) = t :: Token.all rest := by
  obtain ⟨c, behind, t, rfl, hSpace, hScalar, hFirst⟩ := ofChar_append hText hRest
  refine ⟨t, hScalar, ?_⟩
  rw [List.cons_append, Token.all_cons hSpace, hFirst]

/-- The token, if it is that of a scalar which passes its check, was written in front of what is
left of the text. -/
def IsWritten (cs : List Char) (read : Token × List Char) : Prop :=
  ∀ v depth, read.1.scalar? = some v → v.check depth = .ok () →
    ∃ text, ScalarAs v text ∧ cs = text ++ read.2

theorem isWritten_of_none (cs rest : List Char) (hNone : t.scalar? = none) :
    IsWritten cs (t, rest) := by
  intro v depth hScalar
  rw [hNone] at hScalar
  cases hScalar

theorem isWritten_ofWord {first : Char} (hWord : t.scalar? = some v)
    (hText : ScalarAs v (first :: ending)) (cs : List Char) :
    IsWritten (first :: cs) (t.ofWord ending cs) := by
  intro w depth hScalar _
  obtain ⟨hSame, hBehind⟩ := eq_append_of_ofWord hScalar
  rw [hWord, Option.some.injEq] at hSame
  rw [← hSame]
  exact ⟨first :: ending, hText, congrArg (first :: ·) hBehind⟩

theorem isWritten_scan (cs : List Char) :
    IsWritten ('"' :: cs) (.string (StringText.scan cs).1, (StringText.scan cs).2) := by
  intro v depth hScalar hCheck
  cases hScalar
  cases hContents : (StringText.scan cs).1.contents with
  | error e =>
    rw [Syntax.check, hContents] at hCheck
    cases hCheck
  | ok s =>
    obtain ⟨contents, body, -, hSpelled, hText⟩ := spelledAs_of_scan hContents
    generalize (StringText.scan cs).2 = behind at hText
    subst hText
    rw [scan_append hSpelled]
    refine ⟨_, .string ⟨body, hSpelled, rfl⟩, ?_⟩
    rw [List.cons_append, List.append_assoc, List.singleton_append]

theorem isWritten_ofNumeral (cs : List Char) : IsWritten cs (Token.ofNumeral cs) := by
  intro v depth hScalar hCheck
  cases hScan : scanNumeral cs with
  | error e =>
    rw [Token.ofNumeral, hScan] at hScalar
    cases hScalar
    cases hCheck
  | ok p =>
    obtain ⟨n, rest⟩ := p
    obtain ⟨text, hText, hEq⟩ := writtenAs_of_scanNumeral hScan
    rw [Token.ofNumeral, hScan] at hScalar ⊢
    cases hScalar
    exact ⟨text, .number hText, hEq⟩

/-- A scalar that passes its check was written in front of what is left. -/
theorem isWritten_ofChar (c : Char) (cs : List Char) :
    IsWritten (c :: cs) (Token.ofChar c cs) := by
  unfold Token.ofChar
  refine iteInduction (fun _ => isWritten_of_none _ _ rfl) fun _ => ?_
  refine iteInduction (fun _ => isWritten_of_none _ _ rfl) fun _ => ?_
  refine iteInduction (fun _ => isWritten_of_none _ _ rfl) fun _ => ?_
  refine iteInduction (fun _ => isWritten_of_none _ _ rfl) fun _ => ?_
  refine iteInduction (fun _ => isWritten_of_none _ _ rfl) fun _ => ?_
  refine iteInduction (fun _ => isWritten_of_none _ _ rfl) fun _ => ?_
  refine iteInduction (fun hFirst => ?_) fun _ => ?_
  · rw [eq_of_beq hFirst]
    exact isWritten_ofWord rfl .null cs
  refine iteInduction (fun hFirst => ?_) fun _ => ?_
  · rw [eq_of_beq hFirst]
    exact isWritten_ofWord rfl (.bool true) cs
  refine iteInduction (fun hFirst => ?_) fun _ => ?_
  · rw [eq_of_beq hFirst]
    exact isWritten_ofWord rfl (.bool false) cs
  refine iteInduction (fun hFirst => ?_) fun _ => ?_
  · rw [eq_of_beq hFirst]
    exact isWritten_scan cs
  exact iteInduction (fun _ => isWritten_ofNumeral _) fun _ => isWritten_of_none _ _ rfl

-- ---------------------------------------------------------------------------
-- Whole texts
-- ---------------------------------------------------------------------------

theorem any_eq_ok_iff {depth : Nat} {w : Syntax} :
    Reader.any depth v = .ok w ↔ v.check depth = .ok () ∧ w = v := by
  rw [Reader.any]
  cases v.check depth with
  | error e => simp only [bind, Except.bind, reduceCtorEq, false_and]
  | ok u => simp only [bind, Except.bind, Except.ok.injEq, true_and, eq_comm]

/-- A text is read if it has nothing behind its tree and the tree is read. -/
theorem ofText_eq_ok_iff {α : Type} {reader : Reader α} {a : α} {t : String} :
    ofText reader t = .ok a ↔
      ∃ tree, Syntax.ofText t.toList = (tree, []) ∧ reader depthLimit tree = .ok a := by
  rw [ofText]
  cases hTree : Syntax.ofText t.toList with
  | mk tree behind =>
    cases hRead : reader depthLimit tree with
    | error e =>
      simp only [hRead, bind, Except.bind, reduceCtorEq, Prod.mk.injEq, false_iff]
      rintro ⟨_, ⟨rfl, -⟩, hOther⟩
      rw [hRead] at hOther
      cases hOther
    | ok b =>
      cases behind with
      | nil => simp [hRead, bind, Except.bind]
      | cons t ts => simp [hRead, bind, Except.bind]

/-- Spaces do not stand behind a text that ends in none. -/
theorem eq_nil_of_getLast? (hSpaces : ∀ c ∈ cs, isSpace c = true)
    (hBack : ∀ c, (text ++ cs).getLast? = some c → isSpace c = false) : cs = [] := by
  rcases List.eq_nil_or_concat cs with hNil | ⟨front, last, hLast⟩
  · exact hNil
  · rw [List.concat_eq_append] at hLast
    subst hLast
    have hSpace := hSpaces last (List.mem_append_right front (List.mem_singleton_self last))
    have hNoSpace := hBack last (by rw [← List.append_assoc]; exact List.getLast?_concat)
    rw [hSpace] at hNoSpace
    cases hNoSpace

/-- What is written as a scalar is read as that scalar, if it passes its check. -/
theorem ofText_of_scalarAs {t : String} (hText : ScalarAs v t.toList) :
    ofText Reader.any t = (v.check depthLimit).map fun _ => v := by
  obtain ⟨token, hScalar, hTokens⟩ := all_append hText ends_nil
  rw [List.append_nil, Token.all_nil] at hTokens
  rw [ofText, Syntax.ofText, hTokens, ofTokens_of_scalar hScalar]
  cases hCheck : v.check depthLimit with
  | error e => simp only [Reader.any, hCheck, bind, Except.bind, Except.map]
  | ok u => simp only [Reader.any, hCheck, bind, Except.bind, Except.map, List.isEmpty_nil, if_true]

/-- What is read as a scalar is written as that scalar, apart from spaces at its ends. -/
theorem scalarAs_of_ofText {t : String} (hRead : ofText Reader.any t = .ok v)
    (hScalar : v.isScalar = true) (hFront : ∀ c, t.toList.head? = some c → isSpace c = false)
    (hBack : ∀ c, t.toList.getLast? = some c → isSpace c = false) : ScalarAs v t.toList := by
  obtain ⟨tree, hTree, hAny⟩ := ofText_eq_ok_iff.mp hRead
  obtain ⟨hCheck, rfl⟩ := any_eq_ok_iff.mp hAny
  -- The tree is that of one token.
  unfold Syntax.ofText at hTree
  have hTreeScalar : (Syntax.ofTokens (Token.all t.toList)).1.isScalar = true := by
    rw [hTree]
    exact hScalar
  obtain ⟨token, hToken, hTokens⟩ := exists_token_of_isScalar hTreeScalar
  rw [hTree] at hToken hTokens
  -- The token begins with the first character.
  cases hChars : t.toList with
  | nil =>
    rw [hChars, Token.all_nil] at hTokens
    cases hTokens
  | cons c cs =>
    rw [hChars] at hFront hBack hTokens
    rw [Token.all_cons (hFront c rfl), List.cons.injEq] at hTokens
    obtain ⟨hFirst, hBehind⟩ := hTokens
    rw [← hFirst] at hToken
    obtain ⟨text, hText, hEq⟩ := isWritten_ofChar c cs _ _ hToken hCheck
    -- What follows it is nothing but spaces, so it is nothing.
    have hNothing : (Token.ofChar c cs).2 = [] := by
      rw [hEq] at hBack
      exact eq_nil_of_getLast? (Token.isSpace_of_all_eq_nil hBehind) hBack
    rw [hEq, hNothing, List.append_nil]
    exact hText

end Gamebook.Json
