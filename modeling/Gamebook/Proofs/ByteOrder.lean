import Gamebook.Json.Basic

/-!
# Gamebook — the order of texts is the order of their bytes

Texts are compared by their characters, one after the other. The first byte of a
character in UTF-8 tells how many follow, and more bytes mean a higher code; so
the first characters that differ decide in the bytes as well.

* `Text.bytes` — the bytes of a text in UTF-8.
* `bytes_lt_iff` — texts are ordered as their bytes are.
-/

namespace Gamebook.Text

variable {c d : Char} {cs ds : List Char}

/-- The bytes of a text in UTF-8. -/
def bytes (s : String) : List UInt8 := s.toByteArray.data.toList

theorem bytes_eq_flatMap (s : String) : bytes s = s.toList.flatMap String.utf8EncodeChar := by
  have hBytes : s.toByteArray = s.toList.utf8Encode := by
    rw [← String.toByteArray_ofList, String.ofList_toList]
  rw [bytes, hBytes, List.utf8Encode, List.toList_data_toByteArray]

-- ---------------------------------------------------------------------------
-- Characters
-- ---------------------------------------------------------------------------

/-- The first byte decides, and if it is the same, the bytes behind it. -/
theorem cons_ofNat_lt_iff {m n : Nat} (hm : m < 256) (hn : n < 256) (xs ys : List UInt8) :
    UInt8.ofNat m :: xs < UInt8.ofNat n :: ys ↔ m < n ∨ m = n ∧ xs < ys := by
  rw [List.cons_lt_cons_iff, UInt8.lt_iff_toNat_lt, ← UInt8.toNat_inj,
    UInt8.toNat_ofNat_of_lt' hm, UInt8.toNat_ofNat_of_lt' hn]

/-- The bytes of two different characters decide, whatever follows. -/
theorem encode_append_lt (hLess : c < d) (xs ys : List UInt8) :
    String.utf8EncodeChar c ++ xs < String.utf8EncodeChar d ++ ys := by
  have hCode : c.val.toNat < d.val.toNat := hLess
  have hEnd : d.val.toNat < 0x110000 := by
    have hValid := d.valid
    simp only [UInt32.isValidChar, Nat.isValidChar] at hValid
    omega
  unfold String.utf8EncodeChar
  generalize c.val.toNat = m at hCode
  generalize d.val.toNat = n at hCode hEnd
  have hLead : m / 262144 / 8 = 0 ∧ n / 262144 / 8 = 0 := by omega
  have hMiddle : m / 4096 / 64 = m / 262144 ∧ n / 4096 / 64 = n / 262144 := by omega
  have hLast : m / 64 / 64 = m / 4096 ∧ n / 64 / 64 = n / 4096 := by omega
  simp only
  -- Each of the two takes one to four bytes, which are a mark and digits to the base 64.
  repeat' split
  all_goals
    simp (disch := omega) only [List.cons_append, List.nil_append, cons_ofNat_lt_iff]
    omega

theorem encode_ne_nil (c : Char) : String.utf8EncodeChar c ≠ [] := by
  unfold String.utf8EncodeChar
  simp only
  repeat' split
  all_goals exact List.cons_ne_nil _ _

-- ---------------------------------------------------------------------------
-- Texts
-- ---------------------------------------------------------------------------

theorem encode_lt (hLess : cs < ds) :
    cs.flatMap String.utf8EncodeChar < ds.flatMap String.utf8EncodeChar := by
  induction hLess with
  | @nil d ds =>
    rw [List.flatMap_nil, List.flatMap_cons]
    obtain ⟨b, bs, hBytes⟩ := List.exists_cons_of_ne_nil (encode_ne_nil d)
    rw [hBytes]
    exact List.nil_lt_cons _ _
  | rel hLess =>
    rw [List.flatMap_cons, List.flatMap_cons]
    exact encode_append_lt hLess _ _
  | cons _ ih =>
    rw [List.flatMap_cons, List.flatMap_cons]
    exact List.append_left_lt ih

/-- **Texts are ordered as their bytes are.** -/
theorem bytes_lt_iff {a b : String} : bytes a < bytes b ↔ a < b := by
  have hForward : ∀ {a b : String}, a < b → bytes a < bytes b := by
    intro a b hLess
    rw [bytes_eq_flatMap, bytes_eq_flatMap]
    exact encode_lt hLess
  refine ⟨fun hBytes => ?_, hForward⟩
  -- One of the texts comes first, and then its bytes do.
  rcases Std.lt_trichotomy a b with hLess | rfl | hGreater
  · exact hLess
  · exact absurd hBytes (List.lt_irrefl _)
  · exact absurd (hForward hGreater) (List.lt_asymm hBytes)

end Gamebook.Text
