import Credentials.Bytes.Lenient
import Credentials.Proofs.Bytes.Utf8

/-!
# The lenient reader reads texts

Bytes that are the form of a text are read as that text, so that nothing in it is replaced.
-/

namespace Credentials.Bytes

/-- Bytes of a form that follow the first one are taken one by one, the first in a range of its own. -/
theorem takeWithin_continuation_succ {n code low high : Nat}
    (hlow : low ≤ code / 64 ^ n % 64 + 0x80) (hhigh : code / 64 ^ n % 64 + 0x80 ≤ high)
    {rest : List UInt8}
    (ih : takeWithin (.replicate n (0x80, 0xbf)) (continuation n code ++ rest) =
      continuation n code) :
    takeWithin ((low, high) :: .replicate n (0x80, 0xbf)) (continuation (n + 1) code ++ rest) =
      continuation (n + 1) code := by
  have hbyte : (UInt8.ofNat (code / 64 ^ n % 64 + 0x80)).toNat = code / 64 ^ n % 64 + 0x80 := by
    rw [UInt8.toNat_ofNat']
    omega
  rw [continuation, List.cons_append, takeWithin, hbyte, if_pos ⟨hlow, hhigh⟩, ih]

/-- The last bytes of a form lie in the range of all such bytes. -/
theorem takeWithin_continuation (n code : Nat) (rest : List UInt8) :
    takeWithin (.replicate n (0x80, 0xbf)) (continuation n code ++ rest) = continuation n code := by
  induction n with
  | zero => rfl
  | succ n ih => exact takeWithin_continuation_succ (by omega) (by omega) ih

/-- The bytes that follow the first one in the form of a character lie in the ranges for them. -/
theorem exists_followers (c : Char) (rest : List UInt8) : ∃ ranges,
    followers? (.ofNat (leadByte c.val.toNat)) = some ranges ∧
      takeWithin ranges (continuation (continuationLength c.val.toNat) c.val.toNat ++ rest) =
        continuation (continuationLength c.val.toNat) c.val.toNat := by
  have hlimit := codePoint_lt c
  -- Surrogates are the reason why the range after the byte 0xed is narrow.
  have hvalid : c.val.toNat < 0xd800 ∨ 0xdfff < c.val.toNat := by
    rcases c.valid with hlow | ⟨hhigh, _⟩
    · exact Or.inl hlow
    · exact Or.inr hhigh
  generalize c.val.toNat = code at hlimit hvalid
  have hlead : (UInt8.ofNat (leadByte code)).toNat = leadByte code := by
    rw [UInt8.toNat_ofNat']
    exact Nat.mod_eq_of_lt (leadByte_lt hlimit)
  rw [followers?, hlead]
  by_cases h1 : code ≤ 0x7f
  · have hfirst : leadByte code = code := if_pos h1
    have hlength : continuationLength code = 0 := if_pos h1
    rw [hfirst, hlength]
    exact ⟨[], if_pos (by omega), rfl⟩
  by_cases h2 : code ≤ 0x7ff
  · have hfirst : leadByte code = code / 64 + 0xc0 := by simp [leadByte, h1, h2]
    have hlength : continuationLength code = 1 := by simp [continuationLength, h1, h2]
    rw [hfirst, hlength, if_neg (by omega), if_neg (by omega), if_pos (by omega)]
    exact ⟨_, rfl, takeWithin_continuation 1 code rest⟩
  by_cases h3 : code ≤ 0xffff
  · have hfirst : leadByte code = code / 4096 + 0xe0 := by simp [leadByte, h1, h2, h3]
    have hlength : continuationLength code = 2 := by simp [continuationLength, h1, h2, h3]
    rw [hfirst, hlength, if_neg (by omega), if_neg (by omega), if_neg (by omega),
      if_pos (by omega)]
    refine ⟨_, rfl, takeWithin_continuation_succ ?_ ?_ (takeWithin_continuation 1 code rest)⟩
    · split <;> omega
    · split <;> omega
  · have hfirst : leadByte code = code / 262144 + 0xf0 := by simp [leadByte, h1, h2, h3]
    have hlength : continuationLength code = 3 := by simp [continuationLength, h1, h2, h3]
    rw [hfirst, hlength, if_neg (by omega), if_neg (by omega), if_neg (by omega),
      if_neg (by omega), if_pos (by omega)]
    refine ⟨_, rfl, takeWithin_continuation_succ ?_ ?_ (takeWithin_continuation 2 code rest)⟩
    · split <;> omega
    · split <;> omega

/-- The form of a character is read as it, whatever follows. -/
theorem ofUtf8Lenient_utf8EncodeChar_append (c : Char) (rest : List UInt8) :
    ofUtf8Lenient (String.utf8EncodeChar c ++ rest) = c :: ofUtf8Lenient rest := by
  obtain ⟨ranges, hranges, htail⟩ := exists_followers c rest
  have hform : ofUtf8? (String.utf8EncodeChar c) = some [c] := by
    have hread := ofUtf8?_utf8 [c]
    simpa [utf8] using hread
  rw [utf8EncodeChar_eq] at hform ⊢
  rw [List.cons_append, ofUtf8Lenient, hranges]
  dsimp only
  rw [htail, hform, List.drop_left]
  rfl

/-- The form of a text is read as it. -/
theorem ofUtf8Lenient_utf8 (text : List Char) : ofUtf8Lenient (utf8 text) = text := by
  induction text with
  | nil => rw [utf8, List.flatMap_nil, ofUtf8Lenient]
  | cons c text ih =>
    rw [utf8, List.flatMap_cons, ofUtf8Lenient_utf8EncodeChar_append]
    exact congrArg (c :: ·) ih

end Credentials.Bytes
