import Credentials.Bytes.Utf8
import Mathlib.Data.List.Lex
import Mathlib.Tactic.NormNum

/-!
# UTF-8 keeps texts apart and in order

Bytes are the form of at most one text, and of two texts the one that comes first by its code points
also comes first by its bytes.
-/

namespace Credentials.Bytes

/-- Bytes are read as a text exactly if they are its form. -/
theorem ofUtf8?_eq_some_iff {bytes : List UInt8} {text : List Char} :
    ofUtf8? bytes = some text ↔ bytes = utf8 text := by
  constructor
  · intro h
    obtain ⟨s, hs, rfl⟩ := Option.map_eq_some_iff.mp h
    unfold String.fromUTF8? at hs
    split at hs
    case isFalse => simp at hs
    have hbytes : s.toByteArray = bytes.toByteArray := by
      obtain rfl := Option.some.inj hs
      rfl
    have hform : (utf8 s.toList).toByteArray = bytes.toByteArray := by
      rw [← hbytes]
      exact String.utf8Encode_toList
    simpa using (congrArg (·.data.toList) hform).symm
  · rintro rfl
    exact ofUtf8?_utf8 text

/-- Different texts have different bytes. -/
theorem utf8_inj {s t : List Char} : utf8 s = utf8 t ↔ s = t := by
  constructor
  · intro h
    have hread := congrArg ofUtf8? h
    rwa [ofUtf8?_utf8, ofUtf8?_utf8, Option.some_inj] at hread
  · exact congrArg utf8

/-- Bytes given by their numbers are ordered by the first ones, then by the rest. -/
theorem ofNat_cons_lt {m n : Nat} {s t : List UInt8} (hm : m < 256) (hn : n < 256)
    (h : m < n ∨ m = n ∧ s < t) : UInt8.ofNat m :: s < UInt8.ofNat n :: t := by
  refine List.cons_lt_cons_iff.mpr (h.imp (fun hlt => ?_) fun ⟨heq, hlt⟩ => ⟨by rw [heq], hlt⟩)
  rw [UInt8.lt_iff_toNat_lt, UInt8.toNat_ofNat', UInt8.toNat_ofNat', Nat.mod_eq_of_lt hm,
    Nat.mod_eq_of_lt hn]
  exact hlt

/-- The last `n` bytes of the form of a code point, which hold six bits each. -/
def continuation : (n code : Nat) → List UInt8
  | 0, _ => []
  | n + 1, code => .ofNat (code / 64 ^ n % 64 + 0x80) :: continuation n code

/-- Last bytes are ordered as the bits that they hold. -/
theorem continuation_append_lt {n v w : Nat} (h : v % 64 ^ n < w % 64 ^ n) (s t : List UInt8) :
    continuation n v ++ s < continuation n w ++ t := by
  induction n with
  | zero => simp [Nat.mod_one] at h
  | succ n ih =>
    rw [Nat.mod_pow_succ, Nat.mod_pow_succ] at h
    have hv : v % 64 ^ n < 64 ^ n := Nat.mod_lt _ (Nat.pow_pos (by decide))
    have hle : v / 64 ^ n % 64 ≤ w / 64 ^ n % 64 := by
      refine Nat.le_of_not_lt fun hgt => ?_
      have hmul : 64 ^ n * (w / 64 ^ n % 64 + 1) ≤ 64 ^ n * (v / 64 ^ n % 64) :=
        Nat.mul_le_mul_left _ (by omega)
      have hw : w % 64 ^ n < 64 ^ n := Nat.mod_lt _ (Nat.pow_pos (by decide))
      rw [Nat.mul_add, Nat.mul_one] at hmul
      omega
    refine ofNat_cons_lt (by omega) (by omega) ?_
    rcases Nat.lt_or_eq_of_le hle with hlt | heq
    · exact Or.inl (by omega)
    · rw [heq] at h
      exact Or.inr ⟨by omega, ih (by omega)⟩

/-- How many bytes follow the first one in the form of a code point. -/
def continuationLength (code : Nat) : Nat :=
  if code ≤ 0x7f then 0 else if code ≤ 0x7ff then 1 else if code ≤ 0xffff then 2 else 3

/-- The number of the first byte in the form of a code point. -/
def leadByte (code : Nat) : Nat :=
  if code ≤ 0x7f then code
  else if code ≤ 0x7ff then code / 64 + 0xc0
  else if code ≤ 0xffff then code / 4096 + 0xe0
  else code / 262144 + 0xf0

/-- A first byte is a byte. -/
theorem leadByte_lt {code : Nat} (h : code < 0x110000) : leadByte code < 256 := by
  unfold leadByte
  split_ifs <;> omega

/-- Code points end at U+10FFFF. -/
theorem codePoint_lt (c : Char) : c.val.toNat < 0x110000 := by
  have hvalid := c.valid
  simp only [UInt32.isValidChar, Nat.isValidChar] at hvalid
  omega

/-- The form of a character is its first byte and those that follow. -/
theorem utf8EncodeChar_eq (c : Char) : String.utf8EncodeChar c =
    .ofNat (leadByte c.val.toNat) :: continuation (continuationLength c.val.toNat) c.val.toNat := by
  have hc := codePoint_lt c
  simp only [String.utf8EncodeChar, leadByte, continuationLength]
  split_ifs with h1 h2 h3
  · rfl
  · rw [show c.val.toNat / 64 % 0x20 = c.val.toNat / 64 by omega]
    simp [continuation]
  · rw [show c.val.toNat / 4096 % 0x10 = c.val.toNat / 4096 by omega]
    simp [continuation]
  · rw [show c.val.toNat / 262144 % 0x08 = c.val.toNat / 262144 by omega]
    simp [continuation]

/-- The form of a character with a smaller code point comes first, whatever follows it. -/
theorem utf8EncodeChar_append_lt {c d : Char} (h : c < d) (s t : List UInt8) :
    String.utf8EncodeChar c ++ s < String.utf8EncodeChar d ++ t := by
  have hlt : c.val.toNat < d.val.toNat := h
  have hd := codePoint_lt d
  rw [utf8EncodeChar_eq, utf8EncodeChar_eq]
  generalize c.val.toNat = v at hlt
  generalize d.val.toNat = w at hlt hd
  refine ofNat_cons_lt (leadByte_lt (by omega)) (leadByte_lt hd) ?_
  have hsplit : leadByte v < leadByte w ∨ leadByte v = leadByte w ∧
      continuationLength v = continuationLength w ∧
      v % 64 ^ continuationLength w < w % 64 ^ continuationLength w := by
    unfold leadByte continuationLength
    split_ifs <;> norm_num <;> omega
  refine hsplit.imp_right fun ⟨hlead, hlength, hrest⟩ => ⟨hlead, ?_⟩
  rw [hlength]
  exact continuation_append_lt hrest s t

/-- A text that comes first by its code points comes first by its bytes. -/
theorem utf8_lt_of_lt {s t : List Char} (h : s < t) : utf8 s < utf8 t := by
  induction t generalizing s with
  | nil => simp at h
  | cons d t ih =>
    cases s with
    | nil =>
      simp only [utf8, List.flatMap_nil, List.flatMap_cons, utf8EncodeChar_eq]
      exact List.nil_lt_cons _ _
    | cons c s =>
      simp only [utf8, List.flatMap_cons]
      rcases List.cons_lt_cons_iff.mp h with hlt | ⟨rfl, hlt⟩
      · exact utf8EncodeChar_append_lt hlt _ _
      · exact List.append_left_lt (ih hlt)

/-- The order of strings is that of their bytes. -/
theorem utf8_le_utf8_iff {s t : String} : utf8 s.toList ≤ utf8 t.toList ↔ s ≤ t := by
  constructor
  · exact fun h hlt => h (utf8_lt_of_lt hlt)
  · intro h hlt
    by_cases heq : s = t
    · subst heq
      exact List.lt_irrefl _ hlt
    · have hst : s < t := Std.lt_of_le_of_ne h heq
      exact List.lt_asymm hlt (utf8_lt_of_lt (String.lt_iff.mp hst))

end Credentials.Bytes
