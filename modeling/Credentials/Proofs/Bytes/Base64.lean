import Credentials.Bytes.Base64
import Credentials.Proofs.Text.Mark
import Mathlib.Data.Option.Basic

/-!
# Base64 is canonical

Writing bytes and reading them back are inverse to each other in both directions: every byte string
has exactly one text, and a text is read only if it is the one that would be written.
-/

namespace Credentials.Bytes.Base64.Alphabet

/-- An alphabet whose two own characters stand for the last two digits. -/
structure Lawful (a : Alphabet) : Prop where
  digit62 : a.digit? a.char62 = some 62
  digit63 : a.digit? a.char63 = some 63

/-- The alphabet for use in URLs is lawful. -/
theorem lawful_urlSafe : urlSafe.Lawful := ⟨by decide, by decide⟩

/-- The standard alphabet is lawful. -/
theorem lawful_standard : standard.Lawful := ⟨by decide, by decide⟩

variable {a : Alphabet}

/-- The first sixty-two characters do not depend on the alphabet. -/
theorem digit?_char_of_lt_62 : ∀ digit < 62, a.digit? (a.char digit) = some digit := by
  have hupper : ∀ d < 26, 'A' ≤ Char.ofNat (65 + d) ∧ Char.ofNat (65 + d) ≤ 'Z' ∧
      (Char.ofNat (65 + d)).toNat = 65 + d := by decide
  have hlower : ∀ d < 26, ¬ Char.ofNat (97 + d) ≤ 'Z' ∧ 'a' ≤ Char.ofNat (97 + d) ∧
      Char.ofNat (97 + d) ≤ 'z' ∧ (Char.ofNat (97 + d)).toNat = 97 + d := by decide
  have hdecimal : ∀ d < 10, ¬ 'A' ≤ Char.ofNat (48 + d) ∧ ¬ 'a' ≤ Char.ofNat (48 + d) ∧
      '0' ≤ Char.ofNat (48 + d) ∧ Char.ofNat (48 + d) ≤ '9' ∧
      (Char.ofNat (48 + d)).toNat = 48 + d := by decide
  intro digit hdigit
  by_cases h26 : digit < 26
  · obtain ⟨h1, h2, h3⟩ := hupper digit h26
    simp [char, digit?, h26, h1, h2, h3]
  · by_cases h52 : digit < 52
    · obtain ⟨h1, h2, h3, h4⟩ := hlower (digit - 26) (by omega)
      simp [char, digit?, h26, h52, h1, h2, h3, h4]
      omega
    · obtain ⟨h1, h2, h3, h4, h5⟩ := hdecimal (digit - 52) (by omega)
      simp [char, digit?, h26, h52, hdigit, h1, h2, h3, h4, h5]
      omega

/-- Every digit is read back from its character. -/
theorem Lawful.digit?_char (ha : a.Lawful) {digit : Nat} (hdigit : digit < 64) :
    a.digit? (a.char digit) = some digit := by
  by_cases h62 : digit < 62
  · exact digit?_char_of_lt_62 digit h62
  · by_cases heq : digit = 62
    · subst heq
      exact ha.digit62
    · have : digit = 63 := by omega
      subst this
      exact ha.digit63

/-- A character that stands for a digit is the one that is written for it. -/
theorem char_of_digit? {c : Char} {digit : Nat} (h : a.digit? c = some digit) :
    digit < 64 ∧ a.char digit = c := by
  unfold digit? at h
  split at h
  case isTrue hc =>
    have hlow : 65 ≤ c.toNat := hc.1
    have hhigh : c.toNat ≤ 90 := hc.2
    obtain rfl := Option.some.inj h
    have hsum : 65 + (c.toNat - 65) = c.toNat := by omega
    refine ⟨by change c.toNat - 65 < 64; omega, ?_⟩
    simp [char, show c.toNat - 65 < 26 by omega, hsum]
  split at h
  case isTrue hc =>
    have hlow : 97 ≤ c.toNat := hc.1
    have hhigh : c.toNat ≤ 122 := hc.2
    obtain rfl := Option.some.inj h
    have hsum : 97 + (c.toNat - 97) = c.toNat := by omega
    refine ⟨by change c.toNat - 97 + 26 < 64; omega, ?_⟩
    simp only [char, if_neg (show ¬ c.toNat - 97 + 26 < 26 by omega),
      if_pos (show c.toNat - 97 + 26 < 52 by omega), Nat.add_sub_cancel,
      Char.reduceToNat, hsum, Char.ofNat_toNat]
  split at h
  case isTrue hc =>
    have hlow : 48 ≤ c.toNat := hc.1
    have hhigh : c.toNat ≤ 57 := hc.2
    obtain rfl := Option.some.inj h
    have hsum : 48 + (c.toNat - 48) = c.toNat := by omega
    refine ⟨by change c.toNat - 48 + 52 < 64; omega, ?_⟩
    simp only [char, if_neg (show ¬ c.toNat - 48 + 52 < 26 by omega),
      if_neg (show ¬ c.toNat - 48 + 52 < 52 by omega),
      if_pos (show c.toNat - 48 + 52 < 62 by omega), Nat.add_sub_cancel,
      Char.reduceToNat, hsum, Char.ofNat_toNat]
  split at h
  case isTrue hc =>
    obtain rfl := Option.some.inj h
    exact ⟨by decide, hc.symm⟩
  split at h
  case isTrue hc =>
    obtain rfl := Option.some.inj h
    exact ⟨by decide, hc.symm⟩
  case isFalse => simp at h

/-- Characters of a written text stand for digits. -/
theorem Lawful.digit?_isSome_of_mem_encode (ha : a.Lawful) {bytes : List UInt8} {c : Char}
    (hc : c ∈ a.encode bytes) : (a.digit? c).isSome := by
  have hchar : ∀ digit < 64, (a.digit? (a.char digit)).isSome := fun digit hdigit => by
    rw [ha.digit?_char hdigit]
    rfl
  induction bytes using encode.induct with
  | case1 => simp [encode] at hc
  | case2 x =>
    have hx := x.toNat_lt
    simp only [encode, List.mem_cons, List.not_mem_nil, or_false] at hc
    rcases hc with rfl | rfl <;> exact hchar _ (by omega)
  | case3 x y =>
    have hx := x.toNat_lt
    have hy := y.toNat_lt
    simp only [encode, List.mem_cons, List.not_mem_nil, or_false] at hc
    rcases hc with rfl | rfl | rfl <;> exact hchar _ (by omega)
  | case4 x y z rest ih =>
    have hx := x.toNat_lt
    have hy := y.toNat_lt
    have hz := z.toNat_lt
    simp only [encode, List.mem_cons] at hc
    rcases hc with rfl | rfl | rfl | rfl | hc
    · exact hchar _ (by omega)
    · exact hchar _ (by omega)
    · exact hchar _ (by omega)
    · exact hchar _ (by omega)
    · exact ih hc

/-- A number names a byte if it is that of the byte. -/
theorem ofNat_eq {n : Nat} {x : UInt8} (h : n = x.toNat) : UInt8.ofNat n = x := by
  rw [h, UInt8.ofNat_toNat]

/-- Reading a written text gives the bytes back. -/
theorem Lawful.decode?_encode (ha : a.Lawful) (bytes : List UInt8) :
    a.decode? (a.encode bytes) = some bytes := by
  induction bytes using encode.induct with
  | case1 => rfl
  | case2 x =>
    have hx := x.toNat_lt
    have hp := ha.digit?_char (show x.toNat / 4 < 64 by omega)
    have hq := ha.digit?_char (show x.toNat % 4 * 16 < 64 by omega)
    have hpad : x.toNat % 4 * 16 % 16 = 0 := by omega
    simp only [encode, decode?, hp, hq, Option.bind_eq_bind, Option.bind_some, guard, hpad, if_true,
      Option.pure_def]
    rw [ofNat_eq (x := x) (by omega)]
  | case3 x y =>
    have hx := x.toNat_lt
    have hy := y.toNat_lt
    have hp := ha.digit?_char (show x.toNat / 4 < 64 by omega)
    have hq := ha.digit?_char (show x.toNat % 4 * 16 + y.toNat / 16 < 64 by omega)
    have hr := ha.digit?_char (show y.toNat % 16 * 4 < 64 by omega)
    have hpad : y.toNat % 16 * 4 % 4 = 0 := by omega
    simp only [encode, decode?, hp, hq, hr, Option.bind_eq_bind, Option.bind_some, guard, hpad,
      if_true, Option.pure_def]
    rw [ofNat_eq (x := x) (by omega), ofNat_eq (x := y) (by omega)]
  | case4 x y z rest ih =>
    have hx := x.toNat_lt
    have hy := y.toNat_lt
    have hz := z.toNat_lt
    have hp := ha.digit?_char (show x.toNat / 4 < 64 by omega)
    have hq := ha.digit?_char (show x.toNat % 4 * 16 + y.toNat / 16 < 64 by omega)
    have hr := ha.digit?_char (show y.toNat % 16 * 4 + z.toNat / 64 < 64 by omega)
    have hs := ha.digit?_char (show z.toNat % 64 < 64 by omega)
    simp only [encode, decode?, hp, hq, hr, hs, ih, Option.bind_eq_bind, Option.bind_some,
      Option.pure_def]
    rw [ofNat_eq (x := x) (by omega), ofNat_eq (x := y) (by omega), ofNat_eq (x := z) (by omega)]

/-- A text that is read is the one that is written for its bytes. -/
theorem encode_of_decode? {text : List Char} {bytes : List UInt8}
    (h : a.decode? text = some bytes) : a.encode bytes = text := by
  induction text using decode?.induct generalizing bytes with
  | case1 =>
    obtain rfl := Option.some.inj h
    rfl
  | case2 => simp [decode?] at h
  | case3 p q =>
    simp only [decode?, Option.bind_eq_bind, Option.bind_eq_some_iff, Option.guard_eq_some',
      Option.pure_def, Option.some.injEq] at h
    obtain ⟨m, hm, n, hn, _, hpad, rfl⟩ := h
    obtain ⟨hm64, rfl⟩ := char_of_digit? hm
    obtain ⟨hn64, rfl⟩ := char_of_digit? hn
    have hx : (UInt8.ofNat (m * 4 + n / 16)).toNat = m * 4 + n / 16 := by
      rw [UInt8.toNat_ofNat']
      omega
    rw [encode, hx, show (m * 4 + n / 16) / 4 = m by omega,
      show (m * 4 + n / 16) % 4 * 16 = n by omega]
  | case4 p q r =>
    simp only [decode?, Option.bind_eq_bind, Option.bind_eq_some_iff, Option.guard_eq_some',
      Option.pure_def, Option.some.injEq] at h
    obtain ⟨m, hm, n, hn, k, hk, _, hpad, rfl⟩ := h
    obtain ⟨hm64, rfl⟩ := char_of_digit? hm
    obtain ⟨hn64, rfl⟩ := char_of_digit? hn
    obtain ⟨hk64, rfl⟩ := char_of_digit? hk
    have hx : (UInt8.ofNat (m * 4 + n / 16)).toNat = m * 4 + n / 16 := by
      rw [UInt8.toNat_ofNat']
      omega
    have hy : (UInt8.ofNat (n % 16 * 16 + k / 4)).toNat = n % 16 * 16 + k / 4 := by
      rw [UInt8.toNat_ofNat']
      omega
    rw [encode, hx, hy, show (m * 4 + n / 16) / 4 = m by omega,
      show (m * 4 + n / 16) % 4 * 16 + (n % 16 * 16 + k / 4) / 16 = n by omega,
      show (n % 16 * 16 + k / 4) % 16 * 4 = k by omega]
  | case5 p q r s rest ih =>
    simp only [decode?, Option.bind_eq_bind, Option.bind_eq_some_iff, Option.pure_def,
      Option.some.injEq] at h
    obtain ⟨m, hm, n, hn, k, hk, l, hl, bytes, hrest, rfl⟩ := h
    obtain ⟨hm64, rfl⟩ := char_of_digit? hm
    obtain ⟨hn64, rfl⟩ := char_of_digit? hn
    obtain ⟨hk64, rfl⟩ := char_of_digit? hk
    obtain ⟨hl64, rfl⟩ := char_of_digit? hl
    have hx : (UInt8.ofNat (m * 4 + n / 16)).toNat = m * 4 + n / 16 := by
      rw [UInt8.toNat_ofNat']
      omega
    have hy : (UInt8.ofNat (n % 16 * 16 + k / 4)).toNat = n % 16 * 16 + k / 4 := by
      rw [UInt8.toNat_ofNat']
      omega
    have hz : (UInt8.ofNat (k % 4 * 64 + l)).toNat = k % 4 * 64 + l := by
      rw [UInt8.toNat_ofNat']
      omega
    rw [encode, hx, hy, hz, ih hrest, show (m * 4 + n / 16) / 4 = m by omega,
      show (m * 4 + n / 16) % 4 * 16 + (n % 16 * 16 + k / 4) / 16 = n by omega,
      show (n % 16 * 16 + k / 4) % 16 * 4 + (k % 4 * 64 + l) / 64 = k by omega,
      show (k % 4 * 64 + l) % 64 = l by omega]

/-- Base64 is canonical: a text is read as some bytes exactly if it is what they are written as. -/
theorem Lawful.decode?_eq_some_iff (ha : a.Lawful) {text : List Char} {bytes : List UInt8} :
    a.decode? text = some bytes ↔ text = a.encode bytes := by
  constructor
  · intro h
    exact (encode_of_decode? h).symm
  · rintro rfl
    exact ha.decode?_encode bytes

/-- A text without padding has four characters for three bytes, and the last ones fill it up. -/
theorem length_encode (a : Alphabet) (bytes : List UInt8) :
    (a.encode bytes).length = (4 * bytes.length + 2) / 3 := by
  induction bytes using encode.induct with
  | case1 => rfl
  | case2 x => simp [encode]
  | case3 x y => simp [encode]
  | case4 x y z rest ih =>
    simp only [encode, List.length_cons, ih]
    omega

/-- A letter, a digit, a hyphen or an underscore. -/
def IsUrlSafe (c : Char) : Prop := c.isAlphanum ∨ c = '-' ∨ c = '_'

instance (c : Char) : Decidable (IsUrlSafe c) := inferInstanceAs (Decidable (_ ∨ _))

/-- A text in the alphabet of URLs is made of its characters only. -/
theorem isUrlSafe_of_mem_encode {bytes : List UInt8} {c : Char} (hc : c ∈ urlSafe.encode bytes) :
    IsUrlSafe c := by
  have hchars : ∀ digit < 64, IsUrlSafe (urlSafe.char digit) := by decide
  obtain ⟨digit, hdigit⟩ :=
    Option.isSome_iff_exists.mp (lawful_urlSafe.digit?_isSome_of_mem_encode hc)
  obtain ⟨hlt, rfl⟩ := char_of_digit? hdigit
  exact hchars digit hlt

/-! ## Padding -/

/-- Padding is no digit. -/
theorem Lawful.equals_notMem_encode (ha : a.Lawful) (hpad : a.digit? '=' = none)
    (bytes : List UInt8) : '=' ∉ a.encode bytes := by
  intro hmem
  have hdigit := ha.digit?_isSome_of_mem_encode hmem
  simp [hpad] at hdigit

/-- What stands before the padding is the text of the bytes. -/
theorem Lawful.takeWhile_encodePadded (ha : a.Lawful) (hpad : a.digit? '=' = none)
    (bytes : List UInt8) : (a.encodePadded bytes).takeWhile (· != '=') = a.encode bytes := by
  have hnot := ha.equals_notMem_encode hpad bytes
  rw [encodePadded]
  cases padding (a.encode bytes).length with
  | zero => rw [List.replicate_zero, List.append_nil, Text.takeWhile_bne_of_notMem hnot]
  | succ n => rw [List.replicate_succ, Text.takeWhile_bne_append hnot]

/-- Base64 with padding is canonical, too. -/
theorem Lawful.decodePadded?_eq_some_iff (ha : a.Lawful) (hpad : a.digit? '=' = none)
    {text : List Char} {bytes : List UInt8} :
    a.decodePadded? text = some bytes ↔ text = a.encodePadded bytes := by
  constructor
  · intro h
    simp only [decodePadded?] at h
    split at h
    · rename_i htext
      have hbody := ha.decode?_eq_some_iff.mp h
      rwa [hbody] at htext
    · cases h
  · rintro rfl
    simp only [decodePadded?, ha.takeWhile_encodePadded hpad, ha.decode?_encode]
    exact if_pos rfl

/-- A written text consists of the characters of digits and of padding. -/
theorem Lawful.cases_of_mem_encodePadded (ha : a.Lawful) {bytes : List UInt8} {c : Char}
    (hc : c ∈ a.encodePadded bytes) : (∃ digit < 64, c = a.char digit) ∨ c = '=' := by
  rcases List.mem_append.mp hc with hmem | hmem
  · obtain ⟨digit, hdigit⟩ := Option.isSome_iff_exists.mp (ha.digit?_isSome_of_mem_encode hmem)
    obtain ⟨hlt, hchar⟩ := char_of_digit? hdigit
    exact Or.inl ⟨digit, hlt, hchar.symm⟩
  · exact Or.inr (List.eq_of_mem_replicate hmem)

end Credentials.Bytes.Base64.Alphabet
