import Credentials.EntityId
import Credentials.Proofs.Bytes.Utf8
import Mathlib.Data.List.SplitLengths

/-!
# The order of ids

Ids are ordered as their numbers, and so are the bytes and the canonical texts of ids, as both write
a number with a fixed count of digits, the highest ones first. The millisecond of an id is in its
highest bits and grows with it.
-/

namespace Credentials

/-! ## Lists of one length -/

section

variable {α : Type} [LT α]

/-- Of two lists with one length, the first stays first whatever is put behind them. -/
theorem append_lt_append {xs ys : List α} (hlength : xs.length = ys.length) (h : xs < ys)
    (zs ws : List α) : xs ++ zs < ys ++ ws := by
  induction xs generalizing ys with
  | nil =>
    obtain rfl := List.length_eq_zero_iff.mp hlength.symm
    simp at h
  | cons x xs ih =>
    cases ys with
    | nil => simp at hlength
    | cons y ys =>
      rw [List.cons_append, List.cons_append, List.cons_lt_cons_iff]
      rcases List.cons_lt_cons_iff.mp h with hlt | ⟨rfl, hlt⟩
      · exact .inl hlt
      · exact .inr ⟨rfl, ih (by simpa using hlength) hlt⟩

/-- Of two lists, the order is seen in their first items or, if these are the same, in the others. -/
theorem take_lt_take_or (n : Nat) {xs ys : List α} (hlength : xs.length = ys.length)
    (h : xs < ys) : xs.take n < ys.take n ∨ xs.take n = ys.take n ∧ xs.drop n < ys.drop n := by
  induction n generalizing xs ys with
  | zero => exact .inr ⟨rfl, h⟩
  | succ n ih =>
    cases xs with
    | nil =>
      obtain rfl := List.length_eq_zero_iff.mp hlength.symm
      simp at h
    | cons x xs =>
      cases ys with
      | nil => simp at hlength
      | cons y ys =>
        simp only [List.take_succ_cons, List.drop_succ_cons, List.cons_lt_cons_iff]
        rcases List.cons_lt_cons_iff.mp h with hlt | ⟨rfl, hlt⟩
        · exact .inl (.inl hlt)
        · rcases ih (by simpa using hlength) hlt with htake | ⟨htake, hdrop⟩
          · exact .inl (.inr ⟨rfl, htake⟩)
          · exact .inr ⟨by rw [htake], hdrop⟩

/-- Separators at fixed places do not change the order. -/
theorem flatMap_splitLengths_lt (sep : α) {lengths : List Nat} {xs ys : List α}
    (hlength : xs.length = ys.length) (hsum : xs.length ≤ lengths.sum) (h : xs < ys) :
    (lengths.splitLengths xs).flatMap (sep :: ·) < (lengths.splitLengths ys).flatMap (sep :: ·) := by
  induction lengths generalizing xs ys with
  | nil =>
    obtain rfl : xs = [] := List.length_eq_zero_iff.mp (by simpa using hsum)
    obtain rfl := List.length_eq_zero_iff.mp hlength.symm
    simp at h
  | cons n lengths ih =>
    simp only [List.splitLengths_cons, List.flatMap_cons, List.cons_append]
    refine List.cons_lt_cons_iff.mpr (.inr ⟨rfl, ?_⟩)
    rcases take_lt_take_or n hlength h with htake | ⟨htake, hdrop⟩
    · exact append_lt_append (by simp [hlength]) htake _ _
    · rw [htake]
      rw [List.sum_cons] at hsum
      refine List.append_left_lt (ih (by simp [hlength]) ?_ hdrop)
      rw [List.length_drop]
      omega

end

/-! ## Numbers with a fixed count of digits -/

namespace Text

/-- The lowest `n` digits of a number, each of them written as a digit is. -/
def fixedDigits {α : Type} (base : Nat) (digit : Nat → α) : (n : Nat) → Nat → List α
  | 0, _ => []
  | n + 1, value => fixedDigits base digit n (value / base) ++ [digit value]

section

variable {α : Type} {base : Nat} {digit : Nat → α}

/-- There are as many digits as are asked for. -/
@[simp] theorem length_fixedDigits (n value : Nat) :
    (fixedDigits base digit n value).length = n := by
  induction n generalizing value with
  | zero => rfl
  | succ n ih => simp [fixedDigits, ih]

/-- A larger number has a larger quotient, or the same one and a larger rest. -/
theorem div_lt_div_or (base : Nat) {v w : Nat} (h : v < w) :
    v / base < w / base ∨ v / base = w / base ∧ v % base < w % base := by
  have hv := Nat.div_add_mod v base
  have hw := Nat.div_add_mod w base
  rcases Nat.lt_or_eq_of_le (Nat.div_le_div_right (c := base) (Nat.le_of_lt h)) with hlt | heq
  · exact .inl hlt
  · rw [heq] at hv
    exact .inr ⟨heq, by omega⟩

/-- Fixed counts of digits are in the order of the numbers if single digits are. -/
theorem fixedDigits_lt [LT α] (hdigit : ∀ v w, v % base < w % base → digit v < digit w) {n : Nat}
    {v w : Nat} (hw : w < base ^ n) (h : v < w) :
    fixedDigits base digit n v < fixedDigits base digit n w := by
  induction n generalizing v w with
  | zero =>
    rw [Nat.pow_zero] at hw
    omega
  | succ n ih =>
    rw [fixedDigits, fixedDigits]
    rcases div_lt_div_or base h with hquotient | ⟨hquotient, hrest⟩
    · have hfits : w / base < base ^ n :=
        Nat.div_lt_of_lt_mul (by rwa [Nat.pow_succ, Nat.mul_comm] at hw)
      exact append_lt_append (by simp) (ih hfits hquotient) _ _
    · rw [hquotient]
      exact List.append_left_lt (List.cons_lt_cons_iff.mpr (.inl (hdigit v w hrest)))

end

/-- Hexadecimal digits are digits in base sixteen. -/
theorem hexDigits_eq_fixedDigits (n value : Nat) :
    hexDigits n value = fixedDigits 16 hexChar n value := by
  induction n generalizing value with
  | zero => rfl
  | succ n ih => rw [hexDigits, fixedDigits, ih]

/-- There are as many hexadecimal digits as are asked for. -/
@[simp] theorem length_hexDigits (n value : Nat) : (hexDigits n value).length = n := by
  rw [hexDigits_eq_fixedDigits, length_fixedDigits]

/-- Hexadecimal digits are in the order of their values. -/
theorem hexChar_lt {v w : Nat} (h : v % 16 < w % 16) : hexChar v < hexChar w := by
  have hall : ∀ d < 16, ∀ e < 16, d < e → Nat.digitChar d < Nat.digitChar e := by decide
  exact hall _ (Nat.mod_lt _ (by decide)) _ (Nat.mod_lt _ (by decide)) h

end Text

/-! ## Ids -/

namespace EntityId

open Text

/-- The sixteen bytes of an id, the highest ones first. -/
def bytes (id : EntityId) : List UInt8 := fixedDigits 256 UInt8.ofNat 16 id.toNat

/-- The bytes of ids are in the order of the ids. -/
theorem bytes_lt {a b : EntityId} (h : a < b) : a.bytes < b.bytes := by
  refine fixedDigits_lt (fun v w hlt => ?_) b.lt h
  rw [UInt8.lt_iff_toNat_lt, UInt8.toNat_ofNat', UInt8.toNat_ofNat']
  exact hlt

/-- The groups of some digits have fixed lengths. -/
theorem groups_eq_splitLengths (digits : List Char) :
    groups digits = groupLengths.splitLengths digits := by
  simp [groups, groupLengths]

/-- Groups with a hyphen before each are the text with a hyphen before it. -/
theorem cons_text (id : EntityId) : '-' :: id.text =
    (groupLengths.splitLengths (hexDigits 32 id.toNat)).flatMap ('-' :: ·) := by
  rw [text, groups_eq_splitLengths]
  simp [groupLengths, List.intercalate]

/-- The texts of ids are in the order of the ids. -/
theorem text_lt {a b : EntityId} (h : a < b) : a.text < b.text := by
  have hdigits : hexDigits 32 a.toNat < hexDigits 32 b.toNat := by
    rw [hexDigits_eq_fixedDigits, hexDigits_eq_fixedDigits]
    exact fixedDigits_lt (fun _ _ => hexChar_lt) b.lt h
  have hlength : (hexDigits 32 a.toNat).length = (hexDigits 32 b.toNat).length := by simp
  have hsum : (hexDigits 32 a.toNat).length ≤ groupLengths.sum := by simp [groupLengths]
  have hgrouped := flatMap_splitLengths_lt '-' hlength hsum hdigits
  rw [← cons_text, ← cons_text] at hgrouped
  simpa using hgrouped

/-- What grows with ids and is itself in order tells the order of ids. -/
theorem lt_iff_of_forall_lt {f : EntityId → List UInt8} (hf : ∀ {a b}, a < b → f a < f b)
    {a b : EntityId} : a < b ↔ f a < f b := by
  refine ⟨hf, fun h => ?_⟩
  rcases Nat.lt_trichotomy a.toNat b.toNat with hlt | heq | hlt
  · exact hlt
  · obtain ⟨n, hn⟩ := a
    obtain ⟨m, hm⟩ := b
    obtain rfl : n = m := heq
    exact absurd h (List.lt_irrefl _)
  · exact absurd h (List.lt_asymm (hf hlt))

/-- The millisecond of an id fits 48 bits. -/
theorem timestampMs_lt (id : EntityId) : id.timestampMs < 2 ^ 48 := by
  have hlt := id.lt
  rw [timestampMs, Nat.shiftRight_eq_div_pow]
  rw [Nat.one_shiftLeft] at hlt
  omega

/-- Of two ids, the larger one has not been made in an earlier millisecond. -/
theorem timestampMs_le {a b : EntityId} (h : a ≤ b) : a.timestampMs ≤ b.timestampMs := by
  rw [timestampMs, timestampMs, Nat.shiftRight_eq_div_pow, Nat.shiftRight_eq_div_pow]
  exact Nat.div_le_div_right h

end EntityId

end Credentials
