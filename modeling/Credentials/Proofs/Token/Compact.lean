import Credentials.Proofs.Bytes.Base64
import Credentials.Token.Compact

/-!
# The parts of a token

Which texts have three parts, and which texts are parts. No part of a token has a dot in it.
-/

namespace Credentials.Token

open Credentials.Bytes

/-- Exactly the texts without a character cannot be split at it. -/
theorem splitLast?_eq_none_iff {mark : Char} {text : List Char} :
    splitLast? mark text = none ↔ mark ∉ text := by
  induction text with
  | nil => simp [splitLast?]
  | cons c text ih =>
    rw [splitLast?]
    cases hrest : splitLast? mark text with
    | some parts =>
      have hmem : mark ∈ text := by
        by_contra hnot
        rw [ih.mpr hnot] at hrest
        cases hrest
      simp [hmem]
    | none =>
      have hnot := ih.mp hrest
      by_cases hc : c = mark
      · simp [hc]
      · simp [hc, hnot, Ne.symm hc]

/-- A text that stands around a character is split there if the character does not occur again. -/
theorem splitLast?_append {mark : Char} {after : List Char} (before : List Char)
    (hafter : mark ∉ after) : splitLast? mark (before ++ mark :: after) = some (before, after) := by
  induction before with
  | nil => simp [splitLast?, splitLast?_eq_none_iff.mpr hafter]
  | cons c before ih => rw [List.cons_append, splitLast?, ih]

/-- A text is split where the character stands and does not occur again. -/
theorem splitLast?_eq_some_iff {mark : Char} {text before after : List Char} :
    splitLast? mark text = some (before, after) ↔
      text = before ++ mark :: after ∧ mark ∉ after := by
  constructor
  · intro h
    induction text generalizing before with
    | nil => simp [splitLast?] at h
    | cons c text ih =>
      rw [splitLast?] at h
      cases hrest : splitLast? mark text with
      | some parts =>
        rw [hrest, Option.some_inj, Prod.mk.injEq] at h
        obtain ⟨rfl, rfl⟩ := h
        obtain ⟨htext, hafter⟩ := ih hrest
        exact ⟨by rw [htext, List.cons_append], hafter⟩
      | none =>
        rw [hrest] at h
        by_cases hc : c = mark
        · simp only [if_pos hc, Option.some_inj, Prod.mk.injEq] at h
          obtain ⟨rfl, rfl⟩ := h
          exact ⟨by rw [hc, List.nil_append], splitLast?_eq_none_iff.mp hrest⟩
        · simp [hc] at h
  · rintro ⟨rfl, hafter⟩
    exact splitLast?_append before hafter

namespace Compact

/-- A text has three parts if it is made of them, the last two without dots. -/
theorem parse?_eq_some_iff {text : List Char} {c : Compact} :
    parse? text = some c ↔ text = c.text ∧ '.' ∉ c.payload ∧ '.' ∉ c.signature := by
  obtain ⟨header, payload, signature⟩ := c
  simp only [parse?, bind, pure, Option.bind_eq_some_iff, Prod.exists, splitLast?_eq_some_iff,
    Option.some_inj, Compact.mk.injEq]
  constructor
  · rintro ⟨rest, _, ⟨rfl, hsignature⟩, _, _, ⟨rfl, hpayload⟩, rfl, rfl, rfl⟩
    exact ⟨rfl, hpayload, hsignature⟩
  · rintro ⟨rfl, hpayload, hsignature⟩
    exact ⟨_, _, ⟨rfl, hsignature⟩, _, _, ⟨rfl, hpayload⟩, rfl, rfl, rfl⟩

/-- A text has three parts unless it has fewer than two dots. -/
theorem parse?_eq_none_iff {text : List Char} : parse? text = none ↔ text.count '.' < 2 := by
  cases hlast : splitLast? '.' text with
  | none =>
    have hcount := List.count_eq_zero.mpr (splitLast?_eq_none_iff.mp hlast)
    simp [parse?, hlast, hcount]
  | some parts =>
    obtain ⟨before, after⟩ := parts
    obtain ⟨rfl, hafter⟩ := splitLast?_eq_some_iff.mp hlast
    -- One dot stands before the signature; the others stand in what is left.
    have hcount : (before ++ '.' :: after).count '.' = before.count '.' + 1 := by
      rw [List.count_append, List.count_cons_self, List.count_eq_zero.mpr hafter]
    have hless : before.count '.' + 1 < 2 ↔ splitLast? '.' before = none := by
      rw [splitLast?_eq_none_iff, ← List.count_eq_zero]
      omega
    rw [hcount, hless]
    cases hrest : splitLast? '.' before <;> simp [parse?, hlast, hrest]

end Compact

/-- A text is a part exactly for the bytes that it is written for. -/
theorem decodePart?_eq_some_iff {part : List Char} {bytes : List UInt8} :
    decodePart? part = some bytes ↔ part = encodePart bytes :=
  Base64.Alphabet.lawful_urlSafe.decode?_eq_some_iff

/-- Bytes that are written as a part are read from it. -/
@[simp] theorem decodePart?_encodePart (bytes : List UInt8) :
    decodePart? (encodePart bytes) = some bytes := decodePart?_eq_some_iff.mpr rfl

/-- No part has a dot in it. -/
theorem dot_notMem_encodePart (bytes : List UInt8) : '.' ∉ encodePart bytes := by
  intro hmem
  have hdigit := Base64.Alphabet.lawful_urlSafe.digit?_isSome_of_mem_encode hmem
  have hnone : Base64.urlSafe.digit? '.' = none := by decide
  simp [hnone] at hdigit

/-- No part has a dot in it, so that it adds none to a token. -/
@[simp] theorem count_dot_encodePart (bytes : List UInt8) : (encodePart bytes).count '.' = 0 :=
  List.count_eq_zero_of_not_mem (dot_notMem_encodePart bytes)

end Credentials.Token
