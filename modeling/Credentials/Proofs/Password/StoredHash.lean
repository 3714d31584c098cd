import Credentials.Password.StoredHash
import Mathlib.Tactic.SplitIfs

/-!
# The layout of stored hashes

Writing and reading a stored hash undo each other, so that no two texts hold the same hash.
-/

namespace Credentials.Password.StoredHash

open Credentials.Argon2 Credentials.Bytes

/-- The bytes in front of a list are taken from it. -/
theorem takeVector_append {n : Nat} (v : Vector UInt8 n) (rest : List UInt8) :
    takeVector n (v.toList ++ rest) = v := by
  ext i hi
  have hlength : i < v.toList.length := by rwa [Vector.length_toList]
  rw [takeVector, Vector.getElem_ofFn, List.getD_eq_getElem?_getD,
    List.getElem?_append_left hlength, List.getElem?_eq_getElem hlength, Option.getD_some,
    Vector.getElem_toList]

/-- The bytes that are taken are the first ones. -/
theorem toList_takeVector {n : Nat} {bytes : List UInt8} (h : n ≤ bytes.length) :
    (takeVector n bytes).toList = bytes.take n := by
  apply List.ext_getElem
  · rw [Vector.length_toList, List.length_take, Nat.min_eq_left h]
  · intro i hi hi'
    rw [Vector.length_toList] at hi
    have hlength : i < bytes.length := Nat.lt_of_lt_of_le hi h
    simp only [takeVector, Vector.getElem_toList, Vector.getElem_ofFn, List.getElem_take]
    rw [List.getD_eq_getElem?_getD, List.getElem?_eq_getElem hlength, Option.getD_some]

/-- A salt and an output are read where they have been written. -/
theorem ofSaltAndOutput_append (costs : Costs) (salt : Salt) (output : Output) :
    ofSaltAndOutput costs (salt.toList ++ output.toList) = ⟨costs, salt, output⟩ := by
  have hdrop : (salt.toList ++ output.toList).drop saltLength = output.toList ++ [] := by
    rw [List.drop_left' (by rw [Vector.length_toList]), List.append_nil]
  rw [ofSaltAndOutput, takeVector_append, hdrop, takeVector_append]

/-- A hash is read from the bytes that it is written as. -/
theorem decode_encode (h : StoredHash) : decode h.encode = .ok h := by
  obtain ⟨costs, salt, output⟩ := h
  cases costs with
  | legacy =>
    have hread : ofPayload .legacy (salt.toList ++ output.toList) = ⟨.legacy, salt, output⟩ :=
      ofSaltAndOutput_append .legacy salt output
    simp [encode, Costs.header, Costs.version, Version.tag, decode, Version.ofTag?,
      Version.payloadLength, hread]
  | written p =>
    have hread : ofPayload .current (paramsBytes p ++ (salt.toList ++ output.toList)) =
        ⟨.written p, salt, output⟩ := by
      simp only [paramsBytes, be32, List.cons_append, List.nil_append, ofPayload, ofBE32_be32]
      exact ofSaltAndOutput_append (.written p) salt output
    have hlength : (paramsBytes p).length = Version.costsLength := by
      simp [paramsBytes, Version.costsLength]
    simp [encode, Costs.header, Costs.version, Version.tag, decode, Version.ofTag?,
      Version.payloadLength, hread, hlength, Nat.add_assoc]

/-- Bytes with a salt and an output are written as they have been read. -/
theorem append_ofSaltAndOutput (costs : Costs) {bytes : List UInt8}
    (h : bytes.length = saltLength + outputLength) :
    (ofSaltAndOutput costs bytes).salt.toList ++ (ofSaltAndOutput costs bytes).output.toList =
      bytes := by
  have hdrop : (bytes.drop saltLength).length = outputLength := by
    rw [List.length_drop, h, Nat.add_sub_cancel_left]
  rw [ofSaltAndOutput, toList_takeVector (by omega), toList_takeVector (by omega),
    List.take_of_length_le (Nat.le_of_eq hdrop), List.take_append_drop]

/-- Bytes that are long enough begin with the bytes of a word. -/
theorem exists_be32_append {bytes : List UInt8} (h : 4 ≤ bytes.length) :
    ∃ a b c d rest, bytes = a :: b :: c :: d :: rest := by
  obtain ⟨a, bytes, rfl⟩ := List.exists_cons_of_length_pos (by omega : 0 < bytes.length)
  rw [List.length_cons] at h
  obtain ⟨b, bytes, rfl⟩ := List.exists_cons_of_length_pos (by omega : 0 < bytes.length)
  rw [List.length_cons] at h
  obtain ⟨c, bytes, rfl⟩ := List.exists_cons_of_length_pos (by omega : 0 < bytes.length)
  rw [List.length_cons] at h
  obtain ⟨d, bytes, rfl⟩ := List.exists_cons_of_length_pos (by omega : 0 < bytes.length)
  exact ⟨a, b, c, d, bytes, rfl⟩

/-- What follows the tag is written as it has been read. -/
theorem encode_ofPayload {v : Version} {payload : List UInt8}
    (h : payload.length = v.payloadLength) : (ofPayload v payload).encode = v.tag :: payload := by
  cases v with
  | legacy =>
    have hread : ofPayload .legacy payload = ofSaltAndOutput .legacy payload := by
      cases payload <;> rfl
    rw [hread, encode, List.append_assoc, append_ofSaltAndOutput .legacy h]
    rfl
  | current =>
    rw [Version.payloadLength, Version.costsLength] at h
    obtain ⟨a, b, c, d, payload, rfl⟩ := exists_be32_append (by omega : 4 ≤ payload.length)
    simp only [List.length_cons] at h
    obtain ⟨e, f, g, i, payload, rfl⟩ := exists_be32_append (by omega : 4 ≤ payload.length)
    simp only [List.length_cons] at h
    obtain ⟨j, k, l, m, payload, rfl⟩ := exists_be32_append (by omega : 4 ≤ payload.length)
    simp only [List.length_cons] at h
    rw [ofPayload, encode, List.append_assoc, append_ofSaltAndOutput _ (by omega)]
    simp [ofSaltAndOutput, Costs.header, Costs.version, paramsBytes, be32_ofBE32]

/-- Exactly the bytes that a hash is written as hold it. -/
theorem decode_eq_ok_iff {bytes : List UInt8} {h : StoredHash} :
    decode bytes = .ok h ↔ bytes = h.encode := by
  constructor
  · intro hread
    cases bytes with
    | nil => simp [decode] at hread
    | cons tag payload =>
      rw [decode] at hread
      cases hversion : Version.ofTag? tag with
      | none => simp [hversion] at hread
      | some v =>
        have htag : tag = v.tag := by
          rw [Version.ofTag?] at hversion
          split_ifs at hversion with hlegacy hcurrent
          · obtain rfl := Option.some_inj.mp hversion
            exact hlegacy
          · obtain rfl := Option.some_inj.mp hversion
            exact hcurrent
        simp only [hversion] at hread
        split_ifs at hread with hlength
        obtain rfl := Except.ok.inj hread
        rw [encode_ofPayload hlength, htag]
  · rintro rfl
    exact decode_encode h

end Credentials.Password.StoredHash
