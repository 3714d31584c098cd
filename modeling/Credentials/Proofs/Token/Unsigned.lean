import Credentials.Proofs.Token.Acceptance

/-!
# Tokens without the right signature

A header and a payload have one signature, which is written in one way. The answer to a token with
any other signature comes from the header and the signature alone: no part of the payload is looked
at, nor is the clock.
-/

namespace Credentials

open Credentials.Token

/-! ## The length of signatures -/

namespace Digest

/-- The bytes of a 32-bit state. -/
theorem Sha2.length_hash32 (start : Sha2.State UInt32) (message : List UInt8) :
    (Sha2.words32.hash start message).length = 32 := by
  simp [Sha2.Words.hash, Sha2.State.toList, Sha2.words32]

/-- The bytes of a 64-bit state. -/
theorem Sha2.length_hash64 (start : Sha2.State UInt64) (message : List UInt8) :
    (Sha2.words64.hash start message).length = 64 := by
  simp [Sha2.Words.hash, Sha2.State.toList, Sha2.words64, Bytes.be64, Bytes.le64]

end Digest

/-- Signatures of one kind have one length. -/
theorem Token.Algorithm.length_sign (a : Algorithm) (key message : List UInt8) :
    (a.sign key message).length = match a with
      | .hs256 => 32
      | .hs384 => 48
      | .hs512 => 64 := by
  cases a with
  | hs256 => exact Digest.Sha2.length_hash32 _ _
  | hs384 => exact (List.length_take_of_le (by rw [Digest.Sha2.length_hash64]; decide))
  | hs512 => exact Digest.Sha2.length_hash64 _ _

namespace TokenIssuer

variable {i : TokenIssuer} {header payload signature : List Char}

/-- A text of three parts of which the last one counts as the signature of the others. -/
def PassesSignature (i : TokenIssuer) (text : List Char) : Prop :=
  ∃ parts, Compact.parse? text = some parts ∧ i.checkSignature parts = .ok ()

/-- The signature of a header and a payload as it is written. -/
def signatureText (i : TokenIssuer) (header payload : List Char) : List Char :=
  encodePart (i.algorithm.sign i.key (Bytes.utf8 (header ++ '.' :: payload)))

/-- A text of three parts is split into them, whatever the first one is. -/
theorem parse?_text_parts (hpayload : '.' ∉ payload) (hsignature : '.' ∉ signature) :
    Compact.parse? (Compact.text ⟨header, payload, signature⟩) =
      some ⟨header, payload, signature⟩ :=
  Compact.parse?_eq_some_iff.mpr ⟨rfl, hpayload, hsignature⟩

/-- Only the signature itself passes. -/
theorem passesSignature_iff (hpayload : '.' ∉ payload) (hsignature : '.' ∉ signature) :
    i.PassesSignature (Compact.text ⟨header, payload, signature⟩) ↔
      signature = i.signatureText header payload := by
  rw [PassesSignature, parse?_text_parts hpayload hsignature]
  simp only [Option.some_inj, exists_eq_left', checkSignature_eq_ok_iff]
  rfl

/-! ## The answer to other signatures -/

/-- The errors that a token without the right signature can be answered with. -/
def unsignedErrors : List DecodingError := [.base64, .json, .invalidAlgorithm, .invalidSignature]

/-- The answer to a token without the right signature. -/
def refusal (i : TokenIssuer) (header signature : List Char) : DecodingError :=
  match i.checkHeader header with
  | .error e => e
  | .ok () => if (decodePart? signature).isSome then .invalidSignature else .base64

/-- A part is refused if it is not in base64 or not JSON. -/
theorem readPart_eq_error {part : List Char} {e : DecodingError}
    (h : readPart part = .error e) : e = .base64 ∨ e = .json := by
  rw [readPart] at h
  split at h
  · exact .inl (Except.error.inj h).symm
  · split at h
    · exact .inr (Except.error.inj h).symm
    · cases h

/-- A header is refused if it cannot be read or names another algorithm. -/
theorem mem_of_checkHeader_eq_error {e : DecodingError} (h : i.checkHeader header = .error e) :
    e ∈ unsignedErrors := by
  rw [checkHeader] at h
  cases hread : readPart header with
  | error e' =>
    rw [hread] at h
    obtain rfl : e' = e := Except.error.inj h
    rcases readPart_eq_error hread with rfl | rfl <;> decide
  | ok v =>
    rw [hread] at h
    simp only [bind, Except.bind] at h
    split at h
    · obtain rfl := Except.error.inj h
      decide
    · split_ifs at h
      obtain rfl := Except.error.inj h
      decide

/-- A signature that is not the right one is told from a text that is none. -/
theorem checkSignature_of_ne (h : signature ≠ i.signatureText header payload) :
    i.checkSignature ⟨header, payload, signature⟩ =
      .error (if (decodePart? signature).isSome then .invalidSignature else .base64) := by
  rw [checkSignature]
  cases hbytes : decodePart? signature with
  | none => rfl
  | some bytes =>
    have hother : bytes ≠ i.algorithm.sign i.key (Bytes.utf8 (header ++ '.' :: payload)) := by
      rintro rfl
      exact h (decodePart?_eq_some_iff.mp hbytes)
    exact if_neg hother

/-- What is refused is refused for what stands in its header and its signature. -/
theorem validate_of_ne_signature (hpayload : '.' ∉ payload) (hsignature : '.' ∉ signature)
    (h : signature ≠ i.signatureText header payload) (now : UInt64) :
    i.validate now (.ofList (Compact.text ⟨header, payload, signature⟩)) =
      .error (.decoding (i.refusal header signature)) := by
  have hdecode : i.decode now (Compact.text ⟨header, payload, signature⟩) =
      .error (i.refusal header signature) := by
    -- Both checks come before the payload is read, so it does not occur in the answer.
    rw [decode, parse?_text_parts hpayload hsignature, refusal]
    cases hheader : i.checkHeader header with
    | error e => simp [bind, Except.bind, hheader]
    | ok _ => simp [bind, Except.bind, hheader, checkSignature_of_ne h]
  rw [validate, String.toList_ofList, hdecode]

/-- The answer is one of four. -/
theorem refusal_mem (i : TokenIssuer) (header signature : List Char) :
    i.refusal header signature ∈ unsignedErrors := by
  rw [refusal]
  split
  · rename_i hheader
    exact mem_of_checkHeader_eq_error hheader
  · split_ifs <;> decide

end TokenIssuer

namespace Config

/--
One text is the signature of a header and a payload, and no other one passes. Every token with
another signature is refused with one of four errors, which the header and the signature decide: it
is the same error for all payloads with a different signature and at all seconds.
-/
theorem validate_unsigned (c : Config) (header signature : List Char)
    (hsignature : '.' ∉ signature) :
    (∀ payload, '.' ∉ payload →
      (c.tokens.PassesSignature (Compact.text ⟨header, payload, signature⟩) ↔
        signature = c.tokens.signatureText header payload)) ∧
    ∃ e ∈ [DecodingError.base64, .json, .invalidAlgorithm, .invalidSignature],
      ∀ payload now, '.' ∉ payload → signature ≠ c.tokens.signatureText header payload →
        c.tokens.validate now (.ofList (Compact.text ⟨header, payload, signature⟩)) =
          .error (.decoding e) := by
  refine ⟨fun payload hpayload => TokenIssuer.passesSignature_iff hpayload hsignature,
    c.tokens.refusal header signature, c.tokens.refusal_mem header signature, ?_⟩
  intro payload now hpayload hother
  exact TokenIssuer.validate_of_ne_signature hpayload hsignature hother now

/-- Three zero bytes are no signature: an empty payload and a payload that is an object get the same
answer at any two seconds. -/
theorem validate_unsigned_zeros : ∃ c e, Settings.build { key := .replicate 32 0 } = .ok c ∧
    c.tokens.validate 0 "eyJhbGciOiJIUzI1NiJ9..AAAA" = .error (.decoding e) ∧
    c.tokens.validate 1700000000 "eyJhbGciOiJIUzI1NiJ9.e30.AAAA" = .error (.decoding e) := by
  obtain ⟨c, hc, _⟩ := Settings.exists_build_zeroKey
  obtain ⟨_, e, _, hanswer⟩ :=
    c.validate_unsigned "eyJhbGciOiJIUzI1NiJ9".toList "AAAA".toList (by decide)
  have hother (payload : List Char) :
      "AAAA".toList ≠ c.tokens.signatureText "eyJhbGciOiJIUzI1NiJ9".toList payload := by
    intro heq
    -- No algorithm has signatures of three bytes, so none has to be computed here.
    have hbytes := decodePart?_eq_some_iff.mpr heq
    have hzeros : decodePart? "AAAA".toList = some [0, 0, 0] := by decide
    rw [hzeros, Option.some_inj] at hbytes
    have hlength := congrArg List.length hbytes
    rw [Algorithm.length_sign] at hlength
    cases halgorithm : c.tokens.algorithm <;> simp [halgorithm] at hlength
  exact ⟨c, e, hc, hanswer [] 0 (by decide) (hother []),
    hanswer "e30".toList 1700000000 (by decide) (hother "e30".toList)⟩

end Config

end Credentials
