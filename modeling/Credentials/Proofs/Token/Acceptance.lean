import Credentials.Proofs.Config
import Credentials.Proofs.Token.Compact
import Credentials.Proofs.Token.Header
import Credentials.Proofs.Token.Payload

/-!
# Which texts are accepted

A text is accepted exactly if it is a token with an acceptable header and payload, each written in
the only way there is, and with the signature of both under the key of the configuration.
-/

namespace Credentials

open Credentials.Json Credentials.Token

namespace TokenIssuer

variable {i : TokenIssuer}

/-- A part is read if it is written for bytes that are JSON. -/
theorem readPart_eq_ok_iff {part : List Char} {v : Value} :
    readPart part = .ok v ↔ ∃ bytes, part = encodePart bytes ∧ IsJson bytes v := by
  unfold readPart
  cases hbytes : decodePart? part with
  | none =>
    have hnot (bytes : List UInt8) : part ≠ encodePart bytes := fun h => by
      rw [decodePart?_eq_some_iff.mpr h] at hbytes
      cases hbytes
    simp [hnot]
  | some bytes =>
    obtain rfl := decodePart?_eq_some_iff.mp hbytes
    have hsame (other : List UInt8) : encodePart bytes = encodePart other ↔ other = bytes := by
      rw [← decodePart?_eq_some_iff, decodePart?_encodePart, Option.some_inj, eq_comm]
    simp only [hsame, exists_eq_left, ← parseBytes?_eq_some_iff]
    cases parseBytes? bytes <;> simp

/-- A header counts if it is one of tokens that are signed as the issuer does. -/
theorem checkHeader_eq_ok_iff {header : List Char} : i.checkHeader header = .ok () ↔
    ∃ bytes members, header = encodePart bytes ∧ IsJson bytes (.object members) ∧
      IsHeader i.algorithm members := by
  rw [checkHeader, bind_eq_ok_iff]
  simp only [readPart_eq_ok_iff]
  constructor
  · rintro ⟨v, ⟨bytes, hheader, hjson⟩, hname⟩
    cases halgorithm : Header.algorithm? v with
    | none => simp [halgorithm] at hname
    | some name =>
      simp only [halgorithm] at hname
      split_ifs at hname with heq
      rw [heq] at halgorithm
      obtain ⟨members, rfl, hmembers⟩ := Header.algorithm?_eq_some_iff.mp halgorithm
      exact ⟨bytes, members, hheader, hjson, hmembers⟩
  · rintro ⟨bytes, members, hheader, hjson, hmembers⟩
    have halgorithm := Header.algorithm?_eq_some_iff.mpr ⟨members, rfl, hmembers⟩
    exact ⟨_, ⟨bytes, hheader, hjson⟩, by simp [halgorithm]⟩

/-- A signature counts if it is the one that the issuer would write. -/
theorem checkSignature_eq_ok_iff {token : Compact} : i.checkSignature token = .ok () ↔
    token.signature = encodePart (i.algorithm.sign i.key (Bytes.utf8 token.message)) := by
  rw [← decodePart?_eq_some_iff, checkSignature]
  cases decodePart? token.signature with
  | none => simp
  | some signature =>
    by_cases h : signature = i.algorithm.sign i.key (Bytes.utf8 token.message) <;> simp [h]

/-- A payload is read if it is written for an object. -/
theorem readPayload_eq_ok_iff {payload : List Char} {members : List (String × Value)} :
    readPayload payload = .ok members ↔
      ∃ bytes, payload = encodePart bytes ∧ IsJson bytes (.object members) := by
  rw [readPayload, bind_eq_ok_iff, ← readPart_eq_ok_iff]
  constructor
  · rintro ⟨v, hv, hmembers⟩
    cases v with
    | object others =>
      cases hmembers
      exact hv
    | _ => cases hmembers
  · intro h
    exact ⟨_, h, rfl⟩

/-- A token is decoded if it has three parts and each of them counts. -/
theorem decode_eq_ok_iff {now : UInt64} {token : List Char} {members : List (String × Value)} :
    i.decode now token = .ok members ↔ ∃ parts, Compact.parse? token = some parts ∧
      i.checkHeader parts.header = .ok () ∧ i.checkSignature parts = .ok () ∧
      readPayload parts.payload = .ok members ∧ Registered.check members i.name now = .ok () := by
  unfold decode
  cases Compact.parse? token with
  | none => simp
  | some parts =>
    simp only [bind_eq_ok_iff, pure, Except.pure, Except.ok.injEq, Option.some_inj, exists_eq_left']
    constructor
    · rintro ⟨_, hheader, _, hsignature, others, hpayload, _, hcheck, rfl⟩
      exact ⟨hheader, hsignature, hpayload, hcheck⟩
    · rintro ⟨hheader, hsignature, hpayload, hcheck⟩
      exact ⟨(), hheader, (), hsignature, members, hpayload, (), hcheck, rfl⟩

/-- A token is accepted if it is decoded and its payload is that of an access token. -/
theorem validate_eq_ok_iff_decode {now : UInt64} {token : String} {a : AccessToken} :
    i.validate now token = .ok a ↔
      ∃ members, i.decode now token.toList = .ok members ∧ accessTokenOf? members = some a := by
  unfold validate
  cases i.decode now token.toList with
  | error e => simp
  | ok members =>
    cases h : accessTokenOf? members <;> simp [h]

end TokenIssuer

namespace Config

/-- The text of a token whose header and payload hold given bytes, signed under a configuration. -/
def tokenText (c : Config) (header payload : List UInt8) : List Char :=
  let message := encodePart header ++ '.' :: encodePart payload
  message ++ '.' :: encodePart (c.algorithm.sign c.key (Bytes.utf8 message))

/-- A token has two dots. -/
theorem count_dot_tokenText (c : Config) (header payload : List UInt8) :
    (c.tokenText header payload).count '.' = 2 := by
  simp [tokenText]

/--
What it is for a text to be an access token under a configuration at some second, and what it says.
The text has three parts, each in base64 in the only way there is. The header and the payload are
strict JSON, and the signature is that of both as they are written.
-/
def IsAccessToken (c : Config) (now : UInt64) (text : String) (a : AccessToken) : Prop :=
  ∃ (header payload : List UInt8) (headerMembers payloadMembers : List (String × Value)),
    text.toList = c.tokenText header payload ∧ text.toList.count '.' = 2 ∧
      IsJson header (.object headerMembers) ∧ IsHeader c.algorithm headerMembers ∧
      IsJson payload (.object payloadMembers) ∧ IsPayload c.issuer now payloadMembers a

/-- Exactly the access tokens of a configuration are accepted, as what they say. -/
theorem validate_eq_ok_iff (c : Config) (now : UInt64) (text : String) (a : AccessToken) :
    c.tokens.validate now text = .ok a ↔ c.IsAccessToken now text a := by
  simp only [TokenIssuer.validate_eq_ok_iff_decode, TokenIssuer.decode_eq_ok_iff,
    Compact.parse?_eq_some_iff, TokenIssuer.checkHeader_eq_ok_iff,
    TokenIssuer.checkSignature_eq_ok_iff, TokenIssuer.readPayload_eq_ok_iff]
  constructor
  · rintro ⟨payloadMembers, ⟨⟨_, _, signature⟩, ⟨htext, _, _⟩, ⟨header, headerMembers, rfl, hheader,
      hnames⟩, hsignature, ⟨payload, rfl, hpayload⟩, hcheck⟩, htoken⟩
    have htext : text.toList = c.tokenText header payload := by
      rw [htext, Compact.text, hsignature]
      rfl
    have hsays := isPayload_of_check (fun _ _ hm => hpayload.isWord hm) hcheck htoken
    have hdots : text.toList.count '.' = 2 :=
      (congrArg (List.count '.') htext).trans (count_dot_tokenText c header payload)
    exact ⟨header, payload, headerMembers, payloadMembers, htext, hdots, hheader, hnames, hpayload,
      hsays⟩
  · rintro ⟨header, payload, headerMembers, payloadMembers, htext, _, hheader, hnames, hpayload,
      hsays⟩
    exact ⟨payloadMembers, ⟨⟨encodePart header, encodePart payload, _⟩,
      ⟨htext, dot_notMem_encodePart payload, dot_notMem_encodePart _⟩,
      ⟨header, headerMembers, rfl, hheader, hnames⟩, rfl, ⟨payload, rfl, hpayload⟩, hsays.check⟩,
      hsays.accessTokenOf?⟩

end Config

end Credentials
