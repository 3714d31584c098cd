import Credentials.Proofs.Token.Issuing

/-!
# How long a token is valid

A token that is accepted once is accepted, as the same, at every second up to its expiry, and has
expired at every later one. The expiry that is enforced comes from the members as they are written,
the one that is returned from the members by name; they are the same.
-/

namespace Credentials

open Credentials.Json Credentials.Token

namespace Token

variable {issuer : String} {now : UInt64} {members : List (String × Value)} {a : AccessToken}

/-- The payload of an access token is that of the same token at every second up to its expiry. -/
theorem IsPayload.of_le (h : IsPayload issuer now members a) {t : UInt64}
    (ht : t ≤ a.expiresAt) : IsPayload issuer t members a :=
  { h with unexpired := ht }

/-- A registered claim that is returned is the one that is looked at: it occurs only once. -/
theorem IsPayload.lookup_exp (h : IsPayload issuer now members a) :
    members.lookup "exp" = some (.ofWord a.expiresAt) ∧
      (Object.ofMembers members).get? "exp" = some (.ofWord a.expiresAt) := by
  have honce : countName "exp" members ≤ 1 := h.once "exp" (by decide)
  have hlookup := (lookup_eq_some_iff honce).mpr h.exp
  refine ⟨hlookup, ?_⟩
  rw [Object.get?_ofMembers, lookup_reverse honce]
  exact hlookup

/-- The payload of an access token has expired at every second after its expiry. -/
theorem IsPayload.check_of_lt (h : IsPayload issuer now members a) {t : UInt64}
    (ht : a.expiresAt < t) :
    Registered.check members issuer t = .error .expiredSignature := by
  obtain ⟨hreadable, _, issuers, hissuers, _⟩ := Registered.check_eq_ok_iff.mp h.check
  have hexpiry : (members.lookup "exp").bind Registered.expiry? = some a.expiresAt.toNat := by
    rw [h.lookup_exp.1, Option.bind_some, Registered.expiry?_ofWord]
  -- The expiry is looked at before the issuer, and after whether the members are readable.
  rw [Registered.check, hreadable, hexpiry, hissuers]
  exact if_pos (UInt64.lt_iff_toNat_lt.mp ht)

end Token

namespace TokenIssuer

variable {i : TokenIssuer} {now : UInt64} {token : String} {members : List (String × Value)}

/-- What comes of a token that the issuer has signed is decided by its members and the second. -/
theorem Carries.validate_eq (h : i.Carries token members) (now : UInt64) :
    i.validate now token =
      match Registered.check members i.name now with
      | .error e => .error (.decoding e)
      | .ok () => match accessTokenOf? members with
        | none => .error .wrongTokenType
        | some a => .ok a := by
  obtain ⟨parts, hparts, hheader, hsignature, hpayload⟩ := h
  rw [validate, decode, hparts]
  simp only [hheader, hsignature, hpayload, bind, Except.bind]
  cases Registered.check members i.name now <;> rfl

/-- A token that is accepted is signed by the issuer and carries the payload of an access token. -/
theorem exists_carries_of_validate {a : AccessToken} (h : i.validate now token = .ok a) :
    ∃ members, i.Carries token members ∧ IsPayload i.name now members a := by
  obtain ⟨members, hdecode, htoken⟩ := validate_eq_ok_iff_decode.mp h
  obtain ⟨parts, hparts, hheader, hsignature, hpayload, hcheck⟩ := decode_eq_ok_iff.mp hdecode
  obtain ⟨bytes, _, hjson⟩ := readPayload_eq_ok_iff.mp hpayload
  exact ⟨members, ⟨parts, hparts, hheader, hsignature, hpayload⟩,
    isPayload_of_check (fun _ _ hm => hjson.isWord hm) hcheck htoken⟩

/-- Tokens with the payload of an access token are accepted. -/
theorem Carries.validate_eq_ok {a : AccessToken} (h : i.Carries token members)
    (hpayload : IsPayload i.name now members a) : i.validate now token = .ok a := by
  rw [h.validate_eq, hpayload.check, hpayload.accessTokenOf?]

/-- The token that a holder of the key makes of a payload, whatever the text of the payload is. -/
def signText (i : TokenIssuer) (payload : List Char) : String :=
  .ofList (Compact.text (signed i.algorithm i.key (Header.value i.algorithm).compact payload))

/-- A payload that is the text of an object is carried by the token that is made of it. -/
theorem carries_signText {payload : List Char} (h : parse? payload = some (.object members)) :
    i.Carries (i.signText payload) members := by
  let parts := signed i.algorithm i.key (Header.value i.algorithm).compact payload
  have hparts : Compact.parse? (i.signText payload).toList = some parts := by
    rw [Compact.parse?_eq_some_iff, signText, String.toList_ofList]
    exact ⟨rfl, dot_notMem_encodePart _, dot_notMem_encodePart _⟩
  have hheader : i.checkHeader parts.header = .ok () :=
    (@checkHeader_issuedParts i i [] 0 0).trans (if_neg (by simp))
  have hbytes : parseBytes? (Bytes.utf8 payload) = some (.object members) := by
    rw [parseBytes?, Bytes.ofUtf8?_utf8]
    exact h
  exact ⟨parts, hparts, hheader, checkSignature_eq_ok_iff.mpr rfl,
    readPayload_eq_ok_iff.mpr ⟨_, rfl, parseBytes?_eq_some_iff.mp hbytes⟩⟩

end TokenIssuer

/-! ## The window -/

namespace Config

/--
A payload that an issuer would not write itself: with an escape in a name, a name given twice, and
numbers, truth values, nulls and arrays within arrays.
-/
def variedPayload : List Char :=
  ("\x7b\"iss\":\"warden\",\"iat\":7,\"\\u0065xp\":300,\"typ\":\x7b\"access\":null\x7d," ++
    "\"sub\":false,\"nbf\":[],\"role\":\"user\",\"EmailVerification\":[true,[\"True\"]]," ++
    "\"role\":[18446744073709551615,-0,null,\"\\u0061\"]\x7d").toList

/-- The members of the varied payload in the order in which they are written. -/
def variedMembers : List (String × Value) := [("iss", .string "warden"), ("iat", Value.ofWord 7),
  ("exp", Value.ofWord 300), ("typ", .object [("access", .null)]),
  ("sub", .bool false), ("nbf", .array []), ("role", .string "user"),
  ("EmailVerification", .array [.bool true, .array [.string "True"]]),
  ("role", .array [Value.ofWord 18446744073709551615, .number (.real ⟨true, .zero⟩), .null,
    .string "a"])]

/-- The varied payload spells its members. -/
theorem parse?_variedPayload : parse? variedPayload = some (.object variedMembers) := by
  decide +kernel

/-- A token with the varied payload is accepted by a configuration with its key and issuer. -/
theorem exists_validate_variedPayload : ∃ c, Settings.build { key := .replicate 32 0 } = .ok c ∧
    c.tokens.validate 7 (c.tokens.signText variedPayload) = .ok ⟨"warden", 7, 300,
      [⟨"EmailVerification", "true"⟩, ⟨"role", "18446744073709551615"⟩, ⟨"role", "-0.0"⟩,
        ⟨"role", "a"⟩, ⟨"sub", "false"⟩]⟩ := by
  obtain ⟨c, hc, hissuer, _⟩ := Settings.exists_build_zeroKey
  have hname : c.tokens.name = "warden" := hissuer
  have hcheck : Registered.check variedMembers "warden" 7 = .ok () := by decide +kernel
  have hsays : TokenIssuer.accessTokenOf? variedMembers = some ⟨"warden", 7, 300,
      [⟨"EmailVerification", "true"⟩, ⟨"role", "18446744073709551615"⟩, ⟨"role", "-0.0"⟩,
        ⟨"role", "a"⟩, ⟨"sub", "false"⟩]⟩ := by
    decide +kernel
  refine ⟨c, hc, ?_⟩
  rw [(TokenIssuer.carries_signText parse?_variedPayload).validate_eq, hname, hcheck, hsays]

/--
A token that is accepted at some second is accepted as the same at every second up to the expiry
that it is accepted with, and is answered to have expired at every second after it. This expiry is
the one that is enforced.
-/
theorem validate_window (c : Config) {now : UInt64} {token : String} {a : AccessToken}
    (h : c.tokens.validate now token = .ok a) :
    (∀ t ≤ a.expiresAt, c.tokens.validate t token = .ok a) ∧
      (∀ t > a.expiresAt, c.tokens.validate t token = .error (.decoding .expiredSignature)) ∧
      ∃ members, c.tokens.Carries token members ∧
        (members.lookup "exp").bind Registered.expiry? = some a.expiresAt.toNat ∧
        ((Object.ofMembers members).get? "exp").bind Value.word? = some a.expiresAt := by
  obtain ⟨members, hcarries, hpayload⟩ := TokenIssuer.exists_carries_of_validate h
  refine ⟨fun t ht => hcarries.validate_eq_ok (hpayload.of_le ht), fun t ht => ?_,
    members, hcarries, ?_, ?_⟩
  · rw [hcarries.validate_eq, hpayload.check_of_lt ht]
  · rw [hpayload.lookup_exp.1, Option.bind_some, Registered.expiry?_ofWord]
  · rw [hpayload.lookup_exp.2, Option.bind_some, Value.word?_ofWord]

/-- A token with an escape in the name of its expiry is valid up to its last second. -/
theorem validate_window_escape : ∃ c a, Settings.build { key := .replicate 32 0 } = .ok c ∧
    c.tokens.validate 7 (c.tokens.signText variedPayload) = .ok a ∧ a.expiresAt = 300 ∧
    c.tokens.validate 300 (c.tokens.signText variedPayload) = .ok a ∧
    c.tokens.validate 301 (c.tokens.signText variedPayload) =
      .error (.decoding .expiredSignature) := by
  obtain ⟨c, hc, haccepted⟩ := exists_validate_variedPayload
  obtain ⟨hbefore, hafter, _⟩ := validate_window c haccepted
  exact ⟨c, _, hc, haccepted, rfl, hbefore 300 (by decide), hafter 301 (by decide)⟩

end Config

end Credentials
