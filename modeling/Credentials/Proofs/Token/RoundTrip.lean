import Credentials.Proofs.Token.Acceptance

/-!
# From issuing to accepting

What comes of validating a token that has been issued, under the same or another configuration and
at any time.
-/

namespace Credentials

open Credentials.Json Credentials.Token

/-! ## The payload of an issued token -/

namespace Token.Fixed

/-- The payload of a token with the claims of the issuer and of the caller. -/
def payload (f : Fixed) (claims : List Claim) : Object := f.object.addClaims claims

variable {f : Fixed} {claims : List Claim}

/-- The caller gives no values to a name of the issuer. -/
theorem valuesOf_reserved (hreserved : ∀ c ∈ claims, c.name ∉ reservedNames) {name : String}
    (hname : name ∈ reservedNames) : Claim.valuesOf name claims = [] :=
  Claim.valuesOf_eq_nil fun c hc heq => hreserved c hc (heq ▸ hname)

/-- What the issuer sets is there if the caller does not set it. -/
theorem get?_payload_of_reserved (hreserved : ∀ c ∈ claims, c.name ∉ reservedNames)
    {name : String} (hname : name ∈ reservedNames) :
    (f.payload claims).get? name = f.object.get? name := by
  rw [payload, Object.get?_addClaims, valuesOf_reserved hreserved hname]
  rfl

/-- Other names have the values that the caller gives. -/
theorem get?_payload_of_not_reserved {name : String} (hname : name ∉ reservedNames) :
    (f.payload claims).get? name = Object.appendValues none (Claim.valuesOf name claims) := by
  have hnone : f.object.get? name = none := by
    simp only [reservedNames, List.mem_cons, List.not_mem_nil, or_false, not_or] at hname
    obtain ⟨hiss, hiat, hexp, htyp⟩ := hname
    simp [object, hiss, hiat, hexp, htyp]
  rw [payload, Object.get?_addClaims, hnone]

/-- Without what the issuer sets, the payload holds the claims of the caller. -/
theorem eraseAll_payload (hreserved : ∀ c ∈ claims, c.name ∉ reservedNames) :
    (f.payload claims).eraseAll reservedNames.contains = Object.empty.addClaims claims := by
  apply Object.ext_get?
  intro name
  rw [Object.get?_eraseAll, Object.get?_addClaims, Object.get?_empty]
  by_cases hname : name ∈ reservedNames
  · rw [if_pos (List.contains_iff_mem.mpr hname), valuesOf_reserved hreserved hname]
    rfl
  · rw [if_neg (mt List.contains_iff_mem.mp hname), get?_payload_of_not_reserved hname]

/-- The values of a payload are words, strings and lists of strings. -/
theorem value_of_mem_payload (hreserved : ∀ c ∈ claims, c.name ∉ reservedNames)
    {m : String × Value} (hm : m ∈ (f.payload claims).members) :
    (∃ w, m.2 = .ofWord w) ∨ (∃ s, m.2 = .string s) ∨
      ∃ texts : List String, m.2 = .array (texts.map .string) := by
  have hvalue := Object.get?_eq_some_iff.mpr hm
  by_cases hname : m.1 ∈ reservedNames
  · rw [get?_payload_of_reserved hreserved hname] at hvalue
    simp only [reservedNames, List.mem_cons, List.not_mem_nil, or_false] at hname
    rcases hname with h | h | h | h
    · exact .inr (.inl ⟨f.issuer, by simpa [h, object] using hvalue.symm⟩)
    · exact .inl ⟨f.issuedAt, by simpa [h, object] using hvalue.symm⟩
    · exact .inl ⟨f.expiresAt, by simpa [h, object] using hvalue.symm⟩
    · exact .inr (.inl ⟨accessType, by simpa [h, object] using hvalue.symm⟩)
  · rw [get?_payload_of_not_reserved hname] at hvalue
    rcases Object.eq_of_appendValues hvalue with ⟨s, _, hs⟩ | ⟨_, htexts⟩
    · exact .inr (.inl ⟨s, hs⟩)
    · exact .inr (.inr ⟨_, htexts⟩)

/-- A payload has no doubles in it. -/
theorem integral_payload (hreserved : ∀ c ∈ claims, c.name ∉ reservedNames) :
    Value.Integral (.object (f.payload claims).members) := by
  refine .object fun m hm => ?_
  rcases value_of_mem_payload hreserved hm with ⟨w, hw⟩ | ⟨s, hs⟩ | ⟨texts, htexts⟩
  · rw [hw]
    exact .ofWord w
  · rw [hs]
    exact .string s
  · rw [htexts]
    refine .array fun v hv => ?_
    obtain ⟨s, _, rfl⟩ := List.mem_map.mp hv
    exact .string s

/-- A list of strings is nested once. -/
theorem depth_texts_le (texts : List String) :
    Tree.depth (.array (texts.map .string) : Value) ≤ 1 := by
  have hitems : Tree.depthItems (texts.map (Tree.string : String → Value)) ≤ 0 :=
    Tree.depthItems_le fun v hv => by
      obtain ⟨s, _, rfl⟩ := List.mem_map.mp hv
      exact Nat.le_refl 0
  rw [Tree.depth]
  omega

/-- A payload is not nested deeply. -/
theorem depth_payload_le (hreserved : ∀ c ∈ claims, c.name ∉ reservedNames) :
    Tree.depth (.object (f.payload claims).members : Value) ≤ maxDepth := by
  have hdepth : Tree.depthMembers (f.payload claims).members ≤ 1 :=
    Tree.depthMembers_le fun m hm => by
      rcases value_of_mem_payload hreserved hm with ⟨w, hw⟩ | ⟨s, hs⟩ | ⟨texts, htexts⟩
      · simp [hw, Value.ofWord, Tree.depth]
      · simp [hs, Tree.depth]
      · rw [htexts]
        exact depth_texts_le texts
  rw [Tree.depth, maxDepth]
  omega

/-- A payload is read as it is written. -/
theorem readPayload_payload (hreserved : ∀ c ∈ claims, c.name ∉ reservedNames) :
    TokenIssuer.readPayload (encodePart (Bytes.utf8
      (Value.compact (.object (f.payload claims).members)))) =
      .ok (f.payload claims).members := by
  rw [TokenIssuer.readPayload_eq_ok_iff]
  refine ⟨_, rfl, ?_⟩
  rw [← parseBytes?_eq_some_iff]
  exact parseBytes?_compact (integral_payload hreserved) (depth_payload_le hreserved)

/-! ## Both readings of an issued payload -/

/-- A name with one value has a string. -/
theorem exists_string_of_count_le {name : String} (hname : name ∉ reservedNames)
    (hcount : Claim.count name claims ≤ 1) {v : Value}
    (hm : (name, v) ∈ (f.payload claims).members) : ∃ s, v = .string s := by
  have hvalue := Object.get?_eq_some_iff.mpr hm
  rw [get?_payload_of_not_reserved hname] at hvalue
  rcases Object.eq_of_appendValues hvalue with ⟨s, _, hs⟩ | ⟨hseveral, _⟩
  · exact ⟨s, hs⟩
  · rw [Claim.count] at hcount
    omega

/-- A name with several values has an array with something in it. -/
theorem exists_array_of_lt_count {name : String} (hname : name ∉ reservedNames)
    (hcount : 1 < Claim.count name claims) :
    ∃ items, items ≠ [] ∧ (name, .array items) ∈ (f.payload claims).members := by
  simp only [← Object.get?_eq_some_iff, get?_payload_of_not_reserved hname]
  rw [Claim.count] at hcount
  cases hvalue : Object.appendValues none (Claim.valuesOf name claims) with
  | none =>
    rw [Object.appendValues_eq_none_iff.mp hvalue] at hcount
    cases hcount
  | some v =>
    rcases Object.eq_of_appendValues hvalue with ⟨s, hs, _⟩ | ⟨_, rfl⟩
    · rw [hs] at hcount
      exact absurd hcount (Nat.lt_irrefl 1)
    · refine ⟨_, ?_, rfl⟩
      rw [Ne, List.map_eq_nil_iff]
      intro hnil
      rw [hnil] at hcount
      cases hcount

/-- A payload can be looked at unless a subject or a beginning is given several times. -/
theorem areReadable_payload (hreserved : ∀ c ∈ claims, c.name ∉ reservedNames) :
    Registered.areReadable (f.payload claims).members ↔
      Claim.count "sub" claims ≤ 1 ∧ Claim.count "nbf" claims ≤ 1 := by
  have hsubname : "sub" ∉ reservedNames := by decide
  have hnbfname : "nbf" ∉ reservedNames := by decide
  rw [Registered.areReadable_iff]
  constructor
  · rintro ⟨_, htolerated⟩
    constructor
    · by_contra hcount
      obtain ⟨items, _, hm⟩ := exists_array_of_lt_count (f := f) hsubname (Nat.lt_of_not_le hcount)
      have hsub := (Registered.isTolerated_iff.mp (htolerated _ hm)).1 rfl
      exact (isComposite_eq_false_iff.mp hsub).1 items rfl
    · by_contra hcount
      obtain ⟨items, hitems, hm⟩ :=
        exists_array_of_lt_count (f := f) hnbfname (Nat.lt_of_not_le hcount)
      have hnbf := (Registered.isTolerated_iff.mp (htolerated _ hm)).2 (.inr rfl)
      exact hitems ((isFilled_eq_false_iff.mp hnbf).1 items rfl)
  · rintro ⟨hsub, hnbf⟩
    refine ⟨fun name _ => (f.payload claims).sorted.countName_le name, ?_⟩
    rintro ⟨name, v⟩ hm
    rw [Registered.isTolerated_iff]
    constructor
    · rintro rfl
      obtain ⟨s, rfl⟩ := exists_string_of_count_le hsubname hsub hm
      rfl
    · rintro (rfl | rfl)
      · have hvalue := Object.get?_eq_some_iff.mpr hm
        rw [get?_payload_of_reserved hreserved (by decide)] at hvalue
        obtain rfl : .ofWord f.expiresAt = v := by simpa [object] using hvalue
        rfl
      · obtain ⟨s, rfl⟩ := exists_string_of_count_le hnbfname hnbf hm
        rfl

/-- What comes of looking at the registered claims of an issued payload. -/
theorem check_payload (hreserved : ∀ c ∈ claims, c.name ∉ reservedNames) (issuer : String)
    (now : UInt64) : Registered.check (f.payload claims).members issuer now =
      if 1 < Claim.count "sub" claims ∨ 1 < Claim.count "nbf" claims then .error .json
      else if f.expiresAt < now then .error .expiredSignature
      else if f.issuer ≠ issuer then .error .invalidIssuer
      else .ok () := by
  have hexp : (f.payload claims).members.lookup "exp" = some (.ofWord f.expiresAt) :=
    (get?_payload_of_reserved hreserved (by decide)).trans (by simp [object])
  have hiss : (f.payload claims).members.lookup "iss" = some (.string f.issuer) :=
    (get?_payload_of_reserved hreserved (by decide)).trans (by simp [object])
  rw [Registered.check]
  by_cases hcount : Claim.count "sub" claims ≤ 1 ∧ Claim.count "nbf" claims ≤ 1
  · have hreadable := (areReadable_payload (f := f) hreserved).mpr hcount
    have hnot : ¬ (1 < Claim.count "sub" claims ∨ 1 < Claim.count "nbf" claims) := by omega
    rw [hreadable, hexp, hiss, if_neg (by decide), if_neg hnot]
    simp only [Option.bind_some, Registered.expiry?_ofWord, Registered.issuers?]
    by_cases hexpired : f.expiresAt < now
    · rw [if_pos (UInt64.lt_iff_toNat_lt.mp hexpired), if_pos hexpired]
    · rw [if_neg (mt UInt64.lt_iff_toNat_lt.mpr hexpired), if_neg hexpired]
      by_cases hissuer : f.issuer = issuer
      · simp [hissuer]
      · simp [hissuer, Ne.symm hissuer]
  · have hunreadable := mt (areReadable_payload (f := f) hreserved).mp hcount
    have hrepeated : 1 < Claim.count "sub" claims ∨ 1 < Claim.count "nbf" claims := by omega
    rw [if_pos hrepeated, if_pos (by simpa using hunreadable)]

/-- What an issued payload says. -/
theorem accessTokenOf?_payload (hreserved : ∀ c ∈ claims, c.name ∉ reservedNames) :
    TokenIssuer.accessTokenOf? (f.payload claims).members = some {
      issuer := f.issuer
      issuedAt := f.issuedAt
      expiresAt := f.expiresAt
      claims := claims.mergeSort Claim.precedes } := by
  have hfixed : ofObject? (f.payload claims) = some f := by
    have hget (name : String) (hname : name ∈ reservedNames) :
        (f.payload claims).get? name = f.object.get? name :=
      get?_payload_of_reserved hreserved hname
    rw [ofObject?_eq_some_iff, hget "iss" (by decide), hget "iat" (by decide),
      hget "exp" (by decide), hget "typ" (by decide)]
    simp [object, isAccess_iff, accessType]
  rw [TokenIssuer.accessTokenOf?, Object.ofMembers_members, hfixed, eraseAll_payload hreserved,
    Claim.ofObject_addClaims_empty]
  rfl

end Token.Fixed

/-! ## The whole token -/

namespace TokenIssuer

variable {i j : TokenIssuer} {claims : List Claim} {issuedAt expiresAt : UInt64}

/-- The three parts of an issued token. -/
def issuedParts (i : TokenIssuer) (claims : List Claim) (issuedAt expiresAt : UInt64) : Compact :=
  signed i.algorithm i.key (Header.value i.algorithm).compact
    (Value.compact (.object (Fixed.payload ⟨i.name, issuedAt, expiresAt⟩ claims).members))

/-- An issued token consists of its parts. -/
theorem toList_accessToken : (i.accessToken claims issuedAt expiresAt).toList =
    (i.issuedParts claims issuedAt expiresAt).text := String.toList_ofList

/-- The last part is the signature of the others. -/
theorem signature_issuedParts : (i.issuedParts claims issuedAt expiresAt).signature =
    encodePart (i.algorithm.sign i.key
      (Bytes.utf8 (i.issuedParts claims issuedAt expiresAt).message)) := rfl

/-- An issued token is split where its parts have been put together. -/
theorem parse?_accessToken : Compact.parse? (i.accessToken claims issuedAt expiresAt).toList =
    some (i.issuedParts claims issuedAt expiresAt) := by
  rw [Compact.parse?_eq_some_iff, toList_accessToken]
  exact ⟨rfl, dot_notMem_encodePart _, dot_notMem_encodePart _⟩

/-- What is signed has one dot in it. -/
theorem count_dot_message_issuedParts :
    (i.issuedParts claims issuedAt expiresAt).message.count '.' = 1 := by
  simp [issuedParts, signed, Compact.message]

/-- An issued header names its algorithm. -/
theorem checkHeader_issuedParts :
    j.checkHeader (i.issuedParts claims issuedAt expiresAt).header =
      if i.algorithm ≠ j.algorithm then .error .invalidAlgorithm else .ok () := by
  have hintegral : (Header.value i.algorithm).Integral := .object fun m hm => by
    simp only [List.mem_cons, List.not_mem_nil, or_false] at hm
    rcases hm with rfl | rfl
    · exact .string "JWT"
    · exact .string i.algorithm.name
  have hdepth : (Header.value i.algorithm).depth ≤ maxDepth := by
    cases i.algorithm <;> decide
  have hread : readPart (i.issuedParts claims issuedAt expiresAt).header =
      .ok (Header.value i.algorithm) := by
    rw [readPart_eq_ok_iff]
    exact ⟨_, rfl, parseBytes?_eq_some_iff.mp (parseBytes?_compact hintegral hdepth)⟩
  have hname : Header.algorithm? (Header.value i.algorithm) = some i.algorithm.name := by
    cases i.algorithm <;> rfl
  rw [checkHeader, hread]
  simp only [bind, Except.bind, hname, Header.name_inj]
  by_cases ha : i.algorithm = j.algorithm
  · rw [if_pos ha, if_neg (not_not.mpr ha)]
  · rw [if_neg ha, if_pos ha]

/-- An issued signature counts if the other issuer would write the same. -/
theorem checkSignature_issuedParts :
    j.checkSignature (i.issuedParts claims issuedAt expiresAt) =
      let message := Bytes.utf8 (i.issuedParts claims issuedAt expiresAt).message
      if i.algorithm.sign i.key message ≠ j.algorithm.sign j.key message then
        .error .invalidSignature
      else .ok () := by
  rw [checkSignature, signature_issuedParts, decodePart?_encodePart]
  by_cases h : i.algorithm.sign i.key (Bytes.utf8 (i.issuedParts claims issuedAt expiresAt).message)
      = j.algorithm.sign j.key (Bytes.utf8 (i.issuedParts claims issuedAt expiresAt).message)
  · simp only [if_pos h, if_neg (not_not.mpr h)]
  · simp only [if_neg h, if_pos h]

/--
What comes of validating a token that an issuer has issued, by the same or another one. The first
difference that is found decides.
-/
theorem validate_accessToken (i j : TokenIssuer) (hreserved : ∀ c ∈ claims, c.name ∉ reservedNames)
    (issuedAt expiresAt now : UInt64) :
    j.validate now (i.accessToken claims issuedAt expiresAt) =
      let message := Bytes.utf8 (i.issuedParts claims issuedAt expiresAt).message
      if i.algorithm ≠ j.algorithm then .error (.decoding .invalidAlgorithm)
      else if i.algorithm.sign i.key message ≠ j.algorithm.sign j.key message then
        .error (.decoding .invalidSignature)
      else if 1 < Claim.count "sub" claims ∨ 1 < Claim.count "nbf" claims then
        .error (.decoding .json)
      else if expiresAt < now then .error (.decoding .expiredSignature)
      else if i.name ≠ j.name then .error (.decoding .invalidIssuer)
      else .ok ⟨i.name, issuedAt, expiresAt, claims.mergeSort Claim.precedes⟩ := by
  have hpayload : readPayload (i.issuedParts claims issuedAt expiresAt).payload =
      .ok (Fixed.payload ⟨i.name, issuedAt, expiresAt⟩ claims).members :=
    Fixed.readPayload_payload hreserved
  have hcheck := Fixed.check_payload (f := ⟨i.name, issuedAt, expiresAt⟩) hreserved j.name now
  have htoken := Fixed.accessTokenOf?_payload (f := ⟨i.name, issuedAt, expiresAt⟩) hreserved
  rw [validate, decode, parse?_accessToken]
  simp only [checkHeader_issuedParts, checkSignature_issuedParts, hpayload]
  by_cases halgorithm : i.algorithm = j.algorithm
  · rw [if_neg (not_not.mpr halgorithm), if_neg (not_not.mpr halgorithm)]
    by_cases hsignature :
        i.algorithm.sign i.key (Bytes.utf8 (i.issuedParts claims issuedAt expiresAt).message) =
          j.algorithm.sign j.key (Bytes.utf8 (i.issuedParts claims issuedAt expiresAt).message)
    · rw [if_neg (not_not.mpr hsignature), if_neg (not_not.mpr hsignature)]
      simp only [bind, Except.bind, hcheck]
      split_ifs <;> simp [pure, Except.pure, htoken]
    · rw [if_pos hsignature, if_pos hsignature]
      rfl
  · rw [if_pos halgorithm, if_pos halgorithm]
    rfl

/-- An issued token is accepted by its issuer until it expires. -/
theorem validate_accessToken_self (i : TokenIssuer)
    (hreserved : ∀ c ∈ claims, c.name ∉ reservedNames) (hsub : Claim.count "sub" claims ≤ 1)
    (hnbf : Claim.count "nbf" claims ≤ 1) (issuedAt : UInt64) {expiresAt now : UInt64}
    (hnow : now ≤ expiresAt) :
    i.validate now (i.accessToken claims issuedAt expiresAt) =
      .ok ⟨i.name, issuedAt, expiresAt, claims.mergeSort Claim.precedes⟩ := by
  have honce : ¬ (1 < Claim.count "sub" claims ∨ 1 < Claim.count "nbf" claims) := by omega
  rw [validate_accessToken i i hreserved]
  simp only [ne_eq, not_true_eq_false, if_false, if_neg honce, if_neg (UInt64.not_lt.mpr hnow)]

/-- No reserved claim is found if none has a name of the issuer. -/
theorem reserved?_eq_none_iff :
    reserved? claims = none ↔ ∀ c ∈ claims, c.name ∉ reservedNames := by
  simp [reserved?]

/-- A reserved claim is reported before anything is written. -/
theorem issueWith_of_reserved (w : TokenWriter) {c : Claim} (hreserved : reserved? claims = some c)
    (clock : Clock) (bytes : RefreshBytes) :
    i.issueWith w claims clock bytes = .error (.reservedClaim c.name) := by
  rw [issueWith, hreserved]

/-- A clock before 1970 is reported before anything is written. -/
theorem issueWith_of_before_1970 (w : TokenWriter) (hreserved : reserved? claims = none)
    {clock : Clock} (hnow : clock.unixSeconds? = none) (bytes : RefreshBytes) :
    i.issueWith w claims clock bytes = .error .time := by
  rw [issueWith, hreserved, hnow]

/-- The claims of the issuer are written as an object. -/
theorem payloadWith_standard (f : Fixed) : payloadWith .standard f = .ok f.object :=
  congrArg Except.ok (Object.ofMembers_members f.object)

/-- Nothing fails in the way in which tokens are written. -/
theorem issue_of_unixSeconds (hreserved : reserved? claims = none) {clock : Clock} {now : UInt64}
    (hnow : clock.unixSeconds? = some now) (bytes : RefreshBytes) :
    i.issue claims clock bytes = .ok {
      accessToken := i.accessToken claims now (now + i.accessLifetime.seconds)
      expiresAt := now + i.accessLifetime.seconds
      refresh := i.refreshLifetime.map fun l => .ofBytes bytes (now + l.seconds) } := by
  rw [issue, issueWith, hreserved, hnow]
  dsimp only
  rw [payloadWith_standard]
  rfl

/-- Claims that leave the names of the issuer alone are accepted from 1970 on. -/
theorem issue_eq_ok (i : TokenIssuer) (hreserved : ∀ c ∈ claims, c.name ∉ reservedNames)
    {clock : Clock} (hclock : 0 ≤ clock.seconds) (bytes : RefreshBytes) :
    ∃ token, i.issue claims clock bytes = .ok token ∧
      token.expiresAt = .ofNat clock.seconds.toNat + i.accessLifetime.seconds ∧
      token.accessToken =
        i.accessToken claims (.ofNat clock.seconds.toNat) token.expiresAt := by
  have hnone : reserved? claims = none := reserved?_eq_none_iff.mpr hreserved
  have hnow := Clock.unixSeconds?_eq_some_iff.mpr ⟨hclock, rfl⟩
  exact ⟨_, issue_of_unixSeconds hnone hnow bytes, rfl, rfl⟩

/-- A lifetime that fits is added to a second without a carry. -/
theorem toNat_ofNat_add {second : Nat} {lifetime : UInt64}
    (hfits : second + lifetime.toNat < 2 ^ 64) :
    (UInt64.ofNat second + lifetime).toNat = second + lifetime.toNat := by
  rw [UInt64.toNat_add, UInt64.toNat_ofNat']
  omega

end TokenIssuer

/-! ## Tokens between configurations -/

namespace Config

/--
What comes of validating a token that has been issued under one configuration, under the same or
another one and at any second. What is signed is the text before the last dot of the token. The
claims come back in the order of the UTF-8 bytes of their names.
-/
theorem validate_issued (a b : Config) (claims : List Claim) (clock : Clock)
    (bytes : RefreshBytes) (now : UInt64) (hreserved : ∀ c ∈ claims, c.name ∉ reservedNames)
    (hclock : 0 ≤ clock.seconds)
    (hfits : clock.seconds.toNat + a.accessLifetime.seconds.toNat < 2 ^ 64) :
    ∃ token message, a.tokens.issue claims clock bytes = .ok token ∧
      token.expiresAt.toNat = clock.seconds.toNat + a.accessLifetime.seconds.toNat ∧
      token.accessToken.toList =
        message ++ '.' :: encodePart (a.algorithm.sign a.key (Bytes.utf8 message)) ∧
      message.count '.' = 1 ∧
      b.tokens.validate now token.accessToken =
        if a.algorithm ≠ b.algorithm then .error (.decoding .invalidAlgorithm)
        else if a.algorithm.sign a.key (Bytes.utf8 message) ≠
            b.algorithm.sign b.key (Bytes.utf8 message) then
          .error (.decoding .invalidSignature)
        else if 1 < Claim.count "sub" claims ∨ 1 < Claim.count "nbf" claims then
          .error (.decoding .json)
        else if clock.seconds.toNat + a.accessLifetime.seconds.toNat < now.toNat then
          .error (.decoding .expiredSignature)
        else if a.issuer ≠ b.issuer then .error (.decoding .invalidIssuer)
        else .ok {
          issuer := a.issuer
          issuedAt := .ofNat clock.seconds.toNat
          expiresAt := token.expiresAt
          claims := claims.mergeSort Claim.precedes } := by
  obtain ⟨token, hissue, hexpires, htoken⟩ :=
    a.tokens.issue_eq_ok hreserved hclock bytes
  have hnat : token.expiresAt.toNat = clock.seconds.toNat + a.accessLifetime.seconds.toNat := by
    rw [hexpires]
    exact TokenIssuer.toNat_ofNat_add hfits
  let parts := a.tokens.issuedParts claims (.ofNat clock.seconds.toNat) token.expiresAt
  refine ⟨token, parts.message, hissue, hnat, ?_, TokenIssuer.count_dot_message_issuedParts, ?_⟩
  · rw [htoken, TokenIssuer.toList_accessToken]
    rfl
  · rw [htoken, TokenIssuer.validate_accessToken _ _ hreserved, ← hnat]
    rfl

/-- Two claims come back in order from a token that is about to expire. -/
theorem validate_issued_before_expiry : ∃ c token,
    Settings.build { key := .replicate 32 0 } = .ok c ∧
    c.tokens.issue [⟨"sub", "42"⟩, ⟨"aud", "x"⟩] ⟨0, 0⟩ (.replicate _ 0) = .ok token ∧
    c.tokens.validate 300 token.accessToken =
      .ok ⟨"warden", 0, token.expiresAt, [⟨"aud", "x"⟩, ⟨"sub", "42"⟩]⟩ := by
  obtain ⟨c, hc, hissuer, hlifetime⟩ := Settings.exists_build_zeroKey
  obtain ⟨token, message, hissue, _, _, _, hvalidate⟩ := validate_issued c c
    [⟨"sub", "42"⟩, ⟨"aud", "x"⟩] ⟨0, 0⟩ (.replicate _ 0) 300 (by decide) (by decide)
    (by rw [hlifetime]; decide)
  have hsorted : [⟨"sub", "42"⟩, ⟨"aud", "x"⟩].mergeSort Claim.precedes =
      [⟨"aud", "x"⟩, ⟨"sub", "42"⟩] := by
    have hnot : Claim.precedes ⟨"sub", "42"⟩ ⟨"aud", "x"⟩ = false := by decide
    simp [List.mergeSort, List.MergeSort.Internal.splitInTwo, hnot]
  have honce : ¬ (1 < Claim.count "sub" [⟨"sub", "42"⟩, ⟨"aud", "x"⟩] ∨
      1 < Claim.count "nbf" [⟨"sub", "42"⟩, ⟨"aud", "x"⟩]) := by decide
  refine ⟨c, token, hc, hissue, ?_⟩
  rw [hvalidate, hlifetime, hissuer, hsorted, if_neg honce]
  simp [Lifetime.ofSeconds]

/--
What comes of validating an issued token under the same configuration at the same second. Unless a
subject or a beginning is given several times, the claims come back as they were given, except that
claims with different names may come in another order.
-/
theorem validate_issued_same (c : Config) (claims : List Claim) (clock : Clock)
    (bytes : RefreshBytes) (hreserved : ∀ d ∈ claims, d.name ∉ reservedNames)
    (hclock : 0 ≤ clock.seconds)
    (hfits : clock.seconds.toNat + c.accessLifetime.seconds.toNat < 2 ^ 64) :
    ∃ token, c.tokens.issue claims clock bytes = .ok token ∧
      (Claim.count "sub" claims ≤ 1 ∧ Claim.count "nbf" claims ≤ 1 →
        ∃ a, c.tokens.validate (.ofNat clock.seconds.toNat) token.accessToken = .ok a ∧
          a.claims.Perm claims ∧
          ∀ name, a.claims.filter (·.name = name) = claims.filter (·.name = name)) ∧
      (¬ (Claim.count "sub" claims ≤ 1 ∧ Claim.count "nbf" claims ≤ 1) →
        c.tokens.validate (.ofNat clock.seconds.toNat) token.accessToken =
          .error (.decoding .json)) := by
  obtain ⟨token, hissue, hexpires, htoken⟩ :=
    c.tokens.issue_eq_ok hreserved hclock bytes
  have hnat : token.expiresAt.toNat = clock.seconds.toNat + c.accessLifetime.seconds.toNat := by
    rw [hexpires]
    exact TokenIssuer.toNat_ofNat_add hfits
  have hunexpired : ¬ token.expiresAt < .ofNat clock.seconds.toNat := by
    rw [UInt64.lt_iff_toNat_lt, hnat, UInt64.toNat_ofNat']
    omega
  have hvalidate := TokenIssuer.validate_accessToken c.tokens c.tokens hreserved
    (.ofNat clock.seconds.toNat) token.expiresAt (.ofNat clock.seconds.toNat)
  rw [← htoken] at hvalidate
  simp only [ne_eq, not_true_eq_false, if_false, if_neg hunexpired] at hvalidate
  refine ⟨token, hissue, ?_, ?_⟩
  · rintro ⟨hsub, hnbf⟩
    rw [if_neg (by omega)] at hvalidate
    exact ⟨_, hvalidate, List.mergeSort_perm claims Claim.precedes,
      Claim.filter_mergeSort claims⟩
  · intro hrepeated
    rw [hvalidate, if_pos (by omega)]

/-- Two roles beside a subject come back at once. -/
theorem validate_issued_same_roles : ∃ c token,
    Settings.build { key := .replicate 32 0 } = .ok c ∧
    c.tokens.issue [⟨"role", "b"⟩, ⟨"sub", "42"⟩, ⟨"role", "a"⟩] ⟨0, 0⟩ (.replicate _ 0) =
      .ok token ∧
    ∃ a, c.tokens.validate 0 token.accessToken = .ok a ∧
      a.claims.filter (·.name = "role") = [⟨"role", "b"⟩, ⟨"role", "a"⟩] := by
  obtain ⟨c, hc, _, hlifetime⟩ := Settings.exists_build_zeroKey
  obtain ⟨token, hissue, hvalidate, _⟩ := validate_issued_same c
    [⟨"role", "b"⟩, ⟨"sub", "42"⟩, ⟨"role", "a"⟩] ⟨0, 0⟩ (.replicate _ 0) (by decide)
    (by decide) (by rw [hlifetime]; decide)
  obtain ⟨a, ha, _, hvalues⟩ := hvalidate (by decide)
  exact ⟨c, token, hc, hissue, a, ha, (hvalues "role").trans (by decide)⟩

/-- Not every token that is issued is accepted: a subject may be given only once. -/
theorem not_forall_validate_issued : ¬ ∀ (s : Settings) (c : Config) (claims : List Claim)
    (clock : Clock) (bytes : RefreshBytes), s.build = .ok c →
    (∀ d ∈ claims, d.name ∉ reservedNames) → 0 ≤ clock.seconds →
    clock.seconds.toNat + c.accessLifetime.seconds.toNat < 2 ^ 64 →
    ∃ token a, c.tokens.issue claims clock bytes = .ok token ∧
      c.tokens.validate (.ofNat clock.seconds.toNat) token.accessToken = .ok a ∧
      a.claims.Perm claims ∧
      ∀ name, a.claims.filter (·.name = name) = claims.filter (·.name = name) := by
  intro hall
  obtain ⟨c, hc, _, hlifetime⟩ := Settings.exists_build_zeroKey
  have hreserved : ∀ d ∈ [Claim.mk "sub" "1", ⟨"sub", "2"⟩], d.name ∉ reservedNames := by decide
  obtain ⟨token, a, hissue, hvalidate, _⟩ := hall _ c [⟨"sub", "1"⟩, ⟨"sub", "2"⟩] ⟨1000000, 0⟩
    (.replicate _ 0) hc hreserved (by decide) (by rw [hlifetime]; decide)
  have hclock : 0 ≤ (Clock.mk 1000000 0).seconds := by decide
  obtain ⟨_, hsame, _, htoken⟩ := c.tokens.issue_eq_ok hreserved hclock (.replicate _ 0)
  rw [hissue, Except.ok.injEq] at hsame
  subst hsame
  rw [htoken, TokenIssuer.validate_accessToken _ _ hreserved] at hvalidate
  have hrepeated : 1 < Claim.count "sub" [⟨"sub", "1"⟩, ⟨"sub", "2"⟩] ∨
      1 < Claim.count "nbf" [⟨"sub", "1"⟩, ⟨"sub", "2"⟩] := by decide
  simp [hrepeated] at hvalidate

end Config

end Credentials
