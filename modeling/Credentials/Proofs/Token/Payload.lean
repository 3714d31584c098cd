import Credentials.Proofs.Claim
import Credentials.Proofs.Json.Shape
import Credentials.Token.Issuer

/-!
# Acceptable payloads

Which members make up the payload of an access token that an issuer accepts, and what the token
says. A payload is looked at twice, as it is written and by name, so that the registered claims may
occur only once while the last member counts for every other name.
-/

namespace Credentials.Token

open Credentials.Json

/--
Members of the payload of an access token of an issuer that has not expired at some second, and what
they say.
-/
structure IsPayload (issuer : String) (now : UInt64) (members : List (String × Value))
    (a : AccessToken) : Prop where
  once : ∀ name ∈ ["exp", "nbf", "sub", "iss", "aud"], countName name members ≤ 1
  sub : ∀ v, ("sub", v) ∈ members → (∀ items, v ≠ .array items) ∧ ∀ inner, v ≠ .object inner
  nbf : ∀ v, ("nbf", v) ∈ members →
    (∀ items, v = .array items → items = []) ∧ ∀ inner, v = .object inner → inner = []
  iss : ("iss", .string issuer) ∈ members
  exp : ("exp", .number (.integer a.expiresAt.toNat)) ∈ members
  unexpired : now ≤ a.expiresAt
  iat : members.reverse.lookup "iat" = some (.number (.integer a.issuedAt.toNat))
  /-- An object stands for its only name, however often it is repeated, if null is given last. -/
  typ : ∃ v, members.reverse.lookup "typ" = some v ∧ (v = .string "access" ∨
    ∃ inner, v = .object inner ∧ (Object.ofMembers inner).members = [("access", .null)])
  issuer : a.issuer = issuer
  claims : a.claims = Claim.ofObject
    ((Object.ofMembers members).eraseAll fun name => name ∈ ["iss", "iat", "exp", "typ"])

/-! ## The registered claims -/

namespace Registered

/-- The subject must not be composed of others, and times must not be filled. -/
theorem isTolerated_iff {name : String} {v : Value} : isTolerated name v ↔
    (name = "sub" → isComposite v = false) ∧
      (name = "exp" ∨ name = "nbf" → isFilled v = false) := by
  unfold isTolerated
  by_cases hsub : name = "sub"
  · simp [hsub]
  · by_cases htime : name = "exp" ∨ name = "nbf"
    · simp [hsub, htime]
    · simp [hsub, htime]

/-- Members can be looked at if none is repeated and each is tolerated. -/
theorem areReadable_iff {members : List (String × Value)} : areReadable members ↔
    (∀ name ∈ names, countName name members ≤ 1) ∧ ∀ m ∈ members, isTolerated m.1 m.2 := by
  simp [areReadable, List.all_eq_true]

/-- A payload passes if it can be looked at, has not expired and names the issuer. -/
theorem check_eq_ok_iff {members : List (String × Value)} {issuer : String} {now : UInt64} :
    check members issuer now = .ok () ↔ areReadable members ∧
      (∃ expiry, (members.lookup "exp").bind expiry? = some expiry ∧ now.toNat ≤ expiry) ∧
      ∃ issuers, (members.lookup "iss").bind issuers? = some issuers ∧ issuer ∈ issuers := by
  unfold check
  cases areReadable members with
  | false => simp
  | true =>
    cases (members.lookup "exp").bind expiry? with
    | none => simp
    | some expiry =>
      cases (members.lookup "iss").bind issuers? with
      | none => simp
      | some issuers =>
        by_cases hexpiry : expiry < now.toNat
        · simp [hexpiry]
        · by_cases hissuer : issuer ∈ issuers
          · simp [hexpiry, hissuer]
            omega
          · simp [hexpiry, hissuer]

end Registered

/-! ## The claims of the issuer -/

namespace Fixed

/-- The marker is a string, or an object with null under the marker. -/
theorem isAccess_iff {v : Value} : isAccess v ↔ v = .string "access" ∨
    ∃ inner, v = .object inner ∧ (Object.ofMembers inner).members = [("access", .null)] := by
  rw [isAccess, beq_iff_eq, choice?_eq_some_iff, accessType]
  cases v <;> simp [withoutRepetitions]

/-- The claims of the issuer are read if each is there. -/
theorem ofObject?_eq_some_iff {o : Object} {f : Fixed} : ofObject? o = some f ↔
    o.get? "iss" = some (.string f.issuer) ∧
    (∃ v, o.get? "iat" = some v ∧ v.word? = some f.issuedAt) ∧
    (∃ v, o.get? "exp" = some v ∧ v.word? = some f.expiresAt) ∧
    ∃ v, o.get? "typ" = some v ∧ isAccess v := by
  obtain ⟨issuer, issuedAt, expiresAt⟩ := f
  simp only [ofObject?, bind, pure, Option.bind_eq_some_iff, Option.guard_eq_some', Option.some_inj,
    Fixed.mk.injEq, Value.string?_eq_some_iff]
  constructor
  · rintro ⟨_, ⟨_, hiss, rfl⟩, _, hiat, _, hexp, v, htyp, _, haccess, rfl, rfl, rfl⟩
    exact ⟨hiss, hiat, hexp, v, htyp, haccess⟩
  · rintro ⟨hiss, hiat, hexp, v, htyp, haccess⟩
    exact ⟨_, ⟨_, hiss, rfl⟩, _, hiat, _, hexp, v, htyp, (), haccess, rfl, rfl, rfl⟩

end Fixed

/-! ## Both readings together -/

/-- A word is the second at which a token expires. -/
@[simp] theorem Registered.expiry?_ofWord (w : UInt64) :
    Registered.expiry? (Value.ofWord w) = some w.toNat := by
  simp [Value.ofWord, Registered.expiry?]

/-- The last value of a name is that of a member. -/
theorem mem_of_lookup_reverse {name : String} {v : Value} {members : List (String × Value)}
    (h : members.reverse.lookup name = some v) : (name, v) ∈ members := by
  obtain ⟨before, after, heq, _⟩ := List.lookup_eq_some_iff.mp h
  have hmem : (name, v) ∈ members.reverse := by simp [heq]
  exact List.mem_reverse.mp hmem

/-- The names that only the issuer sets. -/
theorem contains_reservedNames :
    reservedNames.contains = fun name => decide (name ∈ ["iss", "iat", "exp", "typ"]) := by
  funext name
  simp [reservedNames]

section

variable {members : List (String × Value)} {issuer : String} {now : UInt64} {a : AccessToken}

/-- Members that pass both readings are the payload of an access token. -/
theorem isPayload_of_check
    (hwords : ∀ name n, (name, .number (.integer n)) ∈ members → (Number.integer n).IsWord)
    (hcheck : Registered.check members issuer now = .ok ())
    (htoken : TokenIssuer.accessTokenOf? members = some a) : IsPayload issuer now members a := by
  have hword {name : String} {v : Value} {w : UInt64} (hv : members.reverse.lookup name = some v)
      (hw : v.word? = some w) : v = .ofWord w :=
    (Value.word?_eq_some_iff fun n hn => hwords name n (hn ▸ mem_of_lookup_reverse hv)).mp hw
  simp only [Registered.check_eq_ok_iff, Registered.areReadable_iff,
    Option.bind_eq_some_iff] at hcheck
  simp only [TokenIssuer.accessTokenOf?, bind, pure, Option.bind_eq_some_iff, Option.some_inj,
    Fixed.ofObject?_eq_some_iff, Object.get?_ofMembers, Fixed.isAccess_iff] at htoken
  obtain ⟨⟨honce, htolerated⟩, ⟨expiry, ⟨e, hlookupExp, hexpiry⟩, hnow⟩,
    ⟨issuers, ⟨i, hlookupIss, hissuers⟩, hissuer⟩⟩ := hcheck
  obtain ⟨fixed, ⟨hiss, ⟨v, hiat, hviat⟩, ⟨w, hexp, hwexp⟩, htyp⟩, rfl⟩ := htoken
  obtain rfl := hword hiat hviat
  obtain rfl := hword hexp hwexp
  -- The first and the last value of a registered claim are the same.
  rw [lookup_reverse (honce "iss" (by decide)), hlookupIss, Option.some_inj] at hiss
  subst hiss
  rw [lookup_reverse (honce "exp" (by decide)), hlookupExp, Option.some_inj] at hexp
  subst hexp
  obtain rfl : fixed.expiresAt.toNat = expiry := by simpa using hexpiry
  obtain rfl : issuer = fixed.issuer := by
    rw [Registered.issuers?, Option.some_inj] at hissuers
    simpa [← hissuers] using hissuer
  exact {
    once := honce
    sub := fun v hv => isComposite_eq_false_iff.mp <|
      (Registered.isTolerated_iff.mp (htolerated _ hv)).1 rfl
    nbf := fun v hv => isFilled_eq_false_iff.mp <|
      (Registered.isTolerated_iff.mp (htolerated _ hv)).2 (.inr rfl)
    iss := (lookup_eq_some_iff (honce "iss" (by decide))).mp hlookupIss
    exp := (lookup_eq_some_iff (honce "exp" (by decide))).mp hlookupExp
    unexpired := hnow
    iat := hiat
    typ := htyp
    issuer := rfl
    claims := by rw [contains_reservedNames] }

/-- The payload of an access token has not expired and names the issuer. -/
theorem IsPayload.check (h : IsPayload issuer now members a) :
    Registered.check members issuer now = .ok () := by
  have hiss := (lookup_eq_some_iff (h.once "iss" (by decide))).mpr h.iss
  have hexp := (lookup_eq_some_iff (h.once "exp" (by decide))).mpr h.exp
  simp only [Registered.check_eq_ok_iff, Registered.areReadable_iff, Option.bind_eq_some_iff]
  refine ⟨⟨h.once, ?_⟩, ⟨_, ⟨_, hexp, Registered.expiry?_ofWord a.expiresAt⟩, h.unexpired⟩,
    ⟨_, ⟨_, hiss, rfl⟩, List.mem_singleton_self issuer⟩⟩
  rintro ⟨name, v⟩ hm
  rw [Registered.isTolerated_iff]
  constructor
  · rintro rfl
    exact isComposite_eq_false_iff.mpr (h.sub v hm)
  · rintro (rfl | rfl)
    · have hlookup := (lookup_eq_some_iff (h.once "exp" (by decide))).mpr hm
      rw [hexp, Option.some_inj] at hlookup
      subst hlookup
      rfl
    · exact isFilled_eq_false_iff.mpr (h.nbf v hm)

/-- The payload of an access token says what the token does. -/
theorem IsPayload.accessTokenOf? (h : IsPayload issuer now members a) :
    TokenIssuer.accessTokenOf? members = some a := by
  have hiss := (lookup_eq_some_iff (h.once "iss" (by decide))).mpr h.iss
  have hexp := (lookup_eq_some_iff (h.once "exp" (by decide))).mpr h.exp
  simp only [TokenIssuer.accessTokenOf?, bind, pure, Option.bind_eq_some_iff, Option.some_inj,
    Fixed.ofObject?_eq_some_iff, Object.get?_ofMembers, Fixed.isAccess_iff]
  refine ⟨⟨issuer, a.issuedAt, a.expiresAt⟩, ⟨?_, ⟨_, h.iat, Value.word?_ofWord _⟩,
    ⟨_, ?_, Value.word?_ofWord _⟩, h.typ⟩, ?_⟩
  · rw [lookup_reverse (h.once "iss" (by decide)), hiss]
  · rw [lookup_reverse (h.once "exp" (by decide)), hexp, Value.ofWord]
  · rw [contains_reservedNames, ← h.claims, ← h.issuer]

/-- The claims of an access token come from the last members with names that are not the issuer's. -/
theorem IsPayload.mem_claims_iff (h : IsPayload issuer now members a) {d : Claim} :
    d ∈ a.claims ↔ d.name ∉ reservedNames ∧
      ∃ v, members.reverse.lookup d.name = some v ∧ d ∈ Claim.ofMember d.name v := by
  rw [h.claims, ← contains_reservedNames, Claim.mem_ofObject, Object.get?_eraseAll,
    Object.get?_ofMembers]
  by_cases hname : d.name ∈ reservedNames
  · simp [hname]
  · simp [hname]

end

end Credentials.Token
