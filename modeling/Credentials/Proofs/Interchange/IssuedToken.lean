import Credentials.Proofs.Interchange

/-!
# Issued tokens as texts

A text is read as the tokens of a session from the members that its object has exactly once. A
refresh token takes two of them. If either is missing, repeated or of another kind, then none is
read, and none of the two is written again.
-/

namespace Credentials

open Credentials.Json

/-! ## Members that occur once -/

namespace Json

/-- A value stands under a name, and the name occurs once. -/
def IsOnly {α : Type} (name : String) (v : α) (members : List (String × α)) : Prop :=
  (name, v) ∈ members ∧ countName name members = 1

/-- The only value under a name is found. -/
theorem only?_eq_some_iff {α : Type} {name : String} {v : α} {members : List (String × α)} :
    only? name members = some v ↔ IsOnly name v members := by
  have hname {m : String × α} (hm : m ∈ members.filter (·.1 == name)) : m.1 = name := by
    simpa using (List.mem_filter.mp hm).2
  rw [only?, IsOnly, countName]
  constructor
  · intro h
    split at h
    · rename_i key w hfilter
      obtain rfl := Option.some.inj h
      have hm : (key, w) ∈ members.filter (·.1 == name) := by simp [hfilter]
      obtain rfl : key = name := hname hm
      exact ⟨(List.mem_filter.mp hm).1, by rw [hfilter, List.length_singleton]⟩
    · cases h
  · rintro ⟨hm, hcount⟩
    obtain ⟨m, hfilter⟩ := List.length_eq_one_iff.mp hcount
    have hmem : (name, v) ∈ members.filter (·.1 == name) :=
      List.mem_filter.mpr ⟨hm, beq_self_eq_true name⟩
    rw [hfilter, List.mem_singleton] at hmem
    rw [hfilter, ← hmem]

variable {members : List (String × Value)} {name : String}

/-- The only text under a name is found. -/
theorem string?_only?_eq_some_iff {s : String} :
    (only? name members).bind Value.string? = some s ↔ IsOnly name (.string s) members := by
  simp only [Option.bind_eq_some_iff, Value.string?_eq_some_iff, exists_eq_right,
    only?_eq_some_iff]

/-- The integers among the values of members fit 64 bits. -/
def FitWords (members : List (String × Value)) : Prop :=
  ∀ name value, (name, .number (.integer value)) ∈ members → (Number.integer value).IsWord

/-- The only word under a name is found. -/
theorem FitWords.word?_only?_eq_some_iff (hwords : FitWords members) {w : UInt64} :
    (only? name members).bind Value.word? = some w ↔ IsOnly name (Value.ofWord w) members := by
  rw [Option.bind_eq_some_iff]
  simp only [only?_eq_some_iff]
  constructor
  · rintro ⟨v, hv, hword⟩
    have hfits (value : Int) (heq : v = .number (.integer value)) :
        (Number.integer value).IsWord := hwords name value (heq ▸ hv.1)
    rwa [← (Value.word?_eq_some_iff hfits).mp hword]
  · intro h
    exact ⟨_, h, Value.word?_ofWord w⟩

/-- The integers of an object that is read from a text fit 64 bits. -/
theorem fitWords_of_parse? {text : List Char} (h : parse? text = some (.object members)) :
    FitWords members := by
  have hjson : IsJson (Bytes.utf8 text) (.object members) := by
    rw [← parseBytes?_eq_some_iff, parseBytes?, Bytes.ofUtf8?_utf8]
    exact h
  exact fun _ _ hm => hjson.isWord hm

end Json

/-! ## The tokens of a session -/

/-- The refresh token is read from two members that occur once. -/
theorem RefreshToken.ofMembers?_eq_some_iff {members : List (String × Value)}
    (hwords : FitWords members) {r : RefreshToken} : ofMembers? members = some r ↔
      IsOnly "refresh_token" (.string r.text) members ∧
        IsOnly "refresh_token_expires_at" (Value.ofWord r.expiresAt) members := by
  obtain ⟨text, expiresAt⟩ := r
  simp only [ofMembers?, bind, Option.bind_eq_some_iff (x := (only? _ _).bind _), pure,
    Option.some_inj, mk.injEq, string?_only?_eq_some_iff, hwords.word?_only?_eq_some_iff]
  constructor
  · rintro ⟨_, htext, _, hword, rfl, rfl⟩
    exact ⟨htext, hword⟩
  · rintro ⟨htext, hword⟩
    exact ⟨_, htext, _, hword, rfl, rfl⟩

namespace IssuedToken

/-- Reads the tokens of a session from a text. -/
def ofText? (text : List Char) : Option IssuedToken := (parse? text).bind ofJson?

/-- The tokens of a session are read from members that occur once. -/
theorem ofJson?_object_eq_some_iff {members : List (String × Value)} (hwords : FitWords members)
    {t : IssuedToken} : ofJson? (.object members) = some t ↔
      IsOnly "access_token" (.string t.accessToken) members ∧
        IsOnly "access_token_expires_at" (Value.ofWord t.expiresAt) members ∧
        ∀ r, t.refresh = some r ↔ IsOnly "refresh_token" (.string r.text) members ∧
          IsOnly "refresh_token_expires_at" (Value.ofWord r.expiresAt) members := by
  obtain ⟨accessToken, expiresAt, refresh⟩ := t
  simp only [ofJson?, bind, Option.bind_eq_some_iff (x := (only? _ _).bind _), pure,
    Option.some_inj, mk.injEq, string?_only?_eq_some_iff, hwords.word?_only?_eq_some_iff,
    ← RefreshToken.ofMembers?_eq_some_iff hwords]
  constructor
  · rintro ⟨_, htext, _, hword, rfl, rfl, rfl⟩
    exact ⟨htext, hword, fun _ => Iff.rfl⟩
  · rintro ⟨htext, hword, hrefresh⟩
    exact ⟨_, htext, _, hword, rfl, rfl, (Option.ext hrefresh).symm⟩

/-- Only an object is read as the tokens of a session. -/
theorem ofText?_eq_some_iff {text : List Char} {t : IssuedToken} : ofText? text = some t ↔
    ∃ members, parse? text = some (.object members) ∧ ofJson? (.object members) = some t := by
  rw [ofText?, Option.bind_eq_some_iff]
  constructor
  · rintro ⟨v, hparse, hread⟩
    cases v with
    | object members => exact ⟨members, hparse, hread⟩
    | _ => simp [ofJson?] at hread
  · rintro ⟨members, hparse, hread⟩
    exact ⟨_, hparse, hread⟩

/-- The tokens of a session are read from each text that their JSON is read from. -/
theorem ofText?_of_isReadFrom {t : IssuedToken} {text : List Char}
    (h : t.toJson.IsReadFrom text) : ofText? text = some t := by
  rw [ofText?, parse?_eq_some h t.depth_toJson_le, Option.bind_some, ofJson?_toJson]

/-- The two members of a refresh token are written once each if there is one, else not at all. -/
theorem countName_toJson (t : IssuedToken) : ∃ members, t.toJson = .object members ∧
    ∀ name ∈ RefreshToken.memberNames,
      countName name members = if t.refresh.isSome then 1 else 0 := by
  obtain ⟨accessToken, expiresAt, refresh⟩ := t
  refine ⟨_, rfl, fun name hname => ?_⟩
  rw [RefreshToken.memberNames, List.mem_cons, List.mem_singleton] at hname
  cases refresh <;> rcases hname with rfl | rfl <;> rfl

/--
The JSON of a session holds a refresh token with its expiry or neither of them. Reading what has
been written, on one line or on several, gives the session back. Whatever else a text holds, a
refresh token is read from it exactly if each of its two members occurs once, the one with a string
and the other with an unsigned integer of 64 bits; and writing what has been read gives both members
once or neither.
-/
theorem refresh_paired (t : IssuedToken) :
    ofText? t.toJson.compact = some t ∧ ofText? (t.toJson.pretty 0) = some t ∧
    (∀ text, ofText? text = some t ↔ ∃ members, parse? text = some (.object members) ∧
      IsOnly "access_token" (.string t.accessToken) members ∧
      IsOnly "access_token_expires_at" (Value.ofWord t.expiresAt) members ∧
      ∀ r, t.refresh = some r ↔ IsOnly "refresh_token" (.string r.text) members ∧
        IsOnly "refresh_token_expires_at" (Value.ofWord r.expiresAt) members) ∧
    ∃ members, parse? t.toJson.compact = some (.object members) ∧
      ∀ name ∈ ["refresh_token", "refresh_token_expires_at"],
        countName name members = if t.refresh.isSome then 1 else 0 := by
  have hcompact := t.integral_toJson.isReadFrom_compact
  refine ⟨ofText?_of_isReadFrom hcompact,
    ofText?_of_isReadFrom (t.integral_toJson.isReadFrom_pretty 0), fun text => ?_, ?_⟩
  · rw [ofText?_eq_some_iff]
    constructor
    · rintro ⟨members, hparse, hread⟩
      exact ⟨members, hparse, (ofJson?_object_eq_some_iff (fitWords_of_parse? hparse)).mp hread⟩
    · rintro ⟨members, hparse, hmembers⟩
      exact ⟨members, hparse, (ofJson?_object_eq_some_iff (fitWords_of_parse? hparse)).mpr hmembers⟩
  · obtain ⟨members, hmembers, hcount⟩ := t.countName_toJson
    exact ⟨members, hmembers ▸ parse?_eq_some hcompact t.depth_toJson_le, hcount⟩

/-- A refresh token without an expiry is not read. -/
example : ofJson? (.object [("refresh_token", .string "r"), ("access_token", .string "a"),
    ("access_token_expires_at", Value.ofWord 7)]) = some ⟨"a", 7, none⟩ := by
  decide

end IssuedToken

end Credentials
