import Credentials.Interchange
import Credentials.Program
import Credentials.Proofs.Json.Shape

/-!
# Records as JSON and back

The tokens of a session are read from the JSON that they are written as, and all records that are
printed are read as they are.
-/

namespace Credentials

open Credentials.Json

/-- The tokens of a session are read from their JSON, with or without a refresh token. -/
theorem IssuedToken.ofJson?_toJson (t : IssuedToken) : IssuedToken.ofJson? t.toJson = some t := by
  obtain ⟨accessToken, expiresAt, refresh⟩ := t
  cases refresh with
  | none =>
    simp [toJson, ofJson?, only?, RefreshToken.ofMembers?, Value.string?]
  | some r =>
    simp [toJson, ofJson?, only?, RefreshToken.ofMembers?, RefreshToken.members, Value.string?]

/-! ## Texts of records -/

/-- A claim has no doubles in it. -/
theorem Claim.integral_toJson (c : Claim) : c.toJson.Integral := by
  refine .object fun m hm => ?_
  simp only [List.mem_cons, List.not_mem_nil, or_false] at hm
  rcases hm with rfl | rfl
  · exact .string c.name
  · exact .string c.value

/-- The tokens of a session have no doubles in them. -/
theorem IssuedToken.integral_toJson (t : IssuedToken) : t.toJson.Integral := by
  refine .object fun m hm => ?_
  cases hrefresh : t.refresh with
  | none =>
    simp only [hrefresh, Option.map_none, Option.getD_none, List.mem_cons, List.not_mem_nil,
      or_false] at hm
    rcases hm with rfl | rfl
    · exact .string t.accessToken
    · exact .ofWord t.expiresAt
  | some r =>
    simp only [hrefresh, Option.map_some, Option.getD_some, RefreshToken.members, List.mem_cons,
      List.not_mem_nil, or_false] at hm
    rcases hm with rfl | rfl | rfl | rfl
    · exact .string t.accessToken
    · exact .ofWord t.expiresAt
    · exact .string r.text
    · exact .ofWord r.expiresAt

/-- The tokens of a session are not nested deeply. -/
theorem IssuedToken.depth_toJson_le (t : IssuedToken) : t.toJson.depth ≤ maxDepth := by
  cases hrefresh : t.refresh <;>
    simp [toJson, hrefresh, RefreshToken.members, Value.ofWord, Tree.depth, Tree.depthMembers,
      maxDepth]

/-- What is told about an accepted token has no doubles in it. -/
theorem Program.integral_inspection (t : AccessToken) : (inspection t).Integral := by
  refine .object fun m hm => ?_
  simp only [List.mem_cons, List.not_mem_nil, or_false] at hm
  rcases hm with rfl | rfl | rfl | rfl | rfl
  · refine .array fun v hv => ?_
    obtain ⟨c, _, rfl⟩ := List.mem_map.mp hv
    exact c.integral_toJson
  · exact .bool t.isEmailVerified
  · exact .ofWord t.expiresAt
  · exact .ofWord t.issuedAt
  · exact .string t.issuer

/-- A line of output is read as the value that it was written for. -/
theorem Program.parse?_prettyLines {v : Value} (h : v.Integral) (hdepth : v.depth ≤ maxDepth) :
    parse? (prettyLines v).toList = some v := by
  rw [prettyLines, line, String.toList_ofList]
  exact parse?_eq_some ((h.isReadFrom_pretty 0).trailing (by simp [isBlank])) hdepth

/-- The tokens of a session are read from what is printed. -/
theorem Program.parse?_issued (t : IssuedToken) :
    parse? (prettyLines t.toJson).toList = some t.toJson :=
  parse?_prettyLines t.integral_toJson t.depth_toJson_le

/-- What is told about an accepted token is read from what is printed. -/
theorem Program.parse?_inspection (t : AccessToken) :
    parse? (prettyLines (inspection t)).toList = some (inspection t) := by
  apply parse?_prettyLines (integral_inspection t)
  have hclaims : Tree.depthItems (t.claims.map Claim.toJson) ≤ 1 := by
    refine Tree.depthItems_le fun v hv => ?_
    obtain ⟨c, _, rfl⟩ := List.mem_map.mp hv
    simp [Claim.toJson, Tree.depth, Tree.depthMembers]
  simp only [inspection, Tree.depth, Tree.depthMembers, Value.ofWord, maxDepth]
  omega

end Credentials
