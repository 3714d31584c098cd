import Credentials.Proofs.Claim

/-!
# Claims given to an object

Claims are given to an object one after another, and a member may change its shape twice on the way:
from nothing to a string, and from a string to an array. What comes of it in the end can be said for
each name by itself, from what the name held at first and from its values in the order in which they
are given. The claims of the object are then its own and the new ones, sorted by name.
-/

namespace Credentials

open Credentials.Json

namespace Json.Object

variable {before after other : Object} {claims : List Claim}

/-- What an object has become when all claims have been given to it. -/
structure IsMerge (before : Object) (claims : List Claim) (after : Object) : Prop where
  /-- A name without claims holds what it held. -/
  unnamed : ∀ name, (∀ c ∈ claims, c.name ≠ name) → after.get? name = before.get? name
  /-- A new name with one value holds it as it is. -/
  single : ∀ name value, before.get? name = none → Claim.valuesOf name claims = [value] →
    after.get? name = some (.string value)
  /-- A new name with several values holds an array of them. -/
  several : ∀ name, before.get? name = none → 1 < Claim.count name claims →
    after.get? name = some (.array ((Claim.valuesOf name claims).map .string))
  /-- An array has the values of its name after its items. -/
  extended : ∀ name items, before.get? name = some (.array items) →
    after.get? name = some (.array (items ++ (Claim.valuesOf name claims).map .string))
  /-- What else a name with values held comes before them, in an array with them. -/
  wrapped : ∀ name held, before.get? name = some held → (∀ items, held ≠ .array items) →
    Claim.valuesOf name claims ≠ [] →
    after.get? name = some (.array (held :: (Claim.valuesOf name claims).map .string))

/-- Giving claims to an object makes of it what it has to become. -/
theorem isMerge_addClaims (before : Object) (claims : List Claim) :
    before.IsMerge claims (before.addClaims claims) where
  unnamed name h := by
    rw [get?_addClaims, Claim.valuesOf_eq_nil h]
    rfl
  single name value hnew hvalue := by
    rw [get?_addClaims, hnew, hvalue, appendValues_singleton]
  several name hnew hseveral := by
    rw [Claim.count] at hseveral
    rw [get?_addClaims, hnew]
    cases hvalues : Claim.valuesOf name claims with
    | nil => simp [hvalues] at hseveral
    | cons first values =>
      cases values with
      | nil => simp [hvalues] at hseveral
      | cons second values => exact appendValues_cons_cons first second values
  extended name items harray := by
    rw [get?_addClaims, harray, appendValues_array]
  wrapped name held hheld hother hvalues := by
    obtain ⟨value, values, hvalues⟩ := List.exists_cons_of_ne_nil hvalues
    rw [get?_addClaims, hheld, hvalues, appendValues_wrapped hother]

/-- The cases leave no choice: what a name holds in the end is decided. -/
theorem IsMerge.get?_eq (hafter : before.IsMerge claims after)
    (hother : before.IsMerge claims other) (name : String) : after.get? name = other.get? name := by
  by_cases hunnamed : ∀ c ∈ claims, c.name ≠ name
  · rw [hafter.unnamed name hunnamed, hother.unnamed name hunnamed]
  have hvalues : Claim.valuesOf name claims ≠ [] := by
    simpa [Claim.valuesOf] using hunnamed
  cases hbefore : before.get? name with
  | none =>
    by_cases hseveral : 1 < Claim.count name claims
    · rw [hafter.several name hbefore hseveral, hother.several name hbefore hseveral]
    · have hcount : Claim.count name claims = 1 := by
        have hpos := List.length_pos_iff.mpr hvalues
        rw [← Claim.count] at hpos
        omega
      obtain ⟨value, hvalue⟩ := List.length_eq_one_iff.mp hcount
      rw [hafter.single name value hbefore hvalue, hother.single name value hbefore hvalue]
  | some held =>
    by_cases harray : ∃ items, held = .array items
    · obtain ⟨items, rfl⟩ := harray
      rw [hafter.extended name items hbefore, hother.extended name items hbefore]
    · have hnone : ∀ items, held ≠ .array items := fun items h => harray ⟨items, h⟩
      rw [hafter.wrapped name held hbefore hnone hvalues,
        hother.wrapped name held hbefore hnone hvalues]

/-- Exactly one object is what an object has to become. -/
theorem addClaims_eq_iff : before.addClaims claims = after ↔ before.IsMerge claims after := by
  constructor
  · rintro rfl
    exact isMerge_addClaims before claims
  · intro h
    exact ext_get? (isMerge_addClaims before claims |>.get?_eq h)

end Json.Object

namespace Claim

open Object

/--
Giving claims to an object is the same as saying for each name what it holds in the end. The claims
of the object are then the ones that it had and the new ones, sorted by name, so that claims which
go through an empty object come back sorted by name, and claims that come from an object come back
as they are.
-/
theorem addClaims_merges (o : Object) (claims : List Claim) :
    (∀ after, o.addClaims claims = after ↔ o.IsMerge claims after) ∧
      ofObject (o.addClaims claims) = (ofObject o ++ claims).mergeSort precedes ∧
      ofObject (empty.addClaims claims) = claims.mergeSort precedes ∧
      ofObject (empty.addClaims (ofObject o)) = ofObject o := by
  refine ⟨fun after => addClaims_eq_iff, ofObject_addClaims o claims,
    ofObject_addClaims_empty claims, ?_⟩
  rw [ofObject_addClaims_empty, mergeSort_ofObject]

/-- A null is kept in front of its new values, and an array in front of further ones. -/
example : ((ofMembers [("aud", .array [.string "a"]), ("nbf", .null)]).addClaims
    [⟨"role", "b"⟩, ⟨"nbf", "7"⟩, ⟨"aud", "c"⟩, ⟨"role", "a"⟩, ⟨"sub", "42"⟩]).members =
    [("aud", .array [.string "a", .string "c"]), ("nbf", .array [.null, .string "7"]),
      ("role", .array [.string "b", .string "a"]), ("sub", .string "42")] := by
  decide

end Claim

end Credentials
