import Credentials.Claim
import Credentials.Proofs.Bytes.Utf8
import Credentials.Proofs.Json.Objects

/-!
# Claims through an object

Claims that are put into an object as members and taken out again come back in the order of their
names. No claim is lost or added, and the values of one name keep their order.
-/

namespace Credentials

open Credentials.Json

namespace Claim

/-- The values of a name among claims, in their order. -/
def valuesOf (name : String) (claims : List Claim) : List String :=
  (claims.filter (·.name = name)).map (·.value)

/-- How often a name occurs among claims. -/
def count (name : String) (claims : List Claim) : Nat := (valuesOf name claims).length

/-- The values of a name after one more claim in front. -/
theorem valuesOf_cons (name : String) (c : Claim) (claims : List Claim) :
    valuesOf name (c :: claims) =
      if c.name = name then c.value :: valuesOf name claims else valuesOf name claims := by
  by_cases h : c.name = name <;> simp [valuesOf, h]

/-- A name that no claim has is without values. -/
theorem valuesOf_eq_nil {name : String} {claims : List Claim} (h : ∀ c ∈ claims, c.name ≠ name) :
    valuesOf name claims = [] := by
  simpa [valuesOf] using h

/-- The claims with a name are made up of it and its values. -/
theorem map_mk_valuesOf (name : String) (claims : List Claim) :
    (valuesOf name claims).map (Claim.mk name) = claims.filter (·.name = name) := by
  rw [valuesOf, List.map_map]
  refine (List.map_congr_left fun c hc => ?_).trans (List.map_id _)
  have hname : c.name = name := by simpa using (List.mem_filter.mp hc).2
  simp [← hname]

end Claim

/-! ## Into an object -/

namespace Json.Object

/-- What a member holds after several values have been given to it. -/
def appendValues (v? : Option Value) (values : List String) : Option Value :=
  values.foldl (fun v? value => some (appendValue value v?)) v?

/-- A name has what it had before and the values of its claims. -/
theorem get?_addClaims (o : Object) (claims : List Claim) (name : String) :
    (o.addClaims claims).get? name = appendValues (o.get? name) (Claim.valuesOf name claims) := by
  induction claims generalizing o with
  | nil => rfl
  | cons c claims ih =>
    rw [addClaims, List.foldl_cons, ← addClaims, ih, addClaim, get?_insert, Claim.valuesOf_cons]
    by_cases h : c.name = name
    · rw [if_pos h.symm, if_pos h, h]
      rfl
    · rw [if_neg (Ne.symm h), if_neg h]

/-- Values that are given to an array come after its items. -/
theorem appendValues_array (items : List Value) (values : List String) :
    appendValues (some (.array items)) values =
      some (.array (items ++ values.map Tree.string)) := by
  induction values generalizing items with
  | nil => simp [appendValues]
  | cons value values ih =>
    have hstep : appendValues (some (.array items)) (value :: values) =
        appendValues (some (.array (items ++ [.string value]))) values := rfl
    rw [hstep, ih, List.map_cons, List.append_assoc, List.singleton_append]

/-- Values that are given to what is no array come after it, in an array with it. -/
theorem appendValues_wrapped {held : Value} (h : ∀ items, held ≠ .array items) (value : String)
    (values : List String) : appendValues (some held) (value :: values) =
      some (.array (held :: (value :: values).map Tree.string)) := by
  have hfirst : appendValue value (some held) = .array [held, .string value] := by
    cases held with
    | array items => exact absurd rfl (h items)
    | _ => rfl
  have hstep : appendValues (some held) (value :: values) =
      appendValues (some (appendValue value (some held))) values := rfl
  rw [hstep, hfirst, appendValues_array]
  rfl

/-- One value is held as it is. -/
theorem appendValues_singleton (value : String) :
    appendValues none [value] = some (.string value) := rfl

/-- Several values are held in an array. -/
theorem appendValues_cons_cons (first second : String) (values : List String) :
    appendValues none (first :: second :: values) =
      some (.array ((first :: second :: values).map Tree.string)) := by
  have hstep : appendValues none (first :: second :: values) =
      appendValues (some (.array [.string first, .string second])) values := rfl
  rw [hstep, appendValues_array]
  rfl

/-- Nothing is held only if there are no values. -/
theorem appendValues_eq_none_iff {values : List String} :
    appendValues none values = none ↔ values = [] := by
  cases values with
  | nil => simp [appendValues]
  | cons first values =>
    cases values with
    | nil => simp [appendValues_singleton]
    | cons second values => simp [appendValues_cons_cons]

/-- What is held is one value, or an array of several. -/
theorem eq_of_appendValues {values : List String} {v : Value}
    (h : appendValues none values = some v) : (∃ s, values = [s] ∧ v = .string s) ∨
      (1 < values.length ∧ v = .array (values.map .string)) := by
  cases values with
  | nil => simp [appendValues] at h
  | cons first values =>
    cases values with
    | nil =>
      rw [appendValues_singleton, Option.some_inj] at h
      exact .inl ⟨first, rfl, h.symm⟩
    | cons second values =>
      rw [appendValues_cons_cons, Option.some_inj] at h
      exact .inr ⟨by simp, h.symm⟩

end Json.Object

/-! ## Out of an object -/

namespace Claim

open Object

/-- The claims of a member have its name. -/
theorem name_of_mem_ofMember {name : String} {v : Value} {c : Claim} (h : c ∈ ofMember name v) :
    c.name = name := by
  unfold ofMember at h
  split at h
  · obtain ⟨_, _, rfl⟩ := List.mem_map.mp h
    rfl
  · obtain ⟨_, _, rfl⟩ := List.mem_map.mp h
    rfl

/-- A member that is given a value makes up one claim more, after those that it made up before. -/
theorem ofMember_appendValue (name value : String) (v? : Option Value) :
    ofMember name (appendValue value v?) =
      (v?.map (ofMember name)).getD [] ++ [⟨name, value⟩] := by
  cases v? with
  | none => rfl
  | some v =>
    cases v with
    | array items => simp [appendValue, ofMember, Value.scalarText?]
    | null | bool _ | number _ | string _ | object _ => rfl

/-- A member that is given several values makes up claims with them, after those before. -/
theorem ofMember_appendValues (name : String) (v? : Option Value) (values : List String) :
    ((appendValues v? values).map (ofMember name)).getD [] =
      (v?.map (ofMember name)).getD [] ++ values.map (Claim.mk name) := by
  induction values generalizing v? with
  | nil => simp [appendValues]
  | cons value values ih =>
    have hstep : appendValues v? (value :: values) =
        appendValues (some (appendValue value v?)) values := rfl
    rw [hstep, ih, Option.map_some, Option.getD_some, ofMember_appendValue, List.append_assoc,
      List.singleton_append, List.map_cons]

/-- Among the claims of an object, those with a name are the claims of its member. -/
theorem filter_ofObject (o : Object) (name : String) :
    (ofObject o).filter (·.name = name) = ((o.get? name).map (ofMember name)).getD [] := by
  obtain ⟨members, hsorted⟩ := o
  simp only [ofObject, get?]
  induction members with
  | nil => rfl
  | cons m members ih =>
    obtain ⟨key, v⟩ := m
    obtain ⟨_, hrest⟩ := List.pairwise_cons.mp hsorted
    rw [List.flatMap_cons, List.filter_append, ih hrest, lookup_cons]
    by_cases h : name = key
    · subst h
      have hall : (ofMember name v).filter (·.name = name) = ofMember name v :=
        List.filter_eq_self.mpr fun c hc => decide_eq_true (name_of_mem_ofMember hc)
      simp [lookup_eq_none_iff.mpr hsorted.countName_eq_zero, hall]
    · have hnil : (ofMember key v).filter (·.name = name) = [] := by
        rw [List.filter_eq_nil_iff]
        intro c hc
        rw [name_of_mem_ofMember hc]
        simpa using Ne.symm h
      rw [hnil, List.nil_append, if_neg h]

/-- A claim of an object is one of the member with its name. -/
theorem mem_ofObject {o : Object} {c : Claim} :
    c ∈ ofObject o ↔ ∃ v, o.get? c.name = some v ∧ c ∈ ofMember c.name v := by
  have hfilter : c ∈ ofObject o ↔ c ∈ (ofObject o).filter (·.name = c.name) := by simp
  rw [hfilter, filter_ofObject]
  cases o.get? c.name <;> simp

/-- A name occurs among the claims of an object as often as its member has values. -/
theorem count_ofObject (o : Object) (name : String) :
    count name (ofObject o) = (((o.get? name).map (ofMember name)).getD []).length := by
  rw [count, valuesOf, List.length_map, filter_ofObject]

/-- Only an array makes up several claims. -/
theorem length_ofMember_le {name : String} {v : Value} (h : ∀ items, v ≠ .array items) :
    (ofMember name v).length ≤ 1 := by
  cases v with
  | array items => exact absurd rfl (h items)
  | _ => simp [ofMember, Value.scalarText?]

/-- The claims of an object are in the order of their names. -/
theorem pairwise_ofObject (o : Object) : (ofObject o).Pairwise (·.name ≤ ·.name) := by
  rw [ofObject, List.pairwise_flatMap]
  constructor
  · intro m _
    refine List.Pairwise.imp_of_mem ?_ (List.pairwise_of_forall (R := fun _ _ => True) (by simp))
    intro a b ha hb _
    exact Std.le_of_eq ((name_of_mem_ofMember ha).trans (name_of_mem_ofMember hb).symm)
  · refine o.sorted.imp fun {m n} hlt a ha b hb => ?_
    rw [name_of_mem_ofMember ha, name_of_mem_ofMember hb]
    exact Std.le_of_lt hlt

/-! ## There and back -/

/-- Claims in the order of their names that agree for each name are the same. -/
theorem eq_of_filter_eq {claims others : List Claim} (hclaims : claims.Pairwise (·.name ≤ ·.name))
    (hothers : others.Pairwise (·.name ≤ ·.name))
    (h : ∀ name, claims.filter (·.name = name) = others.filter (·.name = name)) :
    claims = others := by
  induction claims generalizing others with
  | nil =>
    cases others with
    | nil => rfl
    | cons d others => simpa using h d.name
  | cons c claims ih =>
    cases others with
    | nil => simpa using h c.name
    | cons d others =>
      obtain ⟨hfirst, hrest⟩ := List.pairwise_cons.mp hclaims
      obtain ⟨hfirst', hrest'⟩ := List.pairwise_cons.mp hothers
      -- Each of the first claims occurs on the other side, so that neither name comes earlier.
      have hc : c ∈ d :: others := by
        have hmem : c ∈ (d :: others).filter (·.name = c.name) := by rw [← h]; simp
        exact (List.mem_filter.mp hmem).1
      have hd : d ∈ c :: claims := by
        have hmem : d ∈ (c :: claims).filter (·.name = d.name) := by rw [h]; simp
        exact (List.mem_filter.mp hmem).1
      have hle : d.name ≤ c.name := by
        rcases List.mem_cons.mp hc with rfl | hc
        · exact String.le_refl _
        · exact hfirst' c hc
      have hge : c.name ≤ d.name := by
        rcases List.mem_cons.mp hd with rfl | hd
        · exact String.le_refl _
        · exact hfirst d hd
      have hname : c.name = d.name := String.le_antisymm hge hle
      have hheads := h c.name
      rw [List.filter_cons_of_pos (by simp), List.filter_cons_of_pos (by simp [hname])] at hheads
      obtain ⟨rfl, _⟩ := List.cons.inj hheads
      have htails (name : String) :
          claims.filter (·.name = name) = others.filter (·.name = name) := by
        have hname := h name
        by_cases hc : c.name = name <;> simpa [hc] using hname
      rw [ih hrest hrest' htails]

/-- Whether the name of a claim, as UTF-8, does not come after that of another. -/
def precedes (c d : Claim) : Bool := Bytes.utf8 c.name.toList ≤ Bytes.utf8 d.name.toList

/-- The order of claims is that of their names. -/
theorem precedes_iff {c d : Claim} : precedes c d ↔ c.name ≤ d.name := by
  rw [precedes, decide_eq_true_iff, Bytes.utf8_le_utf8_iff]

/-- The order of claims is transitive. -/
theorem precedes_trans (c d e : Claim) (hcd : precedes c d) (hde : precedes d e) :
    precedes c e :=
  precedes_iff.mpr (String.le_trans (precedes_iff.mp hcd) (precedes_iff.mp hde))

/-- Any two claims can be put in order. -/
theorem precedes_total (c d : Claim) : precedes c d || precedes d c := by
  rw [Bool.or_eq_true, precedes_iff, precedes_iff]
  exact String.le_total c.name d.name

/-- Sorting by name keeps the order among claims with one name. -/
theorem filter_mergeSort (claims : List Claim) (name : String) :
    (claims.mergeSort precedes).filter (·.name = name) = claims.filter (·.name = name) := by
  have hordered : (claims.filter (·.name = name)).Pairwise fun c d => precedes c d := by
    refine List.Pairwise.imp_of_mem ?_ (List.pairwise_of_forall (R := fun _ _ => True) (by simp))
    intro c d hc hd _
    have hcname : c.name = name := by simpa using (List.mem_filter.mp hc).2
    have hdname : d.name = name := by simpa using (List.mem_filter.mp hd).2
    exact precedes_iff.mpr (Std.le_of_eq (hcname.trans hdname.symm))
  have hsublist := (List.sublist_mergeSort precedes_trans precedes_total hordered
    List.filter_sublist).filter (·.name = name)
  simp only [List.filter_filter, Bool.and_self] at hsublist
  have hlength := ((List.mergeSort_perm claims precedes).filter (·.name = name)).length_eq
  exact (hsublist.eq_of_length hlength.symm).symm

/-- The claims of an object that is given claims are its own and then these, sorted by name. -/
theorem ofObject_addClaims (o : Object) (claims : List Claim) :
    ofObject (o.addClaims claims) = (ofObject o ++ claims).mergeSort precedes := by
  apply eq_of_filter_eq (pairwise_ofObject _)
  · exact (List.pairwise_mergeSort precedes_trans precedes_total _).imp precedes_iff.mp
  · intro name
    rw [filter_mergeSort, filter_ofObject, get?_addClaims, ofMember_appendValues, ← filter_ofObject,
      map_mk_valuesOf, List.filter_append]

/-- Claims that go through an object come back sorted by name. -/
theorem ofObject_addClaims_empty (claims : List Claim) :
    ofObject (empty.addClaims claims) = claims.mergeSort precedes :=
  ofObject_addClaims empty claims

/-- The claims of an object are sorted by name already. -/
theorem mergeSort_ofObject (o : Object) : (ofObject o).mergeSort precedes = ofObject o :=
  List.mergeSort_of_pairwise ((pairwise_ofObject o).imp precedes_iff.mpr)

end Claim

end Credentials
