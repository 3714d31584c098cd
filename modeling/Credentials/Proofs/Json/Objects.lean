import Credentials.Json.Object
import Credentials.Json.Shape
import Mathlib.Data.List.Sort

/-!
# Objects by name

An object is determined by the value that each name has in it. Members given in order lead to the
object in which every name has its last value.
-/

namespace Credentials.Json

/-- The value of a name among members with one more in front. -/
theorem lookup_cons (name key : String) (v : Value) (members : List (String × Value)) :
    ((key, v) :: members).lookup name = if name = key then some v else members.lookup name := by
  rw [List.lookup_cons]
  by_cases h : name = key
  · rw [beq_iff_eq.mpr h, if_pos h]
  · rw [beq_eq_false_iff_ne.mpr h, if_neg h]

/-! ## Members in order -/

/-- How often a name occurs among members with one more in front. -/
theorem countName_cons {α : Type} (name key : String) (v : α) (members : List (String × α)) :
    countName name ((key, v) :: members) =
      if key = name then countName name members + 1 else countName name members := by
  by_cases h : key = name <;> simp [countName, h]

/-- A name that does not occur has no value. -/
theorem lookup_eq_none_iff {name : String} {members : List (String × Value)} :
    members.lookup name = none ↔ countName name members = 0 := by
  induction members with
  | nil => simp [countName]
  | cons m members ih =>
    obtain ⟨key, v⟩ := m
    rw [lookup_cons, countName_cons]
    by_cases h : name = key
    · simp [h]
    · rw [if_neg h, if_neg (Ne.symm h), ih]

/-- A name that does not occur is not the name of a member. -/
theorem notMem_of_countName_eq_zero {name : String} {v : Value} {members : List (String × Value)}
    (h : countName name members = 0) : (name, v) ∉ members := by
  intro hmem
  rw [countName, List.length_eq_zero_iff, List.filter_eq_nil_iff] at h
  exact h _ hmem (beq_self_eq_true name)

/-- A name that occurs at most once has the value of its member. -/
theorem lookup_eq_some_iff {name : String} {v : Value} {members : List (String × Value)}
    (h : countName name members ≤ 1) : members.lookup name = some v ↔ (name, v) ∈ members := by
  induction members with
  | nil => simp
  | cons m members ih =>
    obtain ⟨key, w⟩ := m
    rw [countName_cons] at h
    rw [lookup_cons, List.mem_cons, Prod.mk.injEq]
    by_cases hkey : name = key
    · subst hkey
      rw [if_pos rfl] at h
      have hnot : (name, v) ∉ members := notMem_of_countName_eq_zero (by omega)
      simp [hnot, eq_comm]
    · rw [if_neg (Ne.symm hkey)] at h
      simp [hkey, ih h]

/-- The order of members does not matter for a name that occurs at most once. -/
theorem lookup_reverse {name : String} {members : List (String × Value)}
    (h : countName name members ≤ 1) : members.reverse.lookup name = members.lookup name := by
  have hreverse : countName name members.reverse ≤ 1 := by
    rwa [countName, List.filter_reverse, List.length_reverse, ← countName]
  ext v
  rw [lookup_eq_some_iff hreverse, lookup_eq_some_iff h, List.mem_reverse]

/-! ## Sorted members -/

/-- The value of a name after an insertion. -/
theorem lookup_insertMember (name other : String) (v : Value) (members : List (String × Value)) :
    (insertMember name v members).lookup other =
      if other = name then some v else members.lookup other := by
  induction members with
  | nil => rw [insertMember, lookup_cons]
  | cons m members ih =>
    obtain ⟨key, w⟩ := m
    rw [insertMember]
    split
    · rw [lookup_cons]
    · split
      · rename_i hkey
        rw [lookup_cons, lookup_cons, hkey]
        split <;> rfl
      · rename_i hkey
        rw [lookup_cons, lookup_cons, ih]
        by_cases h : other = key
        · have hne : key ≠ name := fun he => hkey he.symm
          simp [h, hne]
        · simp [h]

/-- After the first of sorted members its name does not occur again. -/
theorem SortedByName.countName_eq_zero {name : String} {v : Value}
    {members : List (String × Value)} (hsorted : SortedByName ((name, v) :: members)) :
    countName name members = 0 := by
  obtain ⟨hlt, _⟩ := List.pairwise_cons.mp hsorted
  rw [countName, List.length_eq_zero_iff, List.filter_eq_nil_iff]
  intro m hm heq
  have hname : m.1 = name := by simpa using heq
  exact String.lt_irrefl name (by simpa [hname] using hlt m hm)

/-- Sorted members have each name at most once. -/
theorem SortedByName.countName_le {members : List (String × Value)}
    (hsorted : SortedByName members) (name : String) : countName name members ≤ 1 := by
  induction members with
  | nil => simp [countName]
  | cons m members ih =>
    obtain ⟨key, v⟩ := m
    obtain ⟨_, hrest⟩ := List.pairwise_cons.mp hsorted
    rw [countName_cons]
    by_cases h : key = name
    · subst h
      rw [if_pos rfl, hsorted.countName_eq_zero]
    · rw [if_neg h]
      exact ih hrest

namespace Object

/-- The object without members has no values. -/
@[simp] theorem get?_empty (name : String) : empty.get? name = none := rfl

/-- The value of a name after a member has been set. -/
@[simp] theorem get?_insert (o : Object) (name other : String) (v : Value) :
    (o.insert name v).get? other = if other = name then some v else o.get? other :=
  lookup_insertMember name other v o.members

/-- A name has the value of its member. -/
theorem get?_eq_some_iff {o : Object} {name : String} {v : Value} :
    o.get? name = some v ↔ (name, v) ∈ o.members :=
  lookup_eq_some_iff (o.sorted.countName_le name)

/-- A name that is not left out keeps its value. -/
@[simp] theorem get?_eraseAll (o : Object) (p : String → Bool) (name : String) :
    (o.eraseAll p).get? name = if p name then none else o.get? name := by
  ext v
  rw [get?_eq_some_iff, eraseAll, List.mem_filter, ← get?_eq_some_iff]
  by_cases h : p name <;> simp [h]

/-- Objects in which every name has the same value are the same. -/
theorem ext_get? {o p : Object} (h : ∀ name, o.get? name = p.get? name) : o = p := by
  have hmem (m : String × Value) : m ∈ o.members ↔ m ∈ p.members := by
    rw [← get?_eq_some_iff, ← get?_eq_some_iff, h m.1]
  have hirrefl : Std.Irrefl fun m n : String × Value => m.1 < n.1 :=
    ⟨fun m => String.lt_irrefl m.1⟩
  have hantisymm : Std.Antisymm fun m n : String × Value => m.1 < n.1 :=
    ⟨fun m n hmn hnm => absurd hnm (String.lt_asymm hmn)⟩
  have hmembers : o.members = p.members := List.Pairwise.eq_of_mem_iff o.sorted p.sorted hmem
  cases o
  cases p
  simpa using hmembers

/-- Members given in order leave every name with its last value. -/
theorem get?_ofMembers (members : List (String × Value)) (name : String) :
    (ofMembers members).get? name = members.reverse.lookup name := by
  have hfold (o : Object) : (members.foldl (fun o m => o.insert m.1 m.2) o).get? name =
      (members.reverse.lookup name).or (o.get? name) := by
    induction members generalizing o with
    | nil => simp
    | cons m members ih =>
      obtain ⟨key, v⟩ := m
      rw [List.foldl_cons, ih, get?_insert, List.reverse_cons, List.lookup_append, lookup_cons]
      by_cases h : name = key <;> simp [h]
  rw [ofMembers, hfold, get?_empty, Option.or_none]

/-- The members of an object lead to it. -/
@[simp] theorem ofMembers_members (o : Object) : ofMembers o.members = o :=
  ext_get? fun name => by rw [get?_ofMembers, lookup_reverse (o.sorted.countName_le name), get?]

end Object

end Credentials.Json
