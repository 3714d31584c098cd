import Credentials.Json.Value

/-!
# JSON objects as maps

The members of an object by name, each name once, in the order of their code points, which is also
the order of their UTF-8 bytes. Where an object repeats a name, its last member counts.
-/

namespace Credentials.Json

/-- Replaces the member with a name, or puts it in its place. -/
def insertMember (name : String) (v : Value) : List (String × Value) → List (String × Value)
  | [] => [(name, v)]
  | (other, w) :: members =>
    if name < other then (name, v) :: (other, w) :: members
    else if name = other then (name, v) :: members
    else (other, w) :: insertMember name v members

/-- The names after an insertion. -/
theorem mem_insertMember {name : String} {v : Value} {members : List (String × Value)}
    {m : String × Value} (h : m ∈ insertMember name v members) : m = (name, v) ∨ m ∈ members := by
  induction members with
  | nil => simp_all [insertMember]
  | cons other members ih =>
    simp only [insertMember] at h
    split at h
    · simpa using h
    · split at h
      · simp only [List.mem_cons] at h ⊢
        exact h.imp_right Or.inr
      · simp only [List.mem_cons] at h ⊢
        rcases h with h | h
        · exact Or.inr (Or.inl h)
        · exact (ih h).imp_right Or.inr

/-- Members whose names strictly increase. -/
def SortedByName (members : List (String × Value)) : Prop := members.Pairwise (·.1 < ·.1)

/-- An insertion keeps the order. -/
theorem SortedByName.insertMember {members : List (String × Value)} (h : SortedByName members)
    (name : String) (v : Value) : SortedByName (insertMember name v members) := by
  induction members with
  | nil => simp [SortedByName, Json.insertMember]
  | cons other members ih =>
    obtain ⟨hlt, hrest⟩ := List.pairwise_cons.mp h
    simp only [Json.insertMember]
    split
    · rename_i hname
      refine List.pairwise_cons.mpr ⟨fun m hm => ?_, h⟩
      rcases List.mem_cons.mp hm with rfl | hm
      · exact hname
      · exact String.lt_trans hname (hlt m hm)
    · split
      · rename_i hname
        exact List.pairwise_cons.mpr ⟨fun m hm => by simpa [hname] using hlt m hm, hrest⟩
      · rename_i hnot hne
        refine List.pairwise_cons.mpr ⟨fun m hm => ?_, ih hrest⟩
        rcases mem_insertMember hm with rfl | hm
        · exact Std.lt_of_le_of_ne (String.not_lt.mp hnot) (Ne.symm hne)
        · exact hlt m hm

/-- The members of an object by name. -/
structure Object where
  members : List (String × Value)
  sorted : SortedByName members

namespace Object

/-- The object without members. -/
def empty : Object := ⟨[], List.Pairwise.nil⟩

/-- Sets the member with a name. -/
def insert (o : Object) (name : String) (v : Value) : Object :=
  ⟨insertMember name v o.members, o.sorted.insertMember name v⟩

/-- The value of the member with a name. -/
def get? (o : Object) (name : String) : Option Value := o.members.lookup name

/-- Leaves out the members whose name satisfies a condition. -/
def eraseAll (o : Object) (p : String → Bool) : Object :=
  ⟨o.members.filter fun m => !p m.1, o.sorted.sublist List.filter_sublist⟩

/-- The map that members given in order lead to; a later one replaces an earlier one. -/
def ofMembers (members : List (String × Value)) : Object :=
  members.foldl (fun o m => o.insert m.1 m.2) empty

end Object

end Credentials.Json
