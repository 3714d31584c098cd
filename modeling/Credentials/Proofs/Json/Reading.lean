import Credentials.Json.Value
import Mathlib.Data.List.Forall2

/-!
# Reading trees as values

The items of an array and the members of an object are read one by one, and nothing else than an
array or an object is read as one.
-/

namespace Credentials.Json

/-- Members are read one by one. -/
def AreRead (trees : List (StringLiteral × Syntax)) (members : List (String × Value)) : Prop :=
  List.Forall₂ (fun t m => t.1.text? = some m.1 ∧ Value.ofSyntax? t.2 = some m.2) trees members

/-- Members are read together exactly if they are read one by one. -/
theorem ofMembers?_eq_some_iff {trees : List (StringLiteral × Syntax)}
    {members : List (String × Value)} :
    Value.ofMembers? trees = some members ↔ AreRead trees members := by
  constructor
  · intro h
    induction trees generalizing members with
    | nil =>
      obtain rfl := Option.some.inj h
      exact .nil
    | cons t trees ih =>
      obtain ⟨key, tree⟩ := t
      simp only [Value.ofMembers?, bind, Option.bind_eq_some_iff, pure, Option.some_inj] at h
      obtain ⟨name, hname, v, hv, rest, hrest, rfl⟩ := h
      exact .cons ⟨hname, hv⟩ (ih hrest)
  · intro h
    induction h with
    | nil => rfl
    | cons hhead _ ih => simp [Value.ofMembers?, hhead.1, hhead.2, ih]

/-- Items are read together exactly if they are read one by one. -/
theorem ofItems?_eq_some_iff {trees : List Syntax} {items : List Value} :
    Value.ofItems? trees = some items ↔
      List.Forall₂ (fun t v => Value.ofSyntax? t = some v) trees items := by
  constructor
  · intro h
    induction trees generalizing items with
    | nil =>
      obtain rfl := Option.some.inj h
      exact .nil
    | cons t trees ih =>
      simp only [Value.ofItems?, bind, Option.bind_eq_some_iff, pure, Option.some_inj] at h
      obtain ⟨v, hv, rest, hrest, rfl⟩ := h
      exact .cons hv (ih hrest)
  · intro h
    induction h with
    | nil => rfl
    | cons hhead _ ih => simp [Value.ofItems?, hhead, ih]

/-- Only an array is read as an array. -/
theorem exists_trees_of_array {tree : Syntax} {items : List Value}
    (h : Value.ofSyntax? tree = some (.array items)) : ∃ trees, tree = .array trees := by
  cases tree with
  | array trees => exact ⟨trees, rfl⟩
  | _ => simp [Value.ofSyntax?] at h

/-- Only an object is read as an object, from its members. -/
theorem exists_trees_of_object {tree : Syntax} {members : List (String × Value)}
    (h : Value.ofSyntax? tree = some (.object members)) :
    ∃ trees, tree = .object trees ∧ AreRead trees members := by
  cases tree with
  | object trees =>
    rw [Value.ofSyntax?, Option.map_eq_some_iff] at h
    obtain ⟨_, hmembers, heq⟩ := h
    cases heq
    exact ⟨trees, rfl, ofMembers?_eq_some_iff.mp hmembers⟩
  | _ => simp [Value.ofSyntax?] at h

section

variable {trees : List (StringLiteral × Syntax)} {members : List (String × Value)}

/-- The value of each member has been read. -/
theorem AreRead.exists_value (h : AreRead trees members) :
    ∀ t ∈ trees, ∃ v, Value.ofSyntax? t.2 = some v := by
  induction h with
  | nil => simp
  | cons hhead _ ih => exact List.forall_mem_cons.mpr ⟨⟨_, hhead.2⟩, ih⟩

/-- The value of each member has been read from something. -/
theorem AreRead.exists_tree (h : AreRead trees members) :
    ∀ m ∈ members, ∃ tree, Value.ofSyntax? tree = some m.2 := by
  induction h with
  | nil => simp
  | cons hhead _ ih => exact List.forall_mem_cons.mpr ⟨⟨_, hhead.2⟩, ih⟩

end

end Credentials.Json
