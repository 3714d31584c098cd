import Credentials.Proofs.Json.Objects
import Credentials.Proofs.Json.Scalars

/-!
# Members as they are written

What the reading by name takes from the members of an object, told from the way in which they are
written: the last member with a name counts, and its claims are the texts that its value or the
items of its value stand for.
-/

namespace Credentials.Json

/-- A value is the last one under a name among members as they are written. -/
def IsLast (name : String) (tree : Syntax) (members : List (StringLiteral × Syntax)) : Prop :=
  ∃ before key after, members = before ++ (key, tree) :: after ∧ key.text? = some name ∧
    ∀ m ∈ after, m.1.text? ≠ some name

/-- The value that is the last one under a name is that of a member. -/
theorem IsLast.exists_mem {name : String} {tree : Syntax} {members : List (StringLiteral × Syntax)}
    (h : IsLast name tree members) : ∃ key, (key, tree) ∈ members := by
  obtain ⟨before, key, after, rfl, _, _⟩ := h
  exact ⟨key, by simp⟩

/-- A member in front of others is the last one with its name if none of them has the name. -/
theorem isLast_cons_iff {name : String} {tree : Syntax} {m : StringLiteral × Syntax}
    {members : List (StringLiteral × Syntax)} : IsLast name tree (m :: members) ↔
      IsLast name tree members ∨
        (∀ n ∈ members, n.1.text? ≠ some name) ∧ m.1.text? = some name ∧ m.2 = tree := by
  constructor
  · rintro ⟨before, key, after, heq, hkey, hafter⟩
    cases before with
    | nil =>
      obtain ⟨rfl, rfl⟩ := List.cons.inj heq
      exact .inr ⟨hafter, hkey, rfl⟩
    | cons first before =>
      obtain ⟨rfl, rfl⟩ := List.cons.inj heq
      exact .inl ⟨before, key, after, rfl, hkey, hafter⟩
  · rintro (⟨before, key, after, rfl, hkey, hafter⟩ | ⟨hafter, hkey, rfl⟩)
    · exact ⟨m :: before, key, after, rfl, hkey, hafter⟩
    · exact ⟨[], m.1, members, rfl, hkey, hafter⟩

/-! ## What has been read -/

section

variable {trees : List (StringLiteral × Syntax)} {members : List (String × Value)}

/-- A name has no value if no member is written with it. -/
theorem AreRead.lookup_reverse_eq_none_iff (h : AreRead trees members) {name : String} :
    members.reverse.lookup name = none ↔ ∀ t ∈ trees, t.1.text? ≠ some name := by
  induction h with
  | nil => simp
  | @cons t m trees members hhead _ ih =>
    obtain ⟨key, v⟩ := m
    rw [List.reverse_cons, List.lookup_append, Option.or_eq_none_iff, ih, lookup_cons,
      List.forall_mem_cons, hhead.1, and_comm]
    by_cases hname : name = key
    · simp [hname]
    · simp [hname, Ne.symm hname]

/-- A name has the value of the last member that is written with it. -/
theorem AreRead.lookup_reverse_eq_some_iff (h : AreRead trees members) {name : String}
    {v : Value} : members.reverse.lookup name = some v ↔
      ∃ tree, IsLast name tree trees ∧ Value.ofSyntax? tree = some v := by
  induction h with
  | nil => simp [IsLast]
  | @cons t m trees members hhead hrest ih =>
    obtain ⟨key, w⟩ := m
    obtain ⟨hkey, hw⟩ := hhead
    rw [List.reverse_cons, List.lookup_append, Option.or_eq_some_iff, ih,
      AreRead.lookup_reverse_eq_none_iff hrest, lookup_cons]
    simp only [isLast_cons_iff, hkey, Option.some_inj]
    constructor
    · rintro (⟨tree, hlast, hread⟩ | ⟨hnone, hhead⟩)
      · exact ⟨tree, .inl hlast, hread⟩
      · by_cases hname : name = key
        · rw [if_pos hname] at hhead
          exact ⟨t.2, .inr ⟨hnone, hname.symm, rfl⟩, hw.trans hhead⟩
        · rw [if_neg hname] at hhead
          cases hhead
    · rintro ⟨tree, hlast | ⟨hnone, rfl, rfl⟩, hread⟩
      · exact .inl ⟨tree, hlast, hread⟩
      · rw [if_pos rfl]
        exact .inr ⟨hnone, hw.symm.trans hread⟩

end

/-! ## Literals of a spelled tree -/

/-- What holds tokens together holds each of them. -/
theorem Laid.exists_spelled {ts : List Token} {s : List Char} (h : Laid ts s) :
    ∀ t ∈ ts, ∃ w, t.Spelled w := by
  induction h with
  | nil => simp
  | blank _ _ ih => exact ih
  | token ht _ ih => exact List.forall_mem_cons.mpr ⟨⟨_, ht⟩, ih⟩

/-- Each of its numbers is written in some way. -/
def Syntax.HasSpelledNumbers (tree : Syntax) : Prop :=
  ∀ n, Token.number n ∈ tree.tokens → ∃ w, n.Spelled w

/-- The numbers of a tree that a text spells are written. -/
theorem Spells.hasSpelledNumbers {text : List Char} {tree : Syntax} (h : Spells text tree) :
    tree.HasSpelledNumbers := by
  intro n hn
  obtain ⟨w, hw⟩ := h.exists_spelled _ hn
  cases hw with
  | number hw => exact ⟨w, hw⟩

/-- What stands in one of several lists stands in them with separators. -/
theorem mem_intercalate_of_mem {α : Type} (sep : α) {x : α} {xs : List α} {xss : List (List α)}
    (hxs : xs ∈ xss) (hx : x ∈ xs) : x ∈ [sep].intercalate xss := by
  cases xss with
  | nil => cases hxs
  | cons first xss =>
    rw [intercalate_cons_eq_flatMap, List.mem_append]
    rcases List.mem_cons.mp hxs with rfl | hxs
    · exact .inl hx
    · exact .inr (List.mem_flatMap.mpr ⟨xs, hxs, List.mem_cons_of_mem sep hx⟩)

/-- The numbers of an item are numbers of the array. -/
theorem Syntax.HasSpelledNumbers.of_item {items : List Syntax} {item : Syntax}
    (h : Syntax.HasSpelledNumbers (.array items)) (hitem : item ∈ items) :
    item.HasSpelledNumbers := by
  intro n hn
  refine h n ?_
  have hmem := mem_intercalate_of_mem Token.comma (List.mem_map_of_mem hitem) hn
  rw [Tree.tokens, Tree.itemTokens_eq_map]
  exact List.mem_cons_of_mem _ (List.mem_append_left _ hmem)

/-- The numbers of the value of a member are numbers of the object. -/
theorem Syntax.HasSpelledNumbers.of_member {members : List (StringLiteral × Syntax)}
    {m : StringLiteral × Syntax} (h : Syntax.HasSpelledNumbers (.object members))
    (hm : m ∈ members) : m.2.HasSpelledNumbers := by
  intro n hn
  refine h n ?_
  have hmember : Token.number n ∈ Tree.tokensOfMember m :=
    List.mem_cons_of_mem _ (List.mem_cons_of_mem _ hn)
  have hmem := mem_intercalate_of_mem Token.comma (List.mem_map_of_mem hm) hmember
  rw [Tree.tokens, Tree.memberTokens_eq_map]
  exact List.mem_cons_of_mem _ (List.mem_append_left _ hmem)

/-! ## Claims -/

/-- A scalar that is read has the text that it stands for. -/
theorem Syntax.HasSpelledNumbers.scalarText?_eq_some_iff {tree : Syntax} {v : Value}
    (h : tree.HasSpelledNumbers) (hread : Value.ofSyntax? tree = some v) {s : String} :
    v.scalarText? = some s ↔ tree.StandsFor s := by
  refine Json.scalarText?_eq_some_iff hread ?_
  rintro n rfl
  exact h n (List.mem_singleton_self _)

/-- One of some items has a text exactly if one of the items that are written stands for it. -/
theorem exists_scalarText?_iff {trees : List Syntax} {items : List Value}
    (hspelled : ∀ tree ∈ trees, Syntax.HasSpelledNumbers tree)
    (hread : List.Forall₂ (fun t v => Value.ofSyntax? t = some v) trees items) {s : String} :
    (∃ v ∈ items, v.scalarText? = some s) ↔ ∃ tree ∈ trees, Syntax.StandsFor tree s := by
  induction hread with
  | nil => simp
  | @cons tree v trees items hhead _ ih =>
    obtain ⟨htree, htrees⟩ := List.forall_mem_cons.mp hspelled
    simp only [List.mem_cons, exists_eq_or_imp, htree.scalarText?_eq_some_iff hhead, ih htrees]

/-- The claims of a member are the texts of its value, or those of the items of its value. -/
theorem mem_ofMember_iff {tree : Syntax} {v : Value} (hspelled : tree.HasSpelledNumbers)
    (hread : Value.ofSyntax? tree = some v) {name value : String} :
    ⟨name, value⟩ ∈ Claim.ofMember name v ↔ tree.StandsFor value ∨
      ∃ items, tree = .array items ∧ ∃ item ∈ items, Syntax.StandsFor item value := by
  by_cases harray : ∃ items, tree = .array items
  · obtain ⟨trees, rfl⟩ := harray
    have hnone : ¬ Syntax.StandsFor (.array trees) value := fun h => by cases h
    rw [Value.ofSyntax?, Option.map_eq_some_iff] at hread
    obtain ⟨items, hitems, rfl⟩ := hread
    have hexists := exists_scalarText?_iff (s := value) (fun _ hm => hspelled.of_item hm)
      (ofItems?_eq_some_iff.mp hitems)
    simp only [hnone, false_or, Tree.array.injEq, exists_eq_left', ← hexists]
    simp [Claim.ofMember, List.mem_filterMap]
  · have hscalar : Claim.ofMember name v = v.scalarText?.toList.map (Claim.mk name) := by
      cases v with
      | array items =>
        obtain ⟨trees, htrees⟩ := exists_trees_of_array hread
        exact absurd ⟨trees, htrees⟩ harray
      | _ => rfl
    have hnone : ¬ ∃ items, tree = .array items ∧ ∃ item ∈ items, Syntax.StandsFor item value := by
      rintro ⟨items, hitems, _⟩
      exact harray ⟨items, hitems⟩
    rw [hscalar, or_iff_left hnone, ← hspelled.scalarText?_eq_some_iff hread]
    simp

end Credentials.Json
