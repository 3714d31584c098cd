import Credentials.Proofs.Json.Objects
import Credentials.Proofs.Json.Shape
import Credentials.Token.Header

/-!
# Acceptable headers

Which members make up a header of a token that is signed in a given way.
-/

namespace Credentials.Token

open Credentials.Json

namespace Header

/-- Names under which a header may have a text. -/
def textNames : List String :=
  ["typ", "cty", "jku", "kid", "x5u", "x5t", "x5t#S256", "enc", "zip", "url", "nonce"]

/-- Names under which a header may have a list of texts. -/
def listNames : List String := ["x5c", "crit"]

end Header

/--
Members that make up a header of a token that is signed in a given way. Members that a header does
not know have to be strings; those that it knows may occur only once.
-/
structure IsHeader (a : Algorithm) (members : List (String × Value)) : Prop where
  once : ∀ name ∈ Header.knownNames, countName name members ≤ 1
  algorithm : ("alg", .string a.name) ∈ members ∨ ("alg", .object [(a.name, .null)]) ∈ members
  texts : ∀ m ∈ members, m.1 ∈ Header.textNames → m.2 = .null ∨ ∃ s, m.2 = .string s
  lists : ∀ m ∈ members, m.1 ∈ Header.listNames →
    m.2 = .null ∨ ∃ texts : List String, m.2 = .array (texts.map .string)
  key : ∀ m ∈ members, m.1 = "jwk" → m.2 = .null ∨ KeyDescription.isWellFormed m.2
  others : ∀ m ∈ members, m.1 ∉ Header.knownNames → ∃ s, m.2 = .string s

namespace Header

/-- A name with a text asks for a string. -/
theorem lookup_textName {name : String} (h : name ∈ textNames) :
    optionalMembers.lookup name = some isString := by
  simp only [textNames, List.mem_cons, List.not_mem_nil, or_false] at h
  rcases h with rfl | rfl | rfl | rfl | rfl | rfl | rfl | rfl | rfl | rfl | rfl <;> rfl

/-- A name with a list of texts asks for an array of strings. -/
theorem lookup_listName {name : String} (h : name ∈ listNames) :
    optionalMembers.lookup name = some (isArrayOf isString) := by
  simp only [listNames, List.mem_cons, List.not_mem_nil, or_false] at h
  rcases h with rfl | rfl <;> rfl

/-- The names that a header knows. -/
theorem mem_knownNames {name : String} :
    name ∈ knownNames ↔ name = "alg" ∨ name ∈ textNames ∨ name ∈ listNames ∨ name = "jwk" := by
  simp only [knownNames, optionalMembers, textNames, listNames, List.map_cons, List.map_nil,
    List.mem_cons, List.not_mem_nil, or_false]
  tauto

/-- A name that is not known asks for nothing special. -/
theorem lookup_unknownName {name : String} (h : name ∉ knownNames) :
    optionalMembers.lookup name = none := by
  rw [List.lookup_eq_none_iff]
  intro m hm
  have hknown : m.1 ∈ knownNames := List.mem_cons_of_mem _ (List.mem_map_of_mem hm)
  have hne : name ≠ m.1 := fun heq => h (heq ▸ hknown)
  simpa using hne

/-- A member is of the right kind if it is what its name asks for. -/
theorem isWellFormed_iff {name : String} {v : Value} : isWellFormed name v ↔
    (name ∈ textNames → v = .null ∨ ∃ s, v = .string s) ∧
    (name ∈ listNames → v = .null ∨ ∃ texts : List String, v = .array (texts.map .string)) ∧
    (name = "jwk" → v = .null ∨ KeyDescription.isWellFormed v) ∧
    (name ∉ knownNames → ∃ s, v = .string s) := by
  by_cases hknown : name ∈ knownNames
  · rcases mem_knownNames.mp hknown with rfl | htext | hlist | rfl
    · have htext : "alg" ∉ textNames := by decide
      have hlist : "alg" ∉ listNames := by decide
      have hformed : isWellFormed "alg" v = true := rfl
      simp [htext, hlist, hknown, hformed]
    · have hapart : ∀ n ∈ textNames, n ∉ listNames ∧ n ≠ "jwk" := by decide
      obtain ⟨hlist, hkey⟩ := hapart name htext
      rw [isWellFormed, lookup_textName htext, isNullOr_iff, isString_iff]
      simp [htext, hlist, hkey, hknown]
    · have hapart : ∀ n ∈ listNames, n ∉ textNames ∧ n ≠ "jwk" := by decide
      obtain ⟨htext, hkey⟩ := hapart name hlist
      rw [isWellFormed, lookup_listName hlist, isNullOr_iff, isArrayOf_isString_iff]
      simp [htext, hlist, hkey, hknown]
    · have htext : "jwk" ∉ textNames := by decide
      have hlist : "jwk" ∉ listNames := by decide
      have hlookup : optionalMembers.lookup "jwk" = some KeyDescription.isWellFormed := rfl
      rw [isWellFormed, hlookup, isNullOr_iff]
      simp [htext, hlist, hknown]
  · have hnot := mt mem_knownNames.mpr hknown
    simp only [not_or] at hnot
    obtain ⟨halg, htext, hlist, hkey⟩ := hnot
    rw [isWellFormed, lookup_unknownName hknown]
    simp [halg, htext, hlist, hkey, hknown, isString_iff]

/-- Every algorithm is one that a header may name. -/
theorem name_mem_algorithmNames (a : Algorithm) : a.name ∈ algorithmNames := by
  cases a <;> decide

/-- Different algorithms have different names. -/
theorem name_inj {a b : Algorithm} : a.name = b.name ↔ a = b := by
  cases a <;> cases b <;> decide

/-- A value names an algorithm as a choice. -/
theorem algorithmName?_eq_some_iff {v : Value} {a : Algorithm} :
    algorithmName? v = some a.name ↔ v = .string a.name ∨ v = .object [(a.name, .null)] := by
  rw [algorithmName?, Option.filter_eq_some_iff, choice?_eq_some_iff]
  simp [name_mem_algorithmNames]

/-- Exactly the headers of tokens that are signed in a given way name the algorithm. -/
theorem algorithm?_eq_some_iff {v : Value} {a : Algorithm} :
    algorithm? v = some a.name ↔ ∃ members, v = .object members ∧ IsHeader a members := by
  cases v with
  | object members =>
    have honce (h : knownNames.all (countName · members ≤ 1)) : countName "alg" members ≤ 1 :=
      decide_eq_true_iff.mp (List.all_eq_true.mp h "alg" (by decide))
    simp only [algorithm?, Tree.object.injEq, exists_eq_left', Option.ite_none_right_eq_some,
      Bool.and_eq_true, Option.bind_eq_some_iff, algorithmName?_eq_some_iff]
    constructor
    · rintro ⟨⟨hcount, hall⟩, v, hlookup, hv⟩
      have hmem := (lookup_eq_some_iff (honce hcount)).mp hlookup
      have halg : ("alg", .string a.name) ∈ members ∨
          ("alg", .object [(a.name, .null)]) ∈ members := by
        rcases hv with rfl | rfl
        · exact .inl hmem
        · exact .inr hmem
      have hformed (m : String × Value) (hm : m ∈ members) :=
        isWellFormed_iff.mp (List.all_eq_true.mp hall m hm)
      exact {
        once := fun name hname => decide_eq_true_iff.mp (List.all_eq_true.mp hcount name hname)
        algorithm := halg
        texts := fun m hm => (hformed m hm).1
        lists := fun m hm => (hformed m hm).2.1
        key := fun m hm => (hformed m hm).2.2.1
        others := fun m hm => (hformed m hm).2.2.2 }
    · intro h
      have hcount : knownNames.all (countName · members ≤ 1) :=
        List.all_eq_true.mpr fun name hname => decide_eq_true (h.once name hname)
      refine ⟨⟨hcount, ?_⟩, ?_⟩
      · rw [List.all_eq_true]
        intro m hm
        exact isWellFormed_iff.mpr ⟨h.texts m hm, h.lists m hm, h.key m hm, h.others m hm⟩
      · rcases h.algorithm with hmem | hmem
        · exact ⟨_, (lookup_eq_some_iff (honce hcount)).mpr hmem, .inl rfl⟩
        · exact ⟨_, (lookup_eq_some_iff (honce hcount)).mpr hmem, .inr rfl⟩
  | _ => simp [algorithm?]

end Header

end Credentials.Token
