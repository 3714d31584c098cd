import Credentials.Json.Shape
import Credentials.Proofs.Json.Printing

/-!
# What values are

Which values are strings, words, lists of strings and choices, and that words which have been read
fit 64 bits.
-/

namespace Credentials.Json

/-- Exactly the strings have a text. -/
theorem Value.string?_eq_some_iff {v : Value} {s : String} :
    v.string? = some s ↔ v = .string s := by
  cases v <;> simp [Value.string?]

/-- Exactly the strings are strings. -/
theorem isString_iff {v : Value} : isString v ↔ ∃ s, v = .string s := by
  cases v <;> simp [isString]

/-- A condition that may be passed over holds for null. -/
theorem isNullOr_iff {p : Value → Bool} {v : Value} : isNullOr p v ↔ v = .null ∨ p v := by
  cases v <;> simp [isNullOr]

/-- Lists of strings are arrays with a string for each item. -/
theorem isArrayOf_isString_iff {v : Value} :
    isArrayOf isString v ↔ ∃ texts : List String, v = .array (texts.map .string) := by
  cases v with
  | array items =>
    simp only [isArrayOf, List.all_eq_true, isString_iff]
    constructor
    · intro h
      induction items with
      | nil => exact ⟨[], rfl⟩
      | cons v items ih =>
        obtain ⟨s, rfl⟩ := h v (by simp)
        obtain ⟨texts, htexts⟩ := ih fun w hw => h w (by simp [hw])
        rw [Tree.array.injEq] at htexts
        exact ⟨s :: texts, by rw [htexts, List.map_cons]⟩
    · rintro ⟨texts, htexts⟩ v hv
      rw [Tree.array.injEq] at htexts
      rw [htexts] at hv
      obtain ⟨s, _, rfl⟩ := List.mem_map.mp hv
      exact ⟨s, rfl⟩
  | _ => simp [isArrayOf]

/-- A value that is not composed of others is neither an array nor an object. -/
theorem isComposite_eq_false_iff {v : Value} : isComposite v = false ↔
    (∀ items, v ≠ .array items) ∧ ∀ members, v ≠ .object members := by
  cases v <;> simp [isComposite]

/-- An array or an object that is not filled is empty. -/
theorem isFilled_eq_false_iff {v : Value} : isFilled v = false ↔
    (∀ items, v = .array items → items = []) ∧ ∀ members, v = .object members → members = [] := by
  cases v <;> simp [isFilled]

/-- A choice is made by a string, or by null under a name. -/
theorem choice?_eq_some_iff {v : Value} {name : String} :
    choice? v = some name ↔ v = .string name ∨ v = .object [(name, .null)] := by
  unfold choice?
  split
  · simp
  · simp
  · rename_i hstring hobject
    constructor
    · intro h
      cases h
    · rintro (rfl | rfl)
      · exact absurd rfl (hstring name)
      · exact absurd rfl (hobject name)

/-! ## Words -/

/-- What is read as a double is none of the integers. -/
theorem NumberLiteral.exists_real_of_real? {n : NumberLiteral} {m : Number}
    (h : n.real? = some m) : ∃ x, m = .real x := by
  simp only [real?, bind, Option.bind_eq_some_iff, pure, Option.some_inj] at h
  obtain ⟨x, _, rfl⟩ := h
  exact ⟨_, rfl⟩

/-- An integer that is read fits 64 bits. -/
theorem NumberLiteral.isWord_of_value? {n : NumberLiteral} {value : Int}
    (h : n.value? = some (.integer value)) : (Number.integer value).IsWord := by
  have hinteger : n.integer? = some (.integer value) := by
    rw [NumberLiteral.value?] at h
    cases hint : n.integer? with
    | some number => simpa [hint] using h
    | none =>
      have hreal : n.real? = some (.integer value) := by simpa [hint] using h
      obtain ⟨_, h⟩ := exists_real_of_real? hreal
      cases h
  simp only [NumberLiteral.integer?] at hinteger
  split_ifs at hinteger with _ _ hlow hhigh
  · rw [Option.some_inj, Number.integer.injEq] at hinteger
    have hbound : digitsValue n.whole ≤ 9223372036854775808 := hlow.2
    constructor <;> omega
  · rw [Option.some_inj, Number.integer.injEq] at hinteger
    have hbound : digitsValue n.whole ≤ 18446744073709551615 := hhigh
    constructor <;> omega

/-- An integer under a name in an object that is read fits 64 bits. -/
theorem IsJson.isWord {bytes : List UInt8} {members : List (String × Value)}
    (h : IsJson bytes (.object members)) {name : String} {value : Int}
    (hm : (name, .number (.integer value)) ∈ members) : (Number.integer value).IsWord := by
  obtain ⟨_, _, _, _, _, hread⟩ := h
  obtain ⟨_, _, hmembers⟩ := exists_trees_of_object hread
  obtain ⟨tree, htree⟩ := hmembers.exists_tree _ hm
  cases tree with
  | number literal =>
    rw [Value.ofSyntax?, Option.map_eq_some_iff] at htree
    obtain ⟨_, hliteral, heq⟩ := htree
    cases heq
    exact NumberLiteral.isWord_of_value? hliteral
  | _ => simp [Value.ofSyntax?] at htree

/-- A word has no doubles in it. -/
theorem Value.Integral.ofWord (w : UInt64) : (Value.ofWord w).Integral := by
  have hlt := w.toNat_lt
  exact .number ⟨by omega, by omega⟩

/-- A word is itself as a value. -/
@[simp] theorem Value.word?_ofWord (w : UInt64) : (Value.ofWord w).word? = some w := by
  simp [Value.ofWord, Value.word?, Number.word?]

/-- A value that fits 64 bits is the word that it is read as. -/
theorem Value.word?_eq_some_iff {v : Value} {w : UInt64}
    (h : ∀ value, v = .number (.integer value) → (Number.integer value).IsWord) :
    v.word? = some w ↔ v = .ofWord w := by
  constructor
  · intro hword
    cases v with
    | number n =>
      cases n with
      | real => simp [Value.word?, Number.word?] at hword
      | integer value =>
        obtain ⟨_, hhigh⟩ := h value rfl
        rw [Value.word?, Number.word?] at hword
        split_ifs at hword with hpos
        rw [Option.some_inj] at hword
        have hsize : value.toNat < 2 ^ 64 := by omega
        have htoNat : (w.toNat : Int) = value := by
          rw [← hword, UInt64.toNat_ofNat_of_lt' hsize]
          omega
        rw [Value.ofWord, htoNat]
    | _ => simp [Value.word?] at hword
  · rintro rfl
    exact Value.word?_ofWord w

end Credentials.Json
