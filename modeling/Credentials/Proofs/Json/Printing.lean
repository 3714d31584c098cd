import Credentials.Json.Printer
import Credentials.Json.Value
import Credentials.Proofs.Bytes.Utf8
import Credentials.Proofs.Json.Grammar
import Credentials.Proofs.Json.Reading

/-!
# Reading printed values

What it is for bytes to be strict JSON, and that the text of a value without doubles is JSON for
this value.
-/

namespace Credentials.Json

open Credentials.Number

/-- Bytes are the strict JSON text of a value, whose nesting is limited. -/
def IsJson (bytes : List UInt8) (v : Value) : Prop :=
  ∃ text tree, bytes = Bytes.utf8 text ∧ Spells text tree ∧ tree.depth ≤ maxDepth ∧
    Value.ofSyntax? tree = some v

/-- Exactly the bytes that are strict JSON are read. -/
theorem parseBytes?_eq_some_iff {bytes : List UInt8} {v : Value} :
    parseBytes? bytes = some v ↔ IsJson bytes v := by
  simp only [parseBytes?, parse?, bind, Option.bind_eq_some_iff, Option.guard_eq_some',
    Bytes.ofUtf8?_eq_some_iff, parseSyntax?_eq_some_iff]
  constructor
  · rintro ⟨text, htext, tree, htree, _, hdepth, hv⟩
    exact ⟨text, tree, htext, htree, hdepth, hv⟩
  · rintro ⟨text, tree, htext, htree, hdepth, hv⟩
    exact ⟨text, htext, tree, htree, (), hdepth, hv⟩

/-! ## Strings -/

/-- A control character is written by its number. -/
theorem exists_hexDigits_control {c : Char} (hc : c.toNat < 0x20) :
    ∃ h i j k, Text.hexDigits 4 c.toNat = [h, i, j, k] ∧ hexUnit? h i j k = some c.toNat := by
  have hall : ∀ n < 0x20, hexUnit? (Text.hexChar (n / 16 / 16 / 16)) (Text.hexChar (n / 16 / 16))
      (Text.hexChar (n / 16)) (Text.hexChar n) = some n := by decide
  exact ⟨_, _, _, _, rfl, hall c.toNat hc⟩

/-- An item of a string that stands for a control character stands for it wherever it occurs. -/
theorem readString?_unit_cons {c : Char} (hc : c.toNat < 0x20) (parts : StringLiteral) :
    readString? (.unit c.toNat :: parts) = (readString? parts).map (c :: ·) := by
  have hhigh : isHighSurrogate c.toNat = false := by
    simp [isHighSurrogate]
    omega
  have hlow : isLowSurrogate c.toNat = false := by
    simp [isLowSurrogate]
    omega
  cases parts with
  | nil => simp [readString?, hhigh, hlow]
  | cons part parts =>
    cases part with
    | char => simp [readString?, hhigh, hlow]
    | unit => simp [readString?, hhigh, hlow]

/-- A quoted character is written as an item that stands for it. -/
theorem exists_part_quoteChar (c : Char) : ∃ part : StringPart, part.Spelled (quoteChar c) ∧
    ∀ parts, readString? (part :: parts) = (readString? parts).map (c :: ·) := by
  unfold quoteChar
  split_ifs with h1 h2 h3 h4 h5 h6 h7 h8
  · exact ⟨.char c, .escaped (by rw [h1]; rfl), fun _ => rfl⟩
  · exact ⟨.char c, .escaped (by rw [h2]; rfl), fun _ => rfl⟩
  · exact ⟨.char c, .plain h1 h2 h3, fun _ => rfl⟩
  · exact ⟨.char c, .escaped (by rw [h4]; rfl), fun _ => rfl⟩
  · exact ⟨.char c, .escaped (by rw [h5]; rfl), fun _ => rfl⟩
  · exact ⟨.char c, .escaped (by rw [h6]; rfl), fun _ => rfl⟩
  · exact ⟨.char c, .escaped (by rw [h7]; rfl), fun _ => rfl⟩
  · exact ⟨.char c, .escaped (by rw [h8]; rfl), fun _ => rfl⟩
  · have hcontrol : c.toNat < 0x20 := Nat.lt_of_not_le h3
    obtain ⟨h, i, j, k, htext, hunit⟩ := exists_hexDigits_control hcontrol
    rw [htext]
    exact ⟨.unit c.toNat, .unit hunit, readString?_unit_cons hcontrol⟩

/-- A quoted text is written as items that stand for it. -/
theorem exists_literal_quote (s : List Char) : ∃ parts : StringLiteral,
    StringLiteral.Spelled parts (s.flatMap quoteChar) ∧ readString? parts = some s := by
  induction s with
  | nil => exact ⟨[], .nil, rfl⟩
  | cons c s ih =>
    obtain ⟨parts, hparts, hread⟩ := ih
    obtain ⟨part, hpart, hstands⟩ := exists_part_quoteChar c
    refine ⟨part :: parts, .cons hpart hparts, ?_⟩
    rw [hstands, hread, Option.map_some]

/-- A quoted string is written as a literal with its text. -/
theorem exists_string_quote (s : String) : ∃ literal : StringLiteral,
    Token.Spelled (.string literal) (quote s) ∧ literal.text? = some s := by
  obtain ⟨parts, hparts, hread⟩ := exists_literal_quote s.toList
  exact ⟨parts, .string hparts, by simp [StringLiteral.text?, hread]⟩

/-! ## Integers -/

/-- A digit is written as its character. -/
theorem ofNat_eq_digitChar {d : Nat} (hd : d < 10) : Char.ofNat (48 + d) = d.digitChar := by
  interval_cases d <;> rfl

/-- The digits of a number are written as it is. -/
theorem exists_digits (n : Nat) : ∃ digits, digitText digits = digitChars n ∧
    AreDigits digits ∧ isWhole digits = true ∧ digitsValue digits = n := by
  induction n using Nat.strong_induction_on with
  | _ n ih =>
    by_cases hn : n < 10
    · refine ⟨[n], ?_, by simpa [AreDigits] using hn, ?_, by simp [digitsValue]⟩
      · rw [digitChars, Nat.toDigits_of_lt_base hn, digitText, List.map_singleton,
          ofNat_eq_digitChar hn]
      · cases n <;> rfl
    · obtain ⟨digits, htext, hdigits, hwhole, hvalue⟩ := ih (n / 10) (by omega)
      have hlast : n % 10 < 10 := Nat.mod_lt _ (by decide)
      refine ⟨digits ++ [n % 10], ?_, ?_, ?_, ?_⟩
      · rw [digitChars, Nat.toDigits_of_base_le (by decide) (Nat.le_of_not_lt hn), digitText,
          List.map_append, List.map_singleton, ofNat_eq_digitChar hlast]
        exact congrArg (· ++ [(n % 10).digitChar]) htext
      · intro d hd
        rcases List.mem_append.mp hd with hd | hd
        · exact hdigits d hd
        · rw [List.mem_singleton.mp hd]
          exact hlast
      · cases digits with
        | nil => simp [isWhole] at hwhole
        | cons d digits =>
          cases d with
          | zero =>
            -- Only the number zero begins with the digit zero, and it has no further digits.
            have hnil : digits = [] := by simpa [isWhole] using hwhole
            subst hnil
            simp [digitsValue] at hvalue
            omega
          | succ d => rfl
      · rw [digitsValue] at hvalue
        rw [digitsValue, List.foldl_append, hvalue, List.foldl_cons, List.foldl_nil]
        omega

/-- A number that is written as an integer of 64 bits, signed or not. -/
def Number.IsWord : Number → Prop
  | .integer n => -2 ^ 63 ≤ n ∧ n < 2 ^ 64
  | .real _ => False

/-- An integer is written as a literal with its value. -/
theorem exists_number_text {n : Number} (hn : n.IsWord) : ∃ literal : NumberLiteral,
    Token.Spelled (.number literal) n.text ∧ literal.value? = some n := by
  cases n with
  | real => exact hn.elim
  | integer n =>
    obtain ⟨hlow, hhigh⟩ := hn
    obtain ⟨digits, htext, hdigits, hwhole, hvalue⟩ := exists_digits n.natAbs
    refine ⟨⟨n < 0, digits, [], none⟩, ?_, ?_⟩
    · have hspelled := NumberLiteral.Spelled.mk (n := ⟨n < 0, digits, [], none⟩) hwhole hdigits
        .absent .absent
      have hsign : signText (n < 0) = if n < 0 then ['-'] else [] := by simp [signText]
      simp only [hsign, htext, List.append_nil] at hspelled
      exact .number hspelled
    · have hinteger : NumberLiteral.integer? ⟨n < 0, digits, [], none⟩ = some (.integer n) := by
        simp only [NumberLiteral.integer?, hvalue]
        rw [if_neg (by simp)]
        by_cases hneg : n < 0
        · have hfits : 0 < n.natAbs ∧ n.natAbs ≤ 1 <<< 63 := by
            constructor
            · omega
            · change n.natAbs ≤ 9223372036854775808
              omega
          have habs : -(n.natAbs : Int) = n := by omega
          rw [if_pos (decide_eq_true hneg), if_pos hfits, habs]
        · have hfits : n.natAbs ≤ maxWord := by
            change n.natAbs ≤ 18446744073709551615
            omega
          have habs : (n.natAbs : Int) = n := by omega
          rw [if_neg (by simpa using hneg), if_pos hfits, habs]
      simp [NumberLiteral.value?, hinteger]

/-! ## Values -/

/-- Values in which all numbers are integers of 64 bits. -/
inductive Value.Integral : Value → Prop
  | null : Integral .null
  | bool (b : Bool) : Integral (.bool b)
  | number {n : Number} (hn : n.IsWord) : Integral (.number n)
  | string (s : String) : Integral (.string s)
  | array {items : List Value} (h : ∀ v ∈ items, Integral v) : Integral (.array items)
  | object {members : List (String × Value)} (h : ∀ m ∈ members, Integral m.2) :
    Integral (.object members)

/-- Items are not nested more deeply than each of them is. -/
theorem Tree.depthItems_le {σ ν : Type} {items : List (Tree σ ν)} {n : Nat}
    (h : ∀ v ∈ items, v.depth ≤ n) : Tree.depthItems items ≤ n := by
  induction items with
  | nil => exact Nat.zero_le n
  | cons v items ih =>
    rw [Tree.depthItems]
    exact Nat.max_le.mpr ⟨h v (by simp), ih fun w hw => h w (by simp [hw])⟩

/-- Members are not nested more deeply than the value of each is. -/
theorem Tree.depthMembers_le {σ ν : Type} {members : List (σ × Tree σ ν)} {n : Nat}
    (h : ∀ m ∈ members, m.2.depth ≤ n) : Tree.depthMembers members ≤ n := by
  induction members with
  | nil => exact Nat.zero_le n
  | cons m members ih =>
    rw [Tree.depthMembers]
    exact Nat.max_le.mpr ⟨h m (by simp), ih fun k hk => h k (by simp [hk])⟩

/-- Tokens that are written one after another are written together. -/
theorem Laid.append {ts us : List Token} {s t : List Char} (hs : Laid ts s) (ht : Laid us t) :
    Laid (ts ++ us) (s ++ t) := by
  induction hs with
  | nil => exact ht
  | blank hc _ ih => exact .blank hc ih
  | token hw _ ih =>
    rw [List.append_assoc]
    exact .token hw ih

/-- One token is written as it is. -/
theorem Token.Spelled.laid {t : Token} {w : List Char} (h : t.Spelled w) : Laid [t] w := by
  have hlaid := Laid.token h .nil
  rwa [List.append_nil] at hlaid

/-- Tokens are written between two others. -/
theorem Laid.enclosed {first last : Token} {c d : Char} {ts : List Token} {s : List Char}
    (hfirst : first.Spelled [c]) (hlast : last.Spelled [d]) (h : Laid ts s) :
    Laid (first :: ts ++ [last]) (c :: s ++ [d]) := by
  have hlaid := Laid.token hfirst (h.append hlast.laid)
  simpa using hlaid

/-- Blanks may be written before the first token. -/
theorem Laid.blanks {gap : List Char} (hgap : ∀ c ∈ gap, isBlank c = true) {ts : List Token}
    {s : List Char} (h : Laid ts s) : Laid ts (gap ++ s) := by
  induction gap with
  | nil => exact h
  | cons c gap ih => exact .blank (hgap c (by simp)) (ih fun d hd => hgap d (by simp [hd]))

/-- Blanks may be written after the last token. -/
theorem Laid.trailing {gap : List Char} (hgap : ∀ c ∈ gap, isBlank c = true) {ts : List Token}
    {s : List Char} (h : Laid ts s) : Laid ts (s ++ gap) := by
  have hnone : Laid [] gap := by simpa using Laid.blanks hgap .nil
  simpa using h.append hnone

/-- Lists of tokens are written after separators if each list is written. -/
theorem Laid.flatMap {sep : Token} {c : Char} (hsep : sep.Spelled [c]) {tss : List (List Token)}
    {texts : List (List Char)} (h : List.Forall₂ Laid tss texts) :
    Laid (tss.flatMap (sep :: ·)) (texts.flatMap (c :: ·)) := by
  induction h with
  | nil => exact .nil
  | cons hlaid _ ih =>
    rw [List.flatMap_cons, List.flatMap_cons]
    exact Laid.append (.token hsep hlaid) ih

/-- Lists of tokens are written between separators if each list is written. -/
theorem Laid.intercalate {sep : Token} {c : Char} (hsep : sep.Spelled [c])
    {tss : List (List Token)} {texts : List (List Char)} (h : List.Forall₂ Laid tss texts) :
    Laid ([sep].intercalate tss) ([c].intercalate texts) := by
  cases h with
  | nil => exact .nil
  | cons hlaid hrest =>
    rw [intercalate_cons_eq_flatMap, intercalate_cons_eq_flatMap]
    exact hlaid.append (.flatMap hsep hrest)

/-- A text is read as a value, which is nested as deeply as the text is. -/
def Value.IsReadFrom (v : Value) (text : List Char) : Prop :=
  ∃ tree : Syntax, Spells text tree ∧ Value.ofSyntax? tree = some v ∧ tree.depth = v.depth

/-- A text is read as a member: its name, a colon and its value. -/
def IsMemberFrom (m : String × Value) (text : List Char) : Prop :=
  ∃ name : StringLiteral, ∃ tree : Syntax, Laid (Tree.tokensOfMember (name, tree)) text ∧
    name.text? = some m.1 ∧ Value.ofSyntax? tree = some m.2 ∧ tree.depth = m.2.depth

/-- Blanks before a value do not matter. -/
theorem Value.IsReadFrom.blanks {v : Value} {text gap : List Char}
    (hgap : ∀ c ∈ gap, isBlank c = true) (h : v.IsReadFrom text) : v.IsReadFrom (gap ++ text) := by
  obtain ⟨tree, hspells, hread⟩ := h
  exact ⟨tree, Laid.blanks hgap hspells, hread⟩

/-- Blanks after a value do not matter. -/
theorem Value.IsReadFrom.trailing {v : Value} {text gap : List Char}
    (hgap : ∀ c ∈ gap, isBlank c = true) (h : v.IsReadFrom text) : v.IsReadFrom (text ++ gap) := by
  obtain ⟨tree, hspells, hread⟩ := h
  exact ⟨tree, Laid.trailing hgap hspells, hread⟩

/-- Blanks before a member do not matter. -/
theorem IsMemberFrom.blanks {m : String × Value} {text gap : List Char}
    (hgap : ∀ c ∈ gap, isBlank c = true) (h : IsMemberFrom m text) :
    IsMemberFrom m (gap ++ text) := by
  obtain ⟨name, tree, hlaid, hread⟩ := h
  exact ⟨name, tree, Laid.blanks hgap hlaid, hread⟩

/-- A quoted name and a value that are read make up a member. -/
theorem isMemberFrom {name : String} {v : Value} {text : List Char} (h : v.IsReadFrom text) :
    IsMemberFrom (name, v) (quote name ++ ':' :: text) := by
  obtain ⟨tree, hspells, hread, hdepth⟩ := h
  obtain ⟨literal, hname, htext⟩ := exists_string_quote name
  exact ⟨literal, tree, .token hname (.token .colon hspells), htext, hread, hdepth⟩

namespace Value

/-- Null is read. -/
theorem isReadFrom_null : IsReadFrom .null ['n', 'u', 'l', 'l'] :=
  ⟨.null, Token.Spelled.null.laid, rfl, rfl⟩

/-- Truth values are read. -/
theorem isReadFrom_bool (b : Bool) : IsReadFrom (.bool b) (boolText b) := by
  cases b
  · exact ⟨.bool false, Token.Spelled.boolFalse.laid, rfl, rfl⟩
  · exact ⟨.bool true, Token.Spelled.boolTrue.laid, rfl, rfl⟩

/-- Integers are read. -/
theorem isReadFrom_number {n : Number} (hn : n.IsWord) : IsReadFrom (.number n) n.text := by
  obtain ⟨literal, hspelled, hvalue⟩ := exists_number_text hn
  exact ⟨.number literal, hspelled.laid, by simp [ofSyntax?, hvalue], rfl⟩

/-- Strings are read. -/
theorem isReadFrom_string (s : String) : IsReadFrom (.string s) (quote s) := by
  obtain ⟨literal, hspelled, htext⟩ := exists_string_quote s
  exact ⟨.string literal, hspelled.laid, by simp [ofSyntax?, htext], rfl⟩

/-- Items are read if each is. -/
theorem exists_items {items : List Value} {texts : List (List Char)}
    (h : List.Forall₂ IsReadFrom items texts) : ∃ trees : List Syntax,
      List.Forall₂ Laid (trees.map Tree.tokens) texts ∧
        List.Forall₂ (fun t v => ofSyntax? t = some v) trees items ∧
          Tree.depthItems trees = Tree.depthItems items := by
  induction h with
  | nil => exact ⟨[], .nil, .nil, rfl⟩
  | cons hitem _ ih =>
    obtain ⟨tree, hspells, hread, hdepth⟩ := hitem
    obtain ⟨trees, hlaid, hreads, hdepths⟩ := ih
    refine ⟨tree :: trees, .cons hspells hlaid, .cons hread hreads, ?_⟩
    rw [Tree.depthItems, Tree.depthItems, hdepth, hdepths]

/-- Members are read if each is. -/
theorem exists_members {members : List (String × Value)} {texts : List (List Char)}
    (h : List.Forall₂ IsMemberFrom members texts) : ∃ trees : List (StringLiteral × Syntax),
      List.Forall₂ Laid (trees.map Tree.tokensOfMember) texts ∧ AreRead trees members ∧
        Tree.depthMembers trees = Tree.depthMembers members := by
  induction h with
  | nil => exact ⟨[], .nil, .nil, rfl⟩
  | cons hmember _ ih =>
    obtain ⟨name, tree, hspells, htext, hread, hdepth⟩ := hmember
    obtain ⟨trees, hlaid, hreads, hdepths⟩ := ih
    refine ⟨(name, tree) :: trees, .cons hspells hlaid, .cons ⟨htext, hread⟩ hreads, ?_⟩
    rw [Tree.depthMembers, Tree.depthMembers, hdepth, hdepths]

/-- An array is read from its items between commas, with blanks before its end. -/
theorem isReadFrom_array {items : List Value} {texts : List (List Char)} {gap : List Char}
    (hgap : ∀ c ∈ gap, isBlank c = true) (h : List.Forall₂ IsReadFrom items texts) :
    IsReadFrom (.array items) ('[' :: [','].intercalate texts ++ gap ++ [']']) := by
  obtain ⟨trees, hlaid, hitems, hdepths⟩ := exists_items h
  have hread : ofSyntax? (.array trees) = some (.array items) := by
    rw [ofSyntax?, ofItems?_eq_some_iff.mpr hitems, Option.map_some]
  refine ⟨.array trees, ?_, hread, by rw [Tree.depth, Tree.depth, hdepths]⟩
  rw [Spells, Tree.tokens, Tree.itemTokens_eq_map, List.cons_append]
  exact .enclosed .beginArray .endArray ((Laid.intercalate .comma hlaid).trailing hgap)

/-- An object is read from its members between commas, with blanks before its end. -/
theorem isReadFrom_object {members : List (String × Value)} {texts : List (List Char)}
    {gap : List Char} (hgap : ∀ c ∈ gap, isBlank c = true)
    (h : List.Forall₂ IsMemberFrom members texts) :
    IsReadFrom (.object members) ('\x7b' :: [','].intercalate texts ++ gap ++ ['\x7d']) := by
  obtain ⟨trees, hlaid, hmembers, hdepths⟩ := exists_members h
  have hread : ofSyntax? (.object trees) = some (.object members) := by
    rw [ofSyntax?, ofMembers?_eq_some_iff.mpr hmembers, Option.map_some]
  refine ⟨.object trees, ?_, hread, by rw [Tree.depth, Tree.depth, hdepths]⟩
  rw [Spells, Tree.tokens, Tree.memberTokens_eq_map, List.cons_append]
  exact .enclosed .beginObject .endObject ((Laid.intercalate .comma hlaid).trailing hgap)

/-! ### Compact texts -/

/-- Items of a compact text stand between commas. -/
theorem compactItems_eq_intercalate (items : List Value) :
    compactItems items = [','].intercalate (items.map compact) := by
  induction items with
  | nil => rfl
  | cons v items ih =>
    cases items with
    | nil => simp [compactItems]
    | cons w items => simp [compactItems, ih]

/-- Members of a compact text stand between commas. -/
theorem compactMembers_eq_intercalate (members : List (String × Value)) :
    compactMembers members =
      [','].intercalate (members.map fun m => quote m.1 ++ ':' :: m.2.compact) := by
  induction members with
  | nil => rfl
  | cons m members ih =>
    cases members with
    | nil => simp [compactMembers]
    | cons n members => simp [compactMembers, ih]

/-- The compact text of a value without doubles is read as the value. -/
theorem Integral.isReadFrom_compact {v : Value} (h : v.Integral) : v.IsReadFrom v.compact := by
  have hnone : ∀ c ∈ ([] : List Char), isBlank c = true := by simp
  induction h with
  | null => exact isReadFrom_null
  | bool b => exact isReadFrom_bool b
  | number hn => exact isReadFrom_number hn
  | string s => exact isReadFrom_string s
  | @array items _ ih =>
    have hitems : List.Forall₂ IsReadFrom items (items.map compact) :=
      List.forall₂_map_right_iff.mpr (List.forall₂_same.mpr ih)
    rw [compact, compactItems_eq_intercalate]
    simpa using isReadFrom_array hnone hitems
  | @object members _ ih =>
    have hmembers : List.Forall₂ IsMemberFrom members
        (members.map fun m => quote m.1 ++ ':' :: m.2.compact) :=
      List.forall₂_map_right_iff.mpr (List.forall₂_same.mpr fun m hm => isMemberFrom (ih m hm))
    rw [compact, compactMembers_eq_intercalate]
    simpa using isReadFrom_object hnone hmembers

/-! ### Texts with a line for every item and member -/

/-- New lines are blank. -/
theorem isBlank_newLine (level : Nat) : ∀ c ∈ newLine level, isBlank c = true := by
  intro c hc
  rcases List.mem_cons.mp hc with rfl | hc
  · rfl
  · rw [List.eq_of_mem_replicate hc]
    rfl

/-- Items on lines of their own stand between commas. -/
theorem prettyItems_eq_intercalate (level : Nat) (items : List Value) :
    prettyItems level items =
      [','].intercalate (items.map fun v => newLine level ++ v.pretty level) := by
  induction items with
  | nil => rfl
  | cons v items ih =>
    cases items with
    | nil => simp [prettyItems]
    | cons w items => simp [prettyItems, ih]

/-- Members on lines of their own stand between commas. -/
theorem prettyMembers_eq_intercalate (level : Nat) (members : List (String × Value)) :
    prettyMembers level members = [','].intercalate (members.map fun m =>
      newLine level ++ (quote m.1 ++ ':' :: ([' '] ++ m.2.pretty level))) := by
  induction members with
  | nil => rfl
  | cons m members ih =>
    cases members with
    | nil => simp [prettyMembers]
    | cons n members => simp [prettyMembers, ih]

/-- The text of a value without doubles on several lines is read as the value. -/
theorem Integral.isReadFrom_pretty {v : Value} (h : v.Integral) (level : Nat) :
    v.IsReadFrom (v.pretty level) := by
  have hnone : ∀ c ∈ ([] : List Char), isBlank c = true := by simp
  induction h generalizing level with
  | null => exact isReadFrom_null
  | bool b => exact isReadFrom_bool b
  | number hn => exact isReadFrom_number hn
  | string s => exact isReadFrom_string s
  | @array items _ ih =>
    -- Nothing stands on a line of its own where there are no items.
    cases items with
    | nil => exact isReadFrom_array hnone .nil
    | cons v items =>
      have hitems : List.Forall₂ IsReadFrom (v :: items) ((v :: items).map fun w =>
          newLine (level + 1) ++ w.pretty (level + 1)) :=
        List.forall₂_map_right_iff.mpr <| List.forall₂_same.mpr fun w hw =>
          (ih w hw (level + 1)).blanks (isBlank_newLine _)
      rw [pretty, prettyItems_eq_intercalate]
      · exact isReadFrom_array (isBlank_newLine level) hitems
      · simp
  | @object members _ ih =>
    cases members with
    | nil => exact isReadFrom_object hnone .nil
    | cons m members =>
      have hmembers : List.Forall₂ IsMemberFrom (m :: members) ((m :: members).map fun n =>
          newLine (level + 1) ++ (quote n.1 ++ ':' :: ([' '] ++ n.2.pretty (level + 1)))) :=
        List.forall₂_map_right_iff.mpr <| List.forall₂_same.mpr fun n hn =>
          (isMemberFrom ((ih n hn (level + 1)).blanks (by simp [isBlank]))).blanks
            (isBlank_newLine _)
      rw [pretty, prettyMembers_eq_intercalate]
      · exact isReadFrom_object (isBlank_newLine level) hmembers
      · simp

end Value

/-- A text is read as its value if that is not nested too deeply. -/
theorem parse?_eq_some {v : Value} {text : List Char} (h : v.IsReadFrom text)
    (hdepth : v.depth ≤ maxDepth) : parse? text = some v := by
  obtain ⟨tree, hspells, hread, htree⟩ := h
  simp [parse?, parseSyntax?_eq_some_iff.mpr hspells, htree, hdepth, hread]

/-- The bytes of a value without doubles, if it is not nested too deeply, are read as the value. -/
theorem parseBytes?_compact {v : Value} (h : v.Integral) (hdepth : v.depth ≤ maxDepth) :
    parseBytes? (Bytes.utf8 v.compact) = some v := by
  obtain ⟨tree, hspells, hread, htree⟩ := h.isReadFrom_compact
  exact parseBytes?_eq_some_iff.mpr ⟨_, tree, rfl, hspells, htree.trans_le hdepth, hread⟩

end Credentials.Json
