import Credentials.Proofs.Bytes.Utf8
import Credentials.Text.Blank

/-!
# What trimming leaves

A trimmed list is what stands between two runs of items that are dropped, and neither begins nor
ends with such an item; this determines it. It follows that the bytes of a text are trimmed as the
text itself would be if only ASCII white space counted.
-/

namespace Credentials.Text

section

variable {α : Type} {p q : α → Bool} {items rest : List α}

/-- A list whose first and last items, if there are any, do not satisfy a condition. -/
structure EndsWithout (p : α → Bool) (items : List α) : Prop where
  first : ∀ a ∈ items.head?, p a = false
  last : ∀ a ∈ items.getLast?, p a = false

instance : Decidable (EndsWithout p items) :=
  decidable_of_iff (items.head?.all (! p ·) ∧ items.getLast?.all (! p ·)) (by
    simp only [Option.all_eq_true, Bool.not_eq_true']
    exact ⟨fun h => ⟨h.1, h.2⟩, fun h => ⟨h.first, h.last⟩⟩)

/-- Dropping stops at the first item that does not satisfy the condition. -/
theorem dropWhile_eq_iff : items.dropWhile p = rest ↔
    (∀ a ∈ rest.head?, p a = false) ∧ ∃ before, items = before ++ rest ∧ ∀ a ∈ before, p a := by
  constructor
  · rintro rfl
    refine ⟨fun a ha => ?_, items.takeWhile p, List.takeWhile_append_dropWhile.symm, ?_⟩
    · have hfirst := List.head?_dropWhile_not p items
      rwa [Option.mem_def.mp ha] at hfirst
    · exact fun a ha => List.all_eq_true.mp List.all_takeWhile a ha
  · rintro ⟨hrest, before, rfl, hbefore⟩
    rw [List.dropWhile_append_of_pos hbefore]
    cases rest with
    | nil => rfl
    | cons a rest =>
      have ha : p a = false := hrest a rfl
      exact List.dropWhile_cons_of_neg (by simp [ha])

/-- What trimming leaves stands between items that satisfy the condition. -/
theorem trimBy_eq_iff : trimBy p items = rest ↔ EndsWithout p rest ∧
    ∃ before after, items = before ++ rest ++ after ∧ ∀ a ∈ before ++ after, p a := by
  constructor
  · rintro rfl
    obtain ⟨hfirst, before, hitems, hbefore⟩ := dropWhile_eq_iff.mp (rfl : items.dropWhile p = _)
    obtain ⟨hlast, after, hkept, hafter⟩ :=
      dropWhile_eq_iff.mp (rfl : (items.dropWhile p).reverse.dropWhile p = _)
    have hsplit : items.dropWhile p = trimBy p items ++ after.reverse := by
      rw [trimBy, ← List.reverse_append, ← hkept, List.reverse_reverse]
    refine ⟨⟨fun a ha => hfirst a ?_, fun a ha => hlast a ?_⟩, before, after.reverse, ?_, ?_⟩
    · rw [hsplit, List.head?_append, Option.mem_def.mp ha]
      rfl
    · rwa [trimBy, List.getLast?_reverse] at ha
    · rw [List.append_assoc, ← hsplit, ← hitems]
    · simp only [List.mem_append, List.mem_reverse]
      exact fun a ha => ha.elim (hbefore a) (hafter a)
  · rintro ⟨hends, before, after, rfl, hall⟩
    have hbefore : ∀ a ∈ before, p a := fun a ha => hall a (by simp [ha])
    have hafter : ∀ a ∈ after.reverse, p a := fun a ha => hall a (by simp_all)
    -- If nothing is left, the items at the end are dropped from the front already.
    by_cases hrest : rest = []
    · subst hrest
      have hnone : (before ++ [] ++ after).dropWhile p = [] :=
        dropWhile_eq_iff.mpr ⟨by simp, before ++ after, by simp, hall⟩
      rw [trimBy, hnone]
      rfl
    · have hkept : (before ++ rest ++ after).dropWhile p = rest ++ after := by
        refine dropWhile_eq_iff.mpr ⟨?_, before, List.append_assoc .., hbefore⟩
        rw [List.head?_append_of_ne_nil rest hrest]
        exact hends.first
      have hlast : (rest ++ after).reverse.dropWhile p = rest.reverse := by
        refine dropWhile_eq_iff.mpr ⟨?_, after.reverse, List.reverse_append, hafter⟩
        rw [List.head?_reverse]
        exact hends.last
      rw [trimBy, hkept, hlast, List.reverse_reverse]

/-- A weaker condition trims no more exactly if it does not hold at the ends of what is left. -/
theorem trimBy_eq_trimBy_iff (h : ∀ a, p a → q a) :
    trimBy q items = trimBy p items ↔ EndsWithout q (trimBy p items) := by
  obtain ⟨_, before, after, hitems, hall⟩ := trimBy_eq_iff.mp (rfl : trimBy p items = _)
  rw [trimBy_eq_iff]
  constructor
  · exact And.left
  · exact fun hends => ⟨hends, before, after, hitems, fun a ha => h a (hall a ha)⟩

/-- Items that are written by several others each are trimmed before or after they are written. -/
theorem trimBy_flatMap {β : Type} {f : α → List β} {q : β → Bool} (hsome : ∀ a, f a ≠ [])
    (hsame : ∀ a, ∀ b ∈ f a, q b = p a) (items : List α) :
    trimBy q (items.flatMap f) = (trimBy p items).flatMap f := by
  obtain ⟨hends, before, after, hitems, hall⟩ := trimBy_eq_iff.mp (rfl : trimBy p items = _)
  generalize trimBy p items = rest at hends hitems
  subst hitems
  refine trimBy_eq_iff.mpr ⟨⟨fun b hb => ?_, fun b hb => ?_⟩,
    before.flatMap f, after.flatMap f, by simp only [List.flatMap_append], ?_⟩
  · cases rest with
    | nil => simp at hb
    | cons a rest =>
      rw [List.flatMap_cons, List.head?_append_of_ne_nil _ (hsome a)] at hb
      rw [hsame a b (List.mem_of_mem_head? hb)]
      exact hends.first a rfl
  · rcases List.eq_nil_or_concat rest with rfl | ⟨rest, a, rfl⟩
    · simp at hb
    · rw [List.concat_eq_append] at hb hends
      rw [List.flatMap_append, List.flatMap_singleton,
        List.getLast?_append_of_ne_nil _ (hsome a)] at hb
      rw [hsame a b (List.mem_of_getLast? hb)]
      exact hends.last a List.getLast?_concat
  · rw [← List.flatMap_append]
    intro b hb
    obtain ⟨a, ha, hmem⟩ := List.mem_flatMap.mp hb
    rw [hsame a b hmem]
    exact hall a ha

end

/-! ## Text and its bytes -/

/-- The white space of ASCII, apart from the vertical tab. -/
def asciiBlanks : List Char := ['\t', '\n', '\x0c', '\r', ' ']

/-- Whether a character is white space that is a byte for itself. -/
def isAsciiBlank (c : Char) : Bool := asciiBlanks.contains c

/-- White space of ASCII is white space. -/
theorem isBlank_of_isAsciiBlank (c : Char) (h : isAsciiBlank c) : isBlank c := by
  have hall : asciiBlanks.all isBlank := by decide
  exact List.all_eq_true.mp hall c (List.contains_iff_mem.mp h)

/-- White space of ASCII by its code points. -/
theorem isAsciiBlank_iff {c : Char} :
    isAsciiBlank c ↔ c.val.toNat ∈ [0x09, 0x0a, 0x0c, 0x0d, 0x20] := by
  simp [isAsciiBlank, asciiBlanks, Char.ext_iff, ← UInt32.toNat_inj]

/-- White space of ASCII by its bytes. -/
theorem isBlankByte_iff {b : UInt8} :
    isBlankByte b ↔ b.toNat ∈ [0x09, 0x0a, 0x0c, 0x0d, 0x20] := by
  simp [isBlankByte, ← UInt8.toNat_inj, or_assoc]

/-- The last bytes of the form of a code point are beyond ASCII. -/
theorem le_of_mem_continuation {n code : Nat} {b : UInt8} (hb : b ∈ Bytes.continuation n code) :
    0x80 ≤ b.toNat := by
  induction n with
  | zero => cases hb
  | succ n ih =>
    rcases List.mem_cons.mp hb with rfl | hmem
    · rw [UInt8.toNat_ofNat']
      omega
    · exact ih hmem

/-- The bytes of a character are its code point, or they and it are beyond ASCII. -/
theorem toNat_of_mem_utf8EncodeChar {c : Char} {b : UInt8} (hb : b ∈ String.utf8EncodeChar c) :
    b.toNat = c.val.toNat ∨ 0x80 ≤ b.toNat ∧ 0x80 ≤ c.val.toNat := by
  have hlimit := Bytes.codePoint_lt c
  rw [Bytes.utf8EncodeChar_eq] at hb
  generalize c.val.toNat = code at hb hlimit
  have hlead := Bytes.leadByte_lt hlimit
  by_cases hascii : code ≤ 0x7f
  · have hfirst : Bytes.leadByte code = code := if_pos hascii
    have hlength : Bytes.continuationLength code = 0 := if_pos hascii
    rw [hfirst, hlength] at hb
    obtain rfl := List.mem_singleton.mp hb
    left
    rw [UInt8.toNat_ofNat']
    omega
  · have hfirst : 0x80 ≤ Bytes.leadByte code := by
      unfold Bytes.leadByte
      split_ifs <;> omega
    right
    refine ⟨?_, by omega⟩
    rcases List.mem_cons.mp hb with rfl | hmem
    · rw [UInt8.toNat_ofNat']
      omega
    · exact le_of_mem_continuation hmem

/-- The bytes of a character are white space exactly if the character is. -/
theorem isBlankByte_of_mem_utf8EncodeChar {c : Char} {b : UInt8}
    (hb : b ∈ String.utf8EncodeChar c) : isBlankByte b = isAsciiBlank c := by
  rw [Bool.eq_iff_iff, isBlankByte_iff, isAsciiBlank_iff]
  rcases toNat_of_mem_utf8EncodeChar hb with heq | ⟨hbyte, hcode⟩
  · rw [heq]
  · have hnot {n : Nat} (hn : 0x80 ≤ n) : n ∉ [0x09, 0x0a, 0x0c, 0x0d, 0x20] := by
      simp only [List.mem_cons, List.not_mem_nil, or_false]
      omega
    exact iff_of_false (hnot hbyte) (hnot hcode)

/-- The bytes of a text are trimmed as the text is of white space of ASCII. -/
theorem trimBytes_utf8 (text : List Char) :
    trimBytes (Bytes.utf8 text) = Bytes.utf8 (trimBy isAsciiBlank text) :=
  trimBy_flatMap (fun c => by simp [Bytes.utf8EncodeChar_eq])
    (fun _ _ => isBlankByte_of_mem_utf8EncodeChar) text

end Credentials.Text
