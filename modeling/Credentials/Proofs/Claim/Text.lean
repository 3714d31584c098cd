import Credentials.Proofs.Claim
import Credentials.Proofs.Text.Mark

/-!
# Claims as text

A claim is written as its name, an equals sign and its value. The texts that are read as claims are
the written claims whose name is not empty and has no equals sign in it, so that the order of claims
is one of their texts.
-/

namespace Credentials.Claim

/-- A text is split where the first equals sign stands. -/
theorem splitEquals?_eq_some_iff {text name value : List Char} :
    splitEquals? text = some (name, value) ↔ text = name ++ '=' :: value ∧ '=' ∉ name := by
  induction text generalizing name with
  | nil => simp [splitEquals?]
  | cons c rest ih =>
    rw [splitEquals?]
    -- The first character ends the name, or belongs to it.
    by_cases hc : c = '='
    · rw [if_pos hc, Option.some_inj, Prod.mk.injEq]
      cases name with
      | nil => simp [hc]
      | cons d name =>
        refine ⟨fun h => absurd h.1 (by simp), ?_⟩
        rintro ⟨heq, hnot⟩
        obtain ⟨rfl, _⟩ := List.cons.inj heq
        exact absurd (hc ▸ List.mem_cons_self) hnot
    · rw [if_neg hc, Option.map_eq_some_iff]
      constructor
      · rintro ⟨⟨before, after⟩, hsplit, heq⟩
        obtain ⟨rfl, rfl⟩ := Prod.mk.inj heq
        obtain ⟨rfl, hnot⟩ := ih.mp hsplit
        exact ⟨rfl, List.not_mem_cons_of_ne_of_not_mem (Ne.symm hc) hnot⟩
      · rintro ⟨heq, hnot⟩
        cases name with
        | nil => exact absurd (List.cons.inj heq).1 hc
        | cons d name =>
          obtain ⟨rfl, hrest⟩ := List.cons.inj heq
          exact ⟨(name, value), ih.mpr ⟨hrest, fun h => hnot (List.mem_cons_of_mem c h)⟩, rfl⟩

/-- A claim as text. -/
def written (c : Claim) : String := c.name ++ "=" ++ c.value

/-- The characters of a written claim. -/
theorem toList_written (c : Claim) : c.written.toList = c.name.toList ++ '=' :: c.value.toList := by
  simp [written]

/-- The texts of claims are what they are written as, if the name can be found in it. -/
theorem parse_eq_ok_iff {text : String} {c : Claim} :
    parse text = .ok c ↔ text = c.written ∧ c.name ≠ "" ∧ '=' ∉ c.name.toList := by
  constructor
  · intro h
    rw [parse] at h
    split at h
    case h_1 first name value hsplit =>
      obtain ⟨htext, hnot⟩ := splitEquals?_eq_some_iff.mp hsplit
      cases h
      refine ⟨?_, by simp, by simpa using hnot⟩
      rw [← String.toList_inj, toList_written, htext, String.toList_ofList, String.toList_ofList]
    case h_2 => cases h
  · rintro ⟨rfl, hname, hnot⟩
    obtain ⟨first, name, hchars⟩ : ∃ first name, c.name.toList = first :: name := by
      cases hchars : c.name.toList with
      | nil => exact absurd (String.toList_eq_nil_iff.mp hchars) hname
      | cons first name => exact ⟨first, name, rfl⟩
    have hsplit : splitEquals? c.written.toList = some (c.name.toList, c.value.toList) :=
      splitEquals?_eq_some_iff.mpr ⟨toList_written c, hnot⟩
    rw [parse, hsplit, hchars]
    simp only [← hchars, String.ofList_toList]

/-! ## The order of texts -/

/-- The name in the text of a claim: all that stands before the first equals sign. -/
def nameOf (text : String) : List Char := text.toList.takeWhile (· != '=')

/-- Whether the name in a text, as UTF-8, does not come after that in another. -/
def textPrecedes (s t : String) : Bool := Bytes.utf8 (nameOf s) ≤ Bytes.utf8 (nameOf t)

/-- The name in a written claim is its name. -/
theorem nameOf_written {c : Claim} (h : '=' ∉ c.name.toList) : nameOf c.written = c.name.toList := by
  rw [nameOf, toList_written, Text.takeWhile_bne_append h]

section

variable {texts : List String} {claims : List Claim}

/-- Texts that are read as claims are written claims. -/
theorem eq_map_written (h : List.Forall₂ (fun text c => parse text = .ok c) texts claims) :
    texts = claims.map written := by
  induction h with
  | nil => rfl
  | cons hparse _ ih => rw [List.map_cons, ih, (parse_eq_ok_iff.mp hparse).1]

/-- Claims that are read from texts have no equals sign in their names. -/
theorem notMem_name (h : List.Forall₂ (fun text c => parse text = .ok c) texts claims) {c : Claim}
    (hc : c ∈ claims) : '=' ∉ c.name.toList := by
  induction h with
  | nil => cases hc
  | cons hparse _ ih =>
    rcases List.mem_cons.mp hc with rfl | hc
    · exact (parse_eq_ok_iff.mp hparse).2.2
    · exact ih hc

/-- Claims that are read from texts are sorted as the texts are, among equal names too. -/
theorem map_written_mergeSort (h : List.Forall₂ (fun text c => parse text = .ok c) texts claims) :
    (claims.mergeSort precedes).map written = texts.mergeSort textPrecedes := by
  rw [eq_map_written h]
  refine List.map_mergeSort fun c hc d hd => ?_
  rw [textPrecedes, nameOf_written (notMem_name h hc), nameOf_written (notMem_name h hd)]
  rfl

/-- A claim that could be read is among the claims if its text is among the texts. -/
theorem mem_iff_written_mem (h : List.Forall₂ (fun text c => parse text = .ok c) texts claims)
    {c : Claim} (hc : parse c.written = .ok c) : c ∈ claims ↔ c.written ∈ texts := by
  induction h with
  | nil => simp
  | @cons text d texts claims hparse _ ih =>
    have hhead : c = d ↔ c.written = text := by
      constructor
      · rintro rfl
        exact (parse_eq_ok_iff.mp hparse).1.symm
      · rintro rfl
        exact Except.ok.inj (hc.symm.trans hparse)
    rw [List.mem_cons, List.mem_cons, hhead, ih]

end

end Credentials.Claim
