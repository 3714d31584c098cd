import Credentials.Proofs.Url.Address
import Credentials.Url.DomainName
import Mathlib.Tactic.SplitIfs

/-!
# Domain names are read back

The ASCII form of a domain name is a domain name that is its own ASCII form. Its characters are
those of the labels that were ASCII, and letters, figures and hyphens in the labels in Punycode.
-/

namespace Credentials

/-- What stands between separators is part of the text and holds no separator. -/
theorem mem_and_ne_of_mem_splitOn {sep : Char} {text part : List Char}
    (h : part ∈ text.splitOn sep) : ∀ c ∈ part, c ∈ text ∧ c ≠ sep := by
  induction text generalizing part with
  | nil =>
    rw [List.splitOn_nil, List.mem_singleton] at h
    simp [h]
  | cons d text ih =>
    obtain ⟨first, parts, hparts⟩ := List.exists_cons_of_ne_nil (List.splitOn_ne_nil sep text)
    have hrest (part : List Char) (hpart : part ∈ first :: parts) (c : Char) (hc : c ∈ part) :
        c ∈ d :: text ∧ c ≠ sep := by
      obtain ⟨hmem, hne⟩ := ih (hparts ▸ hpart) c hc
      exact ⟨List.mem_cons_of_mem _ hmem, hne⟩
    rw [List.splitOn_cons_eq_if_modifyHead, hparts] at h
    split_ifs at h with hsep
    · rcases List.mem_cons.mp h with rfl | hpart
      · simp
      · exact hrest part hpart
    · rw [List.modifyHead_cons] at h
      rcases List.mem_cons.mp h with rfl | hpart
      · intro c hc
        rcases List.mem_cons.mp hc with rfl | hc
        · exact ⟨List.mem_cons_self, by simpa using hsep⟩
        · exact hrest first List.mem_cons_self c hc
      · exact hrest part (List.mem_cons_of_mem _ hpart)

namespace Url

/-! ## Punycode -/

namespace Punycode

/-- A letter or a figure that stands for a base-36 digit. -/
def IsDigit (c : Char) : Prop := ∃ d < 36, c = digitChar d

/-- A number is written in digits. -/
theorem isDigit_of_mem_encodeNumber {bias position number : Nat} {c : Char}
    (h : c ∈ encodeNumber bias position number) : IsDigit c := by
  have hthreshold (position : Nat) : threshold position bias ≤ 26 := by
    rw [threshold]
    omega
  induction position, number using encodeNumber.induct bias with
  | case1 position number t hsmall =>
    rw [encodeNumber, if_pos hsmall, List.mem_singleton] at h
    have ht := hthreshold position
    exact ⟨number, by omega, h⟩
  | case2 position number t hlarge ih =>
    rw [encodeNumber, if_neg hlarge, List.mem_cons] at h
    rcases h with rfl | h
    · have ht := hthreshold position
      have hmod := Nat.mod_lt (number - threshold position bias)
        (show 36 - threshold position bias > 0 by omega)
      exact ⟨_, by omega, rfl⟩
    · exact ih h

/-- A writer that has written nothing but digits. -/
def Writer.IsDigits (s : Writer) : Prop := ∀ c ∈ s.digits, IsDigit c

/-- Passing a character of the label adds nothing but digits. -/
theorem Writer.IsDigits.pass {s : Writer} (h : s.IsDigits) (basic point : Nat) (c : Char) :
    (s.pass basic point c).IsDigits := by
  rw [Writer.pass]
  split
  · exact h
  · split
    · intro d hd
      rcases List.mem_append.mp hd with hd | hd
      · exact h d hd
      · exact isDigit_of_mem_encodeNumber hd
    · exact h

/-- Writing characters adds nothing but digits. -/
theorem Writer.IsDigits.run {s : Writer} (h : s.IsDigits) (label : List Char) (basic : Nat)
    (points : List Nat) (next : Nat) : (Writer.run label basic points next s).IsDigits := by
  induction points generalizing s next with
  | nil => exact h
  | cons point points ih =>
    have hlabel (s : Writer) (hs : s.IsDigits) (text : List Char) :
        (text.foldl (Writer.pass basic point) s).IsDigits := by
      induction text generalizing s with
      | nil => exact hs
      | cons c text ih => exact ih _ (hs.pass basic point c)
    rw [Writer.run]
    apply ih
    intro c hc
    exact hlabel { s with delta := s.delta + (point - next) * (s.handled + 1) } h label c hc

/-- What a label is written as stands for it. -/
theorem decode?_of_encode? {label text : List Char} (h : encode? label = some text) :
    decode? text = some label := by
  simp only [encode?, Option.ite_none_right_eq_some, Option.some.injEq] at h
  obtain ⟨hread, rfl⟩ := h
  exact hread

/-- A label is written in its ASCII characters, hyphens and digits. -/
theorem mem_of_encode? {label text : List Char} (h : encode? label = some text) :
    ∀ c ∈ text, c ∈ label ∧ c.toNat < 0x80 ∨ c = '-' ∨ IsDigit c := by
  simp only [encode?, Option.ite_none_right_eq_some, Option.some.injEq] at h
  obtain ⟨_, rfl⟩ := h
  intro c hc
  simp only [List.mem_append] at hc
  rcases hc with (hbasic | hhyphen) | hdigit
  · exact Or.inl (by simpa using hbasic)
  · split at hhyphen
    · cases hhyphen
    · exact Or.inr (Or.inl (by simpa using hhyphen))
  · have hinitial (n : Nat) : Writer.IsDigits ⟨[], 0, n, 72⟩ := by
      intro c hc
      cases hc
    exact Or.inr (Or.inr ((hinitial _).run _ _ _ _ c hdigit))

end Punycode

/-! ## Labels and names -/

namespace DomainName

open Credentials.Text

/-- A character of the ASCII form of a label. -/
structure IsLabelChar (c : Char) : Prop where
  ascii : c.toNat < 0x80
  allowed : isForbidden c = false
  noDot : c ≠ '.'

/-- A base-36 digit may stand in a label. -/
theorem isLabelChar_of_isDigit {c : Char} (h : Punycode.IsDigit c) : IsLabelChar c := by
  obtain ⟨d, hd, rfl⟩ := h
  have hall : ∀ d < 36, (Punycode.digitChar d).toNat < 0x80 ∧
      isForbidden (Punycode.digitChar d) = false ∧ Punycode.digitChar d ≠ '.' := by decide
  obtain ⟨hascii, hallowed, hdot⟩ := hall d hd
  exact ⟨hascii, hallowed, hdot⟩

/-- Characters of the mark of Punycode and hyphens may stand in a label. -/
theorem isLabelChar_of_mem_marker {c : Char} (h : c ∈ marker) : IsLabelChar c := by
  have hall : (marker.all fun c =>
      decide (c.toNat < 0x80 ∧ isForbidden c = false ∧ c ≠ '.')) = true := by decide
  obtain ⟨hascii, hallowed, hdot⟩ := of_decide_eq_true (List.all_eq_true.mp hall c h)
  exact ⟨hascii, hallowed, hdot⟩

/-- The ASCII form of a label is read as the same label. -/
theorem Label.ofText?_ascii {text : List Char} {l : Label} (h : Label.ofText? text = some l) :
    Label.ofText? l.ascii = some l := by
  have hread := h
  rw [Label.ofText?] at h
  -- Only a label beyond ASCII is not its own ASCII form.
  split at h
  · simp only [Option.bind_eq_bind, Option.bind_eq_some_iff, Option.guard_eq_some',
      Option.pure_def, Option.some.injEq] at h
    obtain ⟨characters, _, _, _, rfl⟩ := h
    exact hread
  · split at h
    · obtain rfl := Option.some.inj h
      exact hread
    · simp only [Option.bind_eq_bind, Option.bind_eq_some_iff, Option.guard_eq_some',
        Option.pure_def, Option.some.injEq] at h
      obtain ⟨_, hadmissible, puny, hpuny, rfl⟩ := h
      have hmarked : marker.isPrefixOf (marker ++ puny) = true := by simp
      have hdrop : (marker ++ puny).drop marker.length = puny := by simp
      rw [Label.ofText?, if_pos hmarked, hdrop, Punycode.decode?_of_encode? hpuny]
      simp [guard, hadmissible, hpuny]

/-- What a label is written as holds nothing but characters that may stand in its ASCII form, if
this is so for the ASCII characters that it was written with. -/
theorem isLabelChar_of_mem_encode? {label puny : List Char} {c : Char}
    (h : Punycode.encode? label = some puny) (hc : c ∈ puny)
    (hleft : c ∈ label → isForbidden c = false ∧ c ≠ '.') : IsLabelChar c := by
  rcases Punycode.mem_of_encode? h c hc with ⟨hmem, hascii⟩ | rfl | hdigit
  · exact ⟨hascii, (hleft hmem).1, (hleft hmem).2⟩
  · exact isLabelChar_of_mem_marker (by decide)
  · exact isLabelChar_of_isDigit hdigit

/-- The ASCII form of a label has no other characters than the text of the label may have. -/
theorem isLabelChar_of_ofText? {text : List Char} {l : Label} (h : Label.ofText? text = some l)
    (htext : ∀ c ∈ text, isForbidden c = false ∧ c ≠ '.') : ∀ c ∈ l.ascii, IsLabelChar c := by
  rw [Label.ofText?] at h
  intro c hc
  split at h
  · rename_i hmarked
    simp only [Option.bind_eq_bind, Option.bind_eq_some_iff, Option.guard_eq_some',
      Option.pure_def, Option.some.injEq] at h
    obtain ⟨characters, _, _, ⟨_, hpuny⟩, rfl⟩ := h
    obtain ⟨puny, rfl⟩ := List.isPrefixOf_iff_prefix.mp hmarked
    rw [List.drop_left] at hpuny
    rcases List.mem_append.mp hc with hmarker | hmem
    · exact isLabelChar_of_mem_marker hmarker
    · exact isLabelChar_of_mem_encode? hpuny hmem fun _ => htext c hc
  · split at h
    · rename_i hascii
      obtain rfl := Option.some.inj h
      exact ⟨by simpa using List.all_eq_true.mp hascii c hc, (htext c hc).1, (htext c hc).2⟩
    · simp only [Option.bind_eq_bind, Option.bind_eq_some_iff, Option.guard_eq_some',
        Option.pure_def, Option.some.injEq] at h
      obtain ⟨_, _, puny, hpuny, rfl⟩ := h
      rcases List.mem_append.mp hc with hmarker | hmem
      · exact isLabelChar_of_mem_marker hmarker
      · exact isLabelChar_of_mem_encode? hpuny hmem (htext c)

/-- Labels that are read one by one from their ASCII forms are read together. -/
theorem mapM_ofText?_ascii {labels : List Label}
    (h : ∀ l ∈ labels, Label.ofText? l.ascii = some l) :
    (labels.map Label.ascii).mapM Label.ofText? = some labels := by
  induction labels with
  | nil => rfl
  | cons l labels ih =>
    have hrest := ih fun m hm => h m (by simp [hm])
    simp [List.mapM_cons, h l (by simp), hrest]

/-- Labels that are read from their ASCII forms and may stand in one name. -/
structure AreLabels (labels : List Label) : Prop where
  nonempty : labels ≠ []
  read : ∀ l ∈ labels, Label.ofText? l.ascii = some l
  chars : ∀ l ∈ labels, ∀ c ∈ l.ascii, IsLabelChar c
  directions : !(labels.any (·.characters.any isRightToLeft)) ∨
    labels.all (directionsFit ·.characters)

/-- The name that labels make up. -/
def nameOf (labels : List Label) : List Char := ['.'].intercalate (labels.map Label.ascii)

/-- A name holds nothing but ASCII characters that are not forbidden. -/
theorem AreLabels.forall_mem_nameOf {labels : List Label} (h : AreLabels labels) :
    ∀ c ∈ nameOf labels, c.toNat < 0x80 ∧ isForbidden c = false := by
  intro c hc
  rcases mem_of_mem_intercalate hc with rfl | ⟨part, hpart, hmem⟩
  · decide
  · obtain ⟨l, hl, rfl⟩ := List.mem_map.mp hpart
    have hchar := h.chars l hl c hmem
    exact ⟨hchar.ascii, hchar.allowed⟩

/-- The name that labels make up is its own ASCII form. -/
theorem AreLabels.toAscii?_nameOf {labels : List Label} (h : AreLabels labels) :
    toAscii? (nameOf labels) = some (nameOf labels) := by
  have hchars := h.forall_mem_nameOf
  have hascii : isAscii (nameOf labels) = true := by
    rw [isAscii, List.all_eq_true]
    intro c hc
    simpa using (hchars c hc).1
  have hlower : (nameOf labels).map Char.toLower = nameOf labels := by
    refine (List.map_congr_left fun c hc => ?_).trans (List.map_id _)
    have hupper : c.isUpper = false := by
      have hallowed := (hchars c hc).2
      simp only [isForbidden, Bool.or_eq_false_iff] at hallowed
      exact hallowed.1.2
    exact dif_neg (of_decide_eq_false hupper)
  have hsplit : (nameOf labels).splitOn '.' = labels.map Label.ascii := by
    apply List.splitOn_intercalate
    · intro part hpart hdot
      obtain ⟨l, hl, rfl⟩ := List.mem_map.mp hpart
      exact (h.chars l hl '.' hdot).noDot rfl
    · simpa using h.nonempty
  have hallowed : (!(nameOf labels).any isForbidden) = true := by
    simpa using fun c hc => (hchars c hc).2
  simp only [toAscii?, hascii, if_pos, hlower, Option.bind_eq_bind, Option.bind_some, hsplit,
    mapM_ofText?_ascii h.read, guard, if_pos h.directions, hallowed]
  rfl

/-- A name that is read is made up of labels. -/
theorem exists_labels_of_toAscii? {name ascii : List Char} (h : toAscii? name = some ascii) :
    ∃ labels, AreLabels labels ∧ ascii = nameOf labels := by
  obtain ⟨text, labels, hlabels, hdirections, hallowed, rfl⟩ : ∃ (text : List Char) (labels : List Label),
      (text.splitOn '.').mapM Label.ofText? = some labels ∧
      (!(labels.any (·.characters.any isRightToLeft)) ∨ labels.all (directionsFit ·.characters)) ∧
      (!text.any isForbidden) = true ∧ nameOf labels = ascii := by
    -- The name is read in the same way whether it is ASCII or not.
    rw [toAscii?] at h
    split at h
    all_goals
      simp only [Option.bind_eq_bind, Option.bind_eq_some_iff, Option.guard_eq_some',
        Option.pure_def, Option.some.injEq] at h
      obtain ⟨text, _, labels, hlabels, _, hdirections, _, hallowed, hascii⟩ := h
      exact ⟨text, labels, hlabels, hdirections, hallowed, hascii⟩
  have htext (part : List Char) (hpart : part ∈ text.splitOn '.') (c : Char) (hc : c ∈ part) :
      isForbidden c = false ∧ c ≠ '.' := by
    obtain ⟨hmem, hdot⟩ := mem_and_ne_of_mem_splitOn hpart c hc
    exact ⟨by simpa using List.any_eq_false.mp (by simpa using hallowed) c hmem, hdot⟩
  have hread (l : Label) (hl : l ∈ labels) := mem_of_mapM hlabels l hl
  refine ⟨labels, ⟨?_, ?_, ?_, hdirections⟩, rfl⟩
  · rintro rfl
    obtain ⟨first, parts, hparts⟩ := List.exists_cons_of_ne_nil (List.splitOn_ne_nil '.' text)
    simp [hparts, Option.bind_eq_some_iff] at hlabels
  · intro l hl
    obtain ⟨part, _, hpart⟩ := hread l hl
    exact Label.ofText?_ascii hpart
  · intro l hl
    obtain ⟨part, hmem, hpart⟩ := hread l hl
    exact isLabelChar_of_ofText? hpart (htext part hmem)

end DomainName

end Url

end Credentials
