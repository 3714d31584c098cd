import Credentials.Proofs.Bytes.Utf8
import Credentials.Proofs.Url.DomainName
import Credentials.Proofs.Url.Percent
import Credentials.Url.Parser

/-!
# Hosts are read back

A host that has been read, from whatever text, is read again from the text that it is written as.
Nothing in this text ends the host before its port.
-/

namespace Credentials.Url

open Credentials.Text

/-! ## Splitting off the port -/

/-- Characters that end the user, or the user and the host. -/
def authorityMarks : List Char := ['/', '\\', '?', '#', '@']

/-- Whether a character is part of a URL wherever it stands, and ends neither user nor host. -/
def staysInAuthority (c : Char) : Bool := 0x20 < c.toNat && !authorityMarks.contains c

/-- Characters that neither end the host nor open or close brackets belong to the host. -/
theorem splitPort_append {inBrackets : Bool} {text : List Char}
    (h : ∀ c ∈ text, (c == ':' && !inBrackets) = false ∧
      (c == '[' || (inBrackets && c != ']')) = inBrackets) (rest : List Char) :
    splitPort inBrackets (text ++ rest) =
      (text ++ (splitPort inBrackets rest).1, (splitPort inBrackets rest).2) := by
  induction text with
  | nil => rfl
  | cons c text ih =>
    obtain ⟨hcolon, hbrackets⟩ := h c (by simp)
    have htext := ih fun d hd => h d (by simp [hd])
    rw [List.cons_append, splitPort, hcolon, if_neg (by decide)]
    simp only [hbrackets, htext, List.cons_append]

/-- The host is what stands before the port. -/
def EndsBeforePort (text : List Char) : Prop :=
  ∀ port : List Char, port = [] ∨ port.head? = some ':' →
    splitPort false (text ++ port) = (text, port)

/-- A port has no host before it. -/
theorem endsBeforePort_nil : EndsBeforePort [] := by
  rintro (_ | ⟨c, port⟩) hport
  · rfl
  · obtain rfl : c = ':' := by simpa using hport
    rfl

/-- A host without colons and brackets ends where its port begins. -/
theorem endsBeforePort_of_forall {text : List Char} (h : ∀ c ∈ text, c ≠ ':' ∧ c ≠ '[') :
    EndsBeforePort text := by
  intro port hport
  have hchars : ∀ c ∈ text, (c == ':' && !false) = false ∧
      (c == '[' || (false && c != ']')) = false := by simpa using h
  have hnone := endsBeforePort_nil port hport
  rw [List.nil_append] at hnone
  rw [splitPort_append hchars, hnone, List.append_nil]

/-- A host in brackets ends with the closing one. -/
theorem endsBeforePort_brackets {text : List Char} (h : ']' ∉ text) :
    EndsBeforePort ('[' :: text ++ [']']) := by
  intro port hport
  have hchars : ∀ c ∈ text, (c == ':' && !true) = false ∧
      (c == '[' || (true && c != ']')) = true := by
    intro c hc
    have hclose : c ≠ ']' := by
      rintro rfl
      exact h hc
    simp [hclose]
  have hclosed : splitPort true (']' :: port) = ([']'], port) := by
    have hnone := endsBeforePort_nil port hport
    rw [List.nil_append] at hnone
    rw [splitPort]
    simp [hnone]
  have hopen : splitPort false ('[' :: (text ++ ']' :: port)) =
      ('[' :: (splitPort true (text ++ ']' :: port)).1,
        (splitPort true (text ++ ']' :: port)).2) := rfl
  have htext : '[' :: text ++ [']'] ++ port = '[' :: (text ++ ']' :: port) := by simp
  rw [htext, hopen, splitPort_append hchars, hclosed]
  rfl

/-! ## Hosts -/

namespace Host

/-- A host that is read from the text that it is written as, with a port after it or without. -/
structure IsNormal (h : Host) : Prop where
  read : parse? h.text = some h
  nonempty : h.text ≠ []
  stays : ∀ c ∈ h.text, staysInAuthority c = true
  ends : EndsBeforePort h.text

/-- A name in ASCII is read as a domain unless it is numeric. -/
theorem parse?_of_toAscii? {name : List Char} (h : DomainName.toAscii? name = some name)
    (hnonempty : name ≠ []) (hpercent : '%' ∉ name) (hbracket : '[' ∉ name) :
    parse? name =
      if Ipv4.isNumeric name then (Ipv4.parse? name).map .ipv4 else some (.domain name) := by
  have hread : Bytes.ofUtf8? (percentDecode name) = some name := by
    rw [percentDecode_of_notMem hpercent]
    exact Bytes.ofUtf8?_utf8 name
  rw [parse?]
  · simp only [hread, Option.bind_eq_bind, Option.bind_some, h, List.isEmpty_iff, hnonempty,
      if_false]
    cases Ipv4.parse? name <;> rfl
  · rintro text rfl
    exact hbracket List.mem_cons_self

/-- A host is an address or a name of labels. -/
theorem cases_of_parse? {text : List Char} {h : Host} (hread : parse? text = some h) :
    (∃ pieces, Ipv6.IsAddress pieces ∧ h = .ipv6 pieces) ∨
      (∃ address < Ipv4.size, h = .ipv4 address) ∨
      ∃ labels, DomainName.AreLabels labels ∧ DomainName.nameOf labels ≠ [] ∧
        ¬ Ipv4.isNumeric (DomainName.nameOf labels) ∧ h = .domain (DomainName.nameOf labels) := by
  rw [parse?.eq_def] at hread
  -- Brackets come first; a name is numeric or not only once it is in ASCII.
  split at hread
  · simp only [bracketed?, Option.bind_eq_bind, Option.bind_eq_some_iff, Option.pure_def,
      Option.some.injEq] at hread
    obtain ⟨_, _, pieces, hpieces, rfl⟩ := hread
    exact Or.inl ⟨pieces, Ipv6.isAddress_of_parse? hpieces, rfl⟩
  · obtain ⟨decoded, _, hrest⟩ := Option.bind_eq_some_iff.mp hread
    obtain ⟨name, hname, hhost⟩ := Option.bind_eq_some_iff.mp hrest
    obtain ⟨labels, hlabels, rfl⟩ := DomainName.exists_labels_of_toAscii? hname
    split_ifs at hhost with hempty hnumeric
    · obtain ⟨address, haddress, hsome⟩ := Option.bind_eq_some_iff.mp hhost
      obtain rfl := Option.some.inj hsome
      exact Or.inr (Or.inl ⟨address, Ipv4.parse?_lt haddress, rfl⟩)
    · obtain rfl := Option.some.inj hhost
      exact Or.inr (Or.inr ⟨labels, hlabels, by simpa using hempty, hnumeric, rfl⟩)

/-- A name of labels that is not numeric is read back. -/
theorem isNormal_domain {labels : List DomainName.Label} (h : DomainName.AreLabels labels)
    (hnonempty : DomainName.nameOf labels ≠ [])
    (hnumeric : ¬ Ipv4.isNumeric (DomainName.nameOf labels)) :
    IsNormal (.domain (DomainName.nameOf labels)) := by
  have hallowed (d : Char) (hd : DomainName.isForbidden d = true) :
      d ∉ DomainName.nameOf labels := by
    intro hmem
    rw [(h.forall_mem_nameOf d hmem).2] at hd
    cases hd
  refine ⟨?_, hnonempty, ?_, ?_⟩
  · rw [text, parse?_of_toAscii? h.toAscii?_nameOf hnonempty (hallowed '%' (by decide))
      (hallowed '[' (by decide)), if_neg hnumeric]
  · intro c hc
    have hforbidden := (h.forall_mem_nameOf c hc).2
    have hmark : c ∉ authorityMarks := by
      have hall : authorityMarks.all DomainName.isForbidden = true := by decide
      intro hmem
      exact hallowed c (List.all_eq_true.mp hall c hmem) hc
    have hvisible : 0x20 < c.toNat := by
      simp only [DomainName.isForbidden, Bool.or_eq_false_iff, decide_eq_false_iff_not] at hforbidden
      omega
    simpa [staysInAuthority, hvisible] using hmark
  · apply endsBeforePort_of_forall
    intro c hc
    constructor
    · rintro rfl
      exact hallowed ':' (by decide) hc
    · rintro rfl
      exact hallowed '[' (by decide) hc

/-- The decimal digits of the bytes of an address as labels. -/
def byteLabels (address : Nat) : List DomainName.Label :=
  (Ipv4.bytes address).map fun n => ⟨Nat.toDigits 10 n, Nat.toDigits 10 n⟩

/-- The text of an IPv4 address is a name of labels. -/
theorem nameOf_byteLabels (address : Nat) :
    DomainName.nameOf (byteLabels address) = Ipv4.text address := rfl

/-- Decimal digits are a label that stands for itself. -/
theorem ofText?_toDigits (n : Nat) :
    DomainName.Label.ofText? (Nat.toDigits 10 n) = some ⟨Nat.toDigits 10 n, Nat.toDigits 10 n⟩ := by
  have hdigits : ∀ c ∈ Nat.toDigits 10 n, c ≠ 'x' ∧ decide (c.toNat < 0x80) = true :=
    forall_mem_toDigits (by decide) (by decide) n
  have hmarker : ¬ DomainName.marker.isPrefixOf (Nat.toDigits 10 n) = true := by
    intro h
    obtain ⟨rest, hrest⟩ := List.isPrefixOf_iff_prefix.mp h
    have hx : 'x' ∈ Nat.toDigits 10 n := by
      rw [← hrest]
      simp [DomainName.marker]
    exact (hdigits 'x' hx).1 rfl
  have hascii : DomainName.isAscii (Nat.toDigits 10 n) = true := by
    rw [DomainName.isAscii, List.all_eq_true]
    exact fun c hc => (hdigits c hc).2
  rw [DomainName.Label.ofText?, if_neg hmarker, if_pos hascii]
  rfl

/-- The bytes of an address make up a name. -/
theorem areLabels_byteLabels (address : Nat) : DomainName.AreLabels (byteLabels address) := by
  have hlabel (l : DomainName.Label) (hl : l ∈ byteLabels address) :
      ∃ n, l = ⟨Nat.toDigits 10 n, Nat.toDigits 10 n⟩ := by
    obtain ⟨n, _, rfl⟩ := List.mem_map.mp hl
    exact ⟨n, rfl⟩
  have hdigits (n : Nat) : ∀ c ∈ Nat.toDigits 10 n, (c.toNat < 0x80 ∧
      DomainName.isForbidden c = false ∧ c ≠ '.') ∧ DomainName.isRightToLeft c = false :=
    forall_mem_toDigits (by decide) (by decide +kernel) n
  refine ⟨by simp [byteLabels, Ipv4.bytes], ?_, ?_, Or.inl ?_⟩
  · intro l hl
    obtain ⟨n, rfl⟩ := hlabel l hl
    exact ofText?_toDigits n
  · intro l hl c hc
    obtain ⟨n, rfl⟩ := hlabel l hl
    obtain ⟨⟨hascii, hallowed, hdot⟩, _⟩ := hdigits n c hc
    exact ⟨hascii, hallowed, hdot⟩
  · rw [Bool.not_eq_true', List.any_eq_false]
    intro l hl
    rw [Bool.not_eq_true, List.any_eq_false]
    intro c hc
    obtain ⟨n, rfl⟩ := hlabel l hl
    simp [(hdigits n c hc).2]

/-- An IPv4 address is read back. -/
theorem isNormal_ipv4 {address : Nat} (h : address < Ipv4.size) : IsNormal (.ipv4 address) := by
  obtain ⟨hnumeric, hread⟩ := Ipv4.parse?_text h
  have hname := (areLabels_byteLabels address).toAscii?_nameOf
  rw [nameOf_byteLabels] at hname
  have hnonempty : Ipv4.text address ≠ [] := by
    intro hnil
    rw [hnil] at hnumeric
    exact absurd hnumeric (by decide)
  refine ⟨?_, hnonempty, ?_, ?_⟩
  · have hmarks : ∀ c ∈ Ipv4.text address, c ≠ '%' ∧ c ≠ '[' :=
      Ipv4.forall_mem_text (by decide) (by decide) address
    rw [text, parse?_of_toAscii? hname hnonempty (fun hmem => (hmarks _ hmem).1 rfl)
      (fun hmem => (hmarks _ hmem).2 rfl), if_pos hnumeric, hread]
    rfl
  · exact Ipv4.forall_mem_text (by decide) (by decide) address
  · exact endsBeforePort_of_forall (Ipv4.forall_mem_text (by decide) (by decide) address)

/-- An IPv6 address is read back. -/
theorem isNormal_ipv6 {pieces : List Nat} (h : Ipv6.IsAddress pieces) :
    IsNormal (.ipv6 pieces) := by
  refine ⟨?_, by simp [text], ?_, ?_⟩
  · have hlast : (Ipv6.text pieces ++ [']']).getLast? = some ']' := by simp
    have hdrop : (Ipv6.text pieces ++ [']']).dropLast = Ipv6.text pieces := by simp
    rw [text, List.cons_append, parse?, bracketed?, hlast, hdrop, Ipv6.parse?_text h]
    rfl
  · have hstays : ∀ c ∈ Ipv6.text pieces, staysInAuthority c = true :=
      Ipv6.forall_mem_text (by decide) (by decide) pieces
    intro c hc
    simp only [text, List.cons_append, List.mem_cons, List.mem_append, List.not_mem_nil,
      or_false] at hc
    rcases hc with rfl | hc | rfl
    · decide
    · exact hstays c hc
    · decide
  · have hclose : ∀ c ∈ Ipv6.text pieces, c ≠ ']' :=
      Ipv6.forall_mem_text (by decide) (by decide) pieces
    exact endsBeforePort_brackets fun hmem => hclose _ hmem rfl

/-- A host that has been read is read again from what it is written as. -/
theorem isNormal_of_parse? {text : List Char} {h : Host} (hread : parse? text = some h) :
    h.IsNormal := by
  rcases cases_of_parse? hread with ⟨pieces, hpieces, rfl⟩ | ⟨address, haddress, rfl⟩ |
    ⟨labels, hlabels, hnonempty, hnumeric, rfl⟩
  · exact isNormal_ipv6 hpieces
  · exact isNormal_ipv4 haddress
  · exact isNormal_domain hlabels hnonempty hnumeric

end Host

end Credentials.Url
