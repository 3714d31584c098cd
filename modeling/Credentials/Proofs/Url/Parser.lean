import Credentials.Proofs.Url.Host
import Credentials.Proofs.Url.Path
import Credentials.Proofs.Url.Query
import Credentials.Url.Parser
import Mathlib.Data.List.Basic
import Mathlib.Data.List.TakeWhile
import Mathlib.Tactic.SplitIfs

/-!
# Web addresses are read back

Every part of a web address that has been read is in its normal form, and a web address in normal
form is read from the text that it is written as. A query parameter may be added to it.
-/

namespace Credentials.Url

open Credentials.Text

/-! ## Characters of the parts -/

/-- A character that is left in a part is not one of those escaped in it. -/
theorem Part.notMem_reserved {p : Part} {c : Char} (h : p.escapes c = false) : c ∉ p.reserved := by
  simp only [Part.escapes, Bool.or_eq_false_iff] at h
  simpa using h.2

/-- A character that is left in a part where blanks are escaped is visible. -/
theorem Part.visible {p : Part} (hblank : ' ' ∈ p.reserved) {c : Char} (h : p.escapes c = false) :
    0x20 < c.toNat := by
  have hne : c.toNat ≠ ' '.toNat := by
    intro heq
    exact notMem_reserved h (Char.toNat_inj.mp heq ▸ hblank)
  simp only [Part.escapes, Bool.or_eq_false_iff, decide_eq_false_iff_not] at h
  have hcode : ' '.toNat = 0x20 := rfl
  omega

/-- Characters of a user stay in the authority. -/
theorem staysInAuthority_of_userinfo {c : Char} (h : Part.userinfo.escapes c = false) :
    staysInAuthority c = true := by
  have hvisible : 0x20 < c.toNat := Part.visible (by decide) h
  have hmark : c ∉ authorityMarks := by
    have hall : authorityMarks.all Part.userinfo.reserved.contains = true := by decide
    intro hmem
    exact Part.notMem_reserved h (List.contains_iff_mem.mp (List.all_eq_true.mp hall c hmem))
  simpa [staysInAuthority, hvisible] using hmark

/-- A character that stays in the authority is visible and none of the marks of other parts. -/
theorem visible_and_ne_of_staysInAuthority {c : Char} (h : staysInAuthority c = true) :
    0x20 < c.toNat ∧ Path.isSlash c = false ∧ c ≠ '?' ∧ c ≠ '#' ∧ c ≠ '@' := by
  simp only [staysInAuthority, authorityMarks, Bool.and_eq_true, decide_eq_true_eq,
    Bool.not_eq_true', List.contains_cons, List.contains_nil, Bool.or_false, Bool.or_eq_false_iff,
    beq_eq_false_iff_ne, ne_eq] at h
  obtain ⟨hvisible, hslash, hback, hquery, hfragment, hat⟩ := h
  exact ⟨hvisible, by simp [Path.isSlash, hslash, hback], hquery, hfragment, hat⟩

/-! ## Users -/

/-- A user whose name and password have been escaped. -/
structure User.IsNormal (user : User) : Prop where
  name : ∀ c ∈ user.name, Part.userinfo.escapes c = false
  password : ∀ c ∈ user.password, Part.userinfo.escapes c = false

/-- A user that has been read is escaped. -/
theorem User.isNormal_parse (text : List Char) : (User.parse text).IsNormal :=
  ⟨fun _ hc => Part.lawful_userinfo.escapes_of_mem_encode hc,
    fun _ hc => Part.lawful_userinfo.escapes_of_mem_encode hc⟩

/-- No user is a user without name and password. -/
theorem User.isNormal_empty : User.IsNormal ⟨[], []⟩ := ⟨by simp, by simp⟩

/-- The name and the password of a user with what separates them. -/
def User.credentials (user : User) : List Char :=
  user.name ++ if user.password.isEmpty then [] else ':' :: user.password

/-- A user is written as name and password and an at-sign. -/
theorem User.text_eq (user : User) :
    user.text = if user = ⟨[], []⟩ then [] else user.credentials ++ ['@'] := by
  obtain ⟨name, password⟩ := user
  cases name <;> cases password <;> simp [User.text, User.credentials]

/-- A user is read from name and password. -/
theorem User.IsNormal.parse_credentials {user : User} (h : user.IsNormal) :
    User.parse user.credentials = user := by
  have hname : ∀ c ∈ user.name, (c != ':') = true := by
    apply forall_bne_of_notMem
    exact fun hcolon => absurd (h.name ':' hcolon) (by decide)
  rw [User.parse, User.credentials, List.takeWhile_append_of_pos hname,
    List.dropWhile_append_of_pos hname]
  by_cases hpassword : user.password = []
  · simp only [hpassword, List.isEmpty_nil, if_true, List.takeWhile_nil, List.append_nil,
      List.dropWhile_nil, List.drop_nil, Part.encode_of_forall h.name]
    obtain ⟨name, password⟩ := user
    obtain rfl : password = [] := hpassword
    rfl
  · simp [hpassword, Part.encode_of_forall h.name, Part.encode_of_forall h.password]

/-- Names and passwords stay in the authority. -/
theorem User.IsNormal.stays {user : User} (h : user.IsNormal) :
    ∀ c ∈ user.credentials, staysInAuthority c = true := by
  intro c hc
  rw [User.credentials, List.mem_append] at hc
  rcases hc with hname | hpassword
  · exact staysInAuthority_of_userinfo (h.name c hname)
  · split at hpassword
    · cases hpassword
    · rcases List.mem_cons.mp hpassword with rfl | hpassword
      · decide
      · exact staysInAuthority_of_userinfo (h.password c hpassword)

/-- A text without at-signs has no user before it. -/
theorem splitUser_of_notMem {text : List Char} (h : '@' ∉ text) : splitUser text = (none, text) := by
  have hall : ∀ c ∈ text.reverse, (c != '@') = true := by
    apply forall_bne_of_notMem
    simpa using h
  rw [splitUser, List.takeWhile_eq_self_iff.mpr hall, List.reverse_reverse]
  simp

/-- The last at-sign ends the user. -/
theorem splitUser_append {text : List Char} (h : '@' ∉ text) (user : List Char) :
    splitUser (user ++ '@' :: text) = (some user, text) := by
  have hall : ∀ c ∈ text.reverse, (c != '@') = true := by
    apply forall_bne_of_notMem
    simpa using h
  have hhost : ((user ++ '@' :: text).reverse.takeWhile (· != '@')).reverse = text := by
    simp [List.takeWhile_append_of_pos hall]
  have hlonger : text.length ≠ (user ++ '@' :: text).length := by
    simp only [List.length_append, List.length_cons]
    omega
  have hlength : (user ++ '@' :: text).length - text.length - 1 = user.length := by
    simp only [List.length_append, List.length_cons]
    omega
  simp only [splitUser, hhost, if_neg hlonger, hlength, List.take_left]

/-- The user before a host is read. -/
theorem User.IsNormal.splitUser_append {user : User} (h : user.IsNormal) {host : List Char}
    (hhost : '@' ∉ host) : ∃ written, splitUser (user.text ++ host) = (written, host) ∧
      (written.map User.parse).getD ⟨[], []⟩ = user := by
  rw [User.text_eq]
  split_ifs with hempty
  · exact ⟨none, splitUser_of_notMem hhost, hempty.symm⟩
  · refine ⟨some user.credentials, ?_, h.parse_credentials⟩
    rw [List.append_assoc]
    exact Url.splitUser_append hhost user.credentials

/-! ## Ports -/

/-- How the port is written after the host. -/
def portText (port : Option Nat) : List Char := marked ':' (port.map (Nat.toDigits 10))

/-- A port is nothing or follows a colon. -/
theorem portText_eq_or (port : Option Nat) : portText port = [] ∨ (portText port).head? = some ':' := by
  cases port with
  | none => exact Or.inl rfl
  | some p => exact Or.inr rfl

/-- Ports stay in the authority. -/
theorem stays_portText (port : Option Nat) : ∀ c ∈ portText port, staysInAuthority c = true := by
  cases port with
  | none => simp [portText, marked]
  | some p =>
    exact List.forall_mem_cons.mpr ⟨by decide, forall_mem_toDigits (by decide) (by decide) p⟩

/-- A port of sixteen bits is read from its text. -/
theorem parsePort?_portText {port : Option Nat} (h : ∀ p ∈ port, p < UInt16.size) :
    parsePort? (portText port) = some port := by
  cases port with
  | none => rfl
  | some p =>
    have hdigits : ∀ c ∈ Nat.toDigits 10 p, (c != '\\') = true :=
      forall_mem_toDigits (by decide) (by decide) p
    have hall : (Nat.toDigits 10 p).all Char.isDigit = true := by
      rw [List.all_eq_true]
      exact fun c hc => Nat.isDigit_of_mem_toDigits (by decide) (by decide) hc
    have hread : ((portText (some p)).drop 1).takeWhile (· != '\\') = Nat.toDigits 10 p :=
      List.takeWhile_eq_self_iff.mpr hdigits
    rw [parsePort?, hread]
    split
    · rename_i hnil
      exact absurd hnil Nat.toDigits_ne_nil
    · simp [hall, numberIn?_toDigits, guard, h p rfl]

/-- A port that is read has sixteen bits. -/
theorem lt_of_parsePort? {text : List Char} {port : Option Nat} (h : parsePort? text = some port) :
    ∀ p ∈ port, p < UInt16.size := by
  rw [parsePort?] at h
  split at h
  · obtain rfl := Option.some.inj h
    simp
  · simp only [Option.bind_eq_bind, Option.bind_eq_some_iff, Option.guard_eq_some',
      Option.pure_def, Option.some.injEq] at h
    obtain ⟨_, _, n, _, _, hn, rfl⟩ := h
    simpa using hn

/-! ## Marks -/

/-- A part is split off at the first of its marks. -/
theorem splitMark_append {mark : Char} {text : List Char} (h : mark ∉ text)
    (part : Option (List Char)) : splitMark mark (text ++ marked mark part) = (text, part) := by
  have hall := forall_bne_of_notMem h
  rw [splitMark, List.dropWhile_append_of_pos hall, List.takeWhile_append_of_pos hall]
  cases part with
  | none => simp [marked]
  | some part => simp [marked]

/-! ## Web addresses -/

/-- A web address of which every part is as it is read. -/
structure IsNormal (u : Url) : Prop where
  user : u.user.IsNormal
  host : u.host.IsNormal
  port : ∀ p ∈ u.port, p < UInt16.size ∧ p ≠ u.scheme.defaultPort
  path : Path.IsNormal u.path
  query : ∀ q ∈ u.query, ∀ c ∈ q, Part.query.escapes c = false
  fragment : ∀ f ∈ u.fragment, ∀ c ∈ f, Part.fragment.escapes c = false

/-- A web address that has been read is in normal form. -/
theorem isNormal_of_parseWeb? {scheme : Scheme} {text : List Char} {u : Url}
    (h : parseWeb? scheme text = some u) : u.IsNormal := by
  obtain ⟨outline, houtline, hrest⟩ := Option.bind_eq_some_iff.mp h
  obtain ⟨host, hhost, hurl⟩ := Option.bind_eq_some_iff.mp hrest
  obtain rfl := Option.some.inj hurl
  have hport : ∀ p ∈ outline.port, p < UInt16.size := by
    simp only [Outline.parse?, Option.bind_eq_bind, Option.bind_eq_some_iff,
      Option.guard_eq_some', Option.pure_def, Option.some.injEq] at houtline
    obtain ⟨_, _, port, hport, rfl⟩ := houtline
    exact lt_of_parsePort? hport
  refine ⟨?_, Host.isNormal_of_parse? hhost, ?_, Path.isNormal_parse _, ?_, ?_⟩
  · cases houser : outline.user with
    | none => exact User.isNormal_empty
    | some user => exact User.isNormal_parse user
  · intro p hp
    by_cases hdefault : outline.port = some scheme.defaultPort
    · rw [Option.mem_def, if_pos hdefault] at hp
      cases hp
    · rw [Option.mem_def, if_neg hdefault] at hp
      refine ⟨hport p hp, ?_⟩
      rintro rfl
      exact hdefault hp
  · intro q hq c hc
    obtain ⟨raw, _, rfl⟩ := Option.map_eq_some_iff.mp hq
    exact Part.lawful_query.escapes_of_mem_encode hc
  · intro f hf c hc
    obtain ⟨raw, _, rfl⟩ := Option.map_eq_some_iff.mp hf
    exact Part.lawful_fragment.escapes_of_mem_encode hc

/-- A web address with one more parameter is in normal form. -/
theorem IsNormal.addParameter {u : Url} (h : u.IsNormal) (name value : List Char) :
    (u.addParameter name value).IsNormal := by
  refine ⟨h.user, h.host, h.port, h.path, ?_, h.fragment⟩
  intro q hq c hc
  obtain rfl := Option.some.inj hq
  simp only [Form.append, List.mem_append, List.mem_cons] at hc
  rcases hc with ((hquery | hamp) | hname) | rfl | hvalue
  · cases hq : u.query with
    | none => simp [hq] at hquery
    | some q => exact h.query q hq c (by simpa [hq] using hquery)
  · split at hamp
    · cases hamp
    · obtain rfl : c = '&' := by simpa using hamp
      decide
  · exact Form.escapes_query_of_mem_encode hname
  · decide
  · exact Form.escapes_query_of_mem_encode hvalue

/-- What stands between the scheme and the path. -/
def authority (u : Url) : List Char := u.user.text ++ (u.host.text ++ portText u.port)

/-- What stands after the slashes that follow the scheme. -/
def afterSlashes (u : Url) : List Char :=
  u.authority ++ Path.text u.path ++ marked '?' u.query ++ marked '#' u.fragment

/-- The text of a web address by its parts. -/
theorem text_eq (u : Url) : u.text = u.scheme.text ++ ':' :: '/' :: '/' :: u.afterSlashes := by
  simp [text, afterSlashes, authority, portText]

/-- The host and the port stay in the authority. -/
theorem IsNormal.stays_host {u : Url} (h : u.IsNormal) :
    ∀ c ∈ u.host.text ++ portText u.port, staysInAuthority c = true := by
  intro c hc
  rcases List.mem_append.mp hc with hc | hc
  · exact h.host.stays c hc
  · exact stays_portText u.port c hc

/-- No character of an authority ends it. -/
theorem IsNormal.authority_chars {u : Url} (h : u.IsNormal) : ∀ c ∈ u.authority,
    0x20 < c.toNat ∧ Path.isSlash c = false ∧ c ≠ '?' ∧ c ≠ '#' := by
  have hstays (c : Char) (hc : staysInAuthority c = true) :
      0x20 < c.toNat ∧ Path.isSlash c = false ∧ c ≠ '?' ∧ c ≠ '#' := by
    obtain ⟨hvisible, hslash, hquery, hfragment, _⟩ := visible_and_ne_of_staysInAuthority hc
    exact ⟨hvisible, hslash, hquery, hfragment⟩
  intro c hc
  rcases List.mem_append.mp hc with huser | hhost
  · rw [User.text_eq] at huser
    split at huser
    · cases huser
    · rcases List.mem_append.mp huser with hcredentials | hat
      · exact hstays c (h.user.stays c hcredentials)
      · obtain rfl : c = '@' := by simpa using hat
        decide
  · exact hstays c (h.stays_host c hhost)

/-- No character of a path is dropped or ends it. -/
theorem IsNormal.path_chars {u : Url} (h : u.IsNormal) : ∀ c ∈ Path.text u.path,
    0x20 < c.toNat ∧ c ≠ '?' ∧ c ≠ '#' := by
  intro c hc
  have hescapes := h.path.escapes_of_mem_text hc
  have hreserved := Part.notMem_reserved hescapes
  refine ⟨Part.visible (by decide) hescapes, ?_, ?_⟩
  · rintro rfl
    exact hreserved (by decide)
  · rintro rfl
    exact hreserved (by decide)

/-- No character of a web address is dropped when it is read. -/
theorem IsNormal.visible {u : Url} (h : u.IsNormal) : ∀ c ∈ u.text, 0x20 < c.toNat := by
  have hmarked {mark : Char} {part : Option (List Char)} {p : Part} (hmark : 0x20 < mark.toNat)
      (hblank : ' ' ∈ p.reserved) (hpart : ∀ t ∈ part, ∀ c ∈ t, p.escapes c = false) :
      ∀ c ∈ marked mark part, 0x20 < c.toNat := by
    cases part with
    | none => simp [marked]
    | some t =>
      intro c hc
      rcases List.mem_cons.mp hc with rfl | hc
      · exact hmark
      · exact Part.visible hblank (hpart t rfl c hc)
  have hscheme : ∀ c ∈ u.scheme.text, 0x20 < c.toNat := by
    cases u.scheme <;> simp [Scheme.text]
  intro c hc
  simp only [text_eq, afterSlashes, List.mem_append, List.mem_cons] at hc
  rcases hc with hc | rfl | rfl | rfl | ((hc | hc) | hc) | hc
  · exact hscheme c hc
  · decide
  · decide
  · decide
  · exact (h.authority_chars c hc).1
  · exact (h.path_chars c hc).1
  · exact hmarked (by decide) (by decide) h.query c hc
  · exact hmarked (by decide) (by decide) h.fragment c hc

/-- The parts of a web address are found in its text. -/
theorem IsNormal.outline {u : Url} (h : u.IsNormal) : ∃ written,
    Outline.parse? Path.isSlash u.afterSlashes =
      some ⟨written, u.host.text, u.port, Path.text u.path, u.query, u.fragment⟩ ∧
      (written.map User.parse).getD ⟨[], []⟩ = u.user := by
  have hat : '@' ∉ u.host.text ++ portText u.port := by
    intro hmem
    exact (visible_and_ne_of_staysInAuthority (h.stays_host '@' hmem)).2.2.2.2 rfl
  obtain ⟨written, hsplit, huser⟩ := h.user.splitUser_append hat
  have hfragment : '#' ∉ u.authority ++ Path.text u.path ++ marked '?' u.query := by
    intro hmem
    simp only [List.mem_append] at hmem
    rcases hmem with (hmem | hmem) | hmem
    · exact (h.authority_chars _ hmem).2.2.2 rfl
    · exact (h.path_chars _ hmem).2.2 rfl
    · cases hq : u.query with
      | none => simp [hq, marked] at hmem
      | some q =>
        rw [hq] at hmem
        rcases List.mem_cons.mp hmem with heq | hmem
        · exact absurd heq (by decide)
        · exact absurd (h.query q hq '#' hmem) (by decide)
  have hquery : '?' ∉ u.authority ++ Path.text u.path := by
    intro hmem
    rcases List.mem_append.mp hmem with hmem | hmem
    · exact (h.authority_chars _ hmem).2.2.1 rfl
    · exact (h.path_chars _ hmem).2.1 rfl
  -- The path begins with the slash of its first segment.
  have hauthority : (u.authority ++ Path.text u.path).takeWhile (!Path.isSlash ·) = u.authority := by
    have hall : ∀ c ∈ u.authority, (!Path.isSlash c) = true := by
      intro c hc
      simp [(h.authority_chars c hc).2.1]
    obtain ⟨segment, segments, hpath⟩ := List.exists_cons_of_ne_nil h.path.nonempty
    rw [List.takeWhile_append_of_pos hall, hpath, Path.text, List.flatMap_cons, List.cons_append,
      List.takeWhile_cons_of_neg (by decide), List.append_nil]
  have hport := parsePort?_portText fun p hp => (h.port p hp).1
  have hhost := h.host.ends (portText u.port) (portText_eq_or u.port)
  refine ⟨written, ?_, huser⟩
  simp only [Outline.parse?, afterSlashes, splitMark_append hfragment, splitMark_append hquery, hauthority,
    List.drop_left, Option.bind_eq_bind, Option.pure_def]
  rw [authority, hsplit]
  simp [hhost, hport, guard, h.host.nonempty]

/-- A web address is read from what follows its scheme. -/
theorem IsNormal.parseWeb?_text {u : Url} (h : u.IsNormal) :
    parseWeb? u.scheme ('/' :: '/' :: u.afterSlashes) = some u := by
  obtain ⟨written, houtline, huser⟩ := h.outline
  -- The authority is not empty, and its first character is no slash.
  have hslashes : List.dropWhile Path.isSlash ('/' :: '/' :: u.afterSlashes) = u.afterSlashes := by
    have hnonempty : u.authority ≠ [] := by simp [authority, h.host.nonempty]
    obtain ⟨c, rest, hrest⟩ := List.exists_cons_of_ne_nil hnonempty
    have hc := (h.authority_chars c (hrest ▸ List.mem_cons_self)).2.1
    rw [List.dropWhile_cons_of_pos (by decide), List.dropWhile_cons_of_pos (by decide),
      afterSlashes, hrest]
    simp only [List.cons_append]
    rw [List.dropWhile_cons_of_neg (by simp [hc])]
  have hport : ¬ u.port = some u.scheme.defaultPort := fun heq => (h.port _ heq).2 rfl
  have hquery : u.query.map Part.query.encode = u.query := by
    cases hq : u.query with
    | none => rfl
    | some q => exact congrArg some (Part.encode_of_forall (h.query q hq))
  have hfragment : u.fragment.map Part.fragment.encode = u.fragment := by
    cases hf : u.fragment with
    | none => rfl
    | some f => exact congrArg some (Part.encode_of_forall (h.fragment f hf))
  simp only [parseWeb?, hslashes, houtline, Option.bind_eq_bind, Option.bind_some, h.host.read,
    huser, if_neg hport, h.path.parse_text, hquery, hfragment, Option.pure_def]

/-! ## Absolute URLs -/

/-- A text of visible characters is left as it is. -/
theorem clean_of_forall {text : List Char} (h : ∀ c ∈ text, 0x20 < c.toNat) : clean text = text := by
  have hedge {text : List Char} (h : ∀ c ∈ text, 0x20 < c.toNat) : text.dropWhile isEdge = text := by
    cases text with
    | nil => rfl
    | cons c text =>
      have hc := h c List.mem_cons_self
      exact List.dropWhile_cons_of_neg (by simpa [isEdge] using hc)
  have hbreak : ∀ c ∈ text, (!isBreak c) = true := by
    intro c hc
    have hvisible := h c hc
    have hne (d : Char) (hd : d.toNat ≤ 0x20) : c ≠ d := by
      rintro rfl
      omega
    simp [isBreak, hne]
  rw [clean, hedge h, hedge fun c hc => h c (List.mem_reverse.mp hc), List.reverse_reverse,
    List.filter_eq_self.mpr hbreak]

/-- A scheme of the web is split off. -/
theorem splitScheme?_text (scheme : Scheme) (rest : List Char) :
    splitScheme? (scheme.text ++ ':' :: rest) = some (scheme.text, rest) := by
  cases scheme <;> rfl

/-- What follows a scheme of the web is read as a web address. -/
theorem parse?_of_splitScheme? {raw : String} {scheme : Scheme} {rest : List Char}
    (h : splitScheme? (clean raw.toList) = some (scheme.text, rest)) :
    AbsoluteUrl.parse? raw = (parseWeb? scheme rest).map .web := by
  rw [AbsoluteUrl.parse?, h]
  cases scheme <;> simp only [Scheme.text, Option.bind_eq_bind, Option.bind_some] <;>
    cases parseWeb? _ rest <;> rfl

/-- Web addresses are only read where a scheme of the web comes first. -/
theorem exists_parseWeb?_of_parse? {raw : String} {u : Url}
    (h : AbsoluteUrl.parse? raw = some (.web u)) :
    ∃ scheme rest, parseWeb? scheme rest = some u := by
  have hnetwork (rest : List Char) : parseNetwork? rest ≠ some (.web u) := by
    simp [parseNetwork?]
  have hfile (rest : List Char) : parseFile? rest ≠ some (.web u) := by
    rw [parseFile?.eq_def]
    split
    · dsimp only
      split_ifs <;> simp
    · simp
  have hgeneric (rest : List Char) : parseGeneric? rest ≠ some (.web u) := by
    rw [parseGeneric?.eq_def]
    split <;> simp [Option.bind_eq_some_iff]
  have hweb {scheme : Scheme} {rest : List Char}
      (h : (parseWeb? scheme rest).bind (fun url => some (.web url)) = some (AbsoluteUrl.web u)) :
      parseWeb? scheme rest = some u := by
    obtain ⟨url, hurl, hsome⟩ := Option.bind_eq_some_iff.mp h
    simpa using hurl.trans (by simpa using hsome)
  -- The cases are those of the scheme: the web, the three like it, files, and any other.
  obtain ⟨⟨scheme, rest⟩, _, hrest⟩ := Option.bind_eq_some_iff.mp h
  dsimp only at hrest
  split at hrest
  · exact ⟨.https, rest, hweb hrest⟩
  · exact ⟨.http, rest, hweb hrest⟩
  · exact absurd hrest (hnetwork rest)
  · exact absurd hrest (hnetwork rest)
  · exact absurd hrest (hnetwork rest)
  · exact absurd hrest (hfile rest)
  · exact absurd hrest (hgeneric rest)

/-- A web address that has been read, whatever the text, is in normal form. -/
theorem isNormal_of_parse? {raw : String} {u : Url} (h : AbsoluteUrl.parse? raw = some (.web u)) :
    u.IsNormal := by
  obtain ⟨_, _, hweb⟩ := exists_parseWeb?_of_parse? h
  exact isNormal_of_parseWeb? hweb

/-- A web address in normal form is read from the text that it is written as. -/
theorem IsNormal.parse?_text {u : Url} (h : u.IsNormal) :
    AbsoluteUrl.parse? (.ofList u.text) = some (.web u) := by
  have hsplit : splitScheme? (clean (String.ofList u.text).toList) =
      some (u.scheme.text, '/' :: '/' :: u.afterSlashes) := by
    rw [String.toList_ofList, clean_of_forall h.visible, text_eq, splitScheme?_text]
  rw [parse?_of_splitScheme? hsplit, h.parseWeb?_text]
  rfl

end Credentials.Url
