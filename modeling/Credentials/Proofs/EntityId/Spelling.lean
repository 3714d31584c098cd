import Credentials.Proofs.EntityId.Order
import Credentials.Proofs.Url.Address

/-!
# Texts that are read as ids

An id is read from its canonical text in any case, as it stands, without its hyphens, in braces or
behind the name of a URN, and from no other text.
-/

namespace Credentials

/-! ## Parts of a text -/

/-- What is between separators after a change of single characters has been there before. -/
theorem exists_intercalate_of_map {sep : Char} {f : Char → Char} (hsep : ∀ c, f c = sep ↔ c = sep)
    {text : List Char} {parts : List (List Char)} (hparts : parts ≠ [])
    (h : text.map f = [sep].intercalate parts) :
    ∃ before, text = [sep].intercalate before ∧ before.map (List.map f) = parts := by
  induction parts generalizing text with
  | nil => exact absurd rfl hparts
  | cons first parts ih =>
    cases parts with
    | nil => exact ⟨[text], by simp, by simpa using h⟩
    | cons second parts =>
      rw [List.intercalate_cons_cons, List.append_assoc, List.map_eq_append_iff] at h
      obtain ⟨start, rest, rfl, hstart, hrest⟩ := h
      rw [List.singleton_append, List.map_eq_cons_iff] at hrest
      obtain ⟨c, rest, rfl, hc, hrest⟩ := hrest
      obtain ⟨before, rfl, hbefore⟩ := ih (by simp) hrest
      obtain rfl := (hsep c).mp hc
      cases before with
      | nil => simp at hbefore
      | cons next before =>
        refine ⟨start :: next :: before, by simp [List.intercalate_cons_cons], ?_⟩
        rw [List.map_cons, hstart, hbefore]

/-- A change of single characters that keeps a separator changes what is between separators. -/
theorem map_intercalate {sep : Char} {f : Char → Char} (hsep : f sep = sep)
    (parts : List (List Char)) :
    ([sep].intercalate parts).map f = [sep].intercalate (parts.map (List.map f)) := by
  induction parts with
  | nil => rfl
  | cons first parts ih =>
    cases parts with
    | nil => simp
    | cons second parts =>
      rw [List.map_cons] at ih
      simp [List.intercalate_cons_cons, ih, hsep]

/-- Without its separators, a text is what is between them. -/
theorem filter_intercalate {sep : Char} {parts : List (List Char)}
    (h : ∀ part ∈ parts, sep ∉ part) :
    ([sep].intercalate parts).filter (· ≠ sep) = parts.flatten := by
  induction parts with
  | nil => rfl
  | cons first parts ih =>
    obtain ⟨hfirst, hrest⟩ := List.forall_mem_cons.mp h
    have hkept : first.filter (· ≠ sep) = first := by
      rw [List.filter_eq_self]
      intro c hc
      exact decide_eq_true fun heq => hfirst (heq ▸ hc)
    cases parts with
    | nil => simpa using hkept
    | cons second parts =>
      rw [List.intercalate_cons_cons, List.filter_append, List.filter_append, ih hrest, hkept]
      simp

/-- Lists are cut out where they have been put together. -/
theorem splitLengths_flatten {α : Type} (parts : List (List α)) :
    (parts.map List.length).splitLengths parts.flatten = parts := by
  induction parts with
  | nil => rfl
  | cons first parts ih => simp [ih]

/-! ## Digits in any case -/

namespace Text

/-- The value of a digit is that of its lower-case form. -/
theorem hexValue?_eq_some_iff {c : Char} {d : Nat} :
    hexValue? c = some d ↔ d < 16 ∧ c.toLower = hexChar d := by
  have hcase : ∀ n < 128, ∀ d < 16,
      hexValue? (Char.ofNat n) = some d ↔ (Char.ofNat n).toLower = hexChar d := by decide
  have hvalue : ∀ n < 128, (hexValue? (Char.ofNat n)).all (· < 16) := by decide
  have hdigit : ∀ d < 16, (hexChar d).toNat < 128 := by decide
  by_cases hascii : c.toNat < 128
  · rw [← Char.ofNat_toNat c]
    constructor
    · intro h
      have hlt := hvalue c.toNat hascii
      rw [h, Option.all_some, decide_eq_true_iff] at hlt
      exact ⟨hlt, (hcase c.toNat hascii d hlt).mp h⟩
    · rintro ⟨hlt, h⟩
      exact (hcase c.toNat hascii d hlt).mpr h
  · -- Characters beyond ASCII are no digits, and no digits are made of them.
    have hbeyond {e : Char} (he : e.toNat < 128) : ¬ c ≤ e := fun hle => by
      have hnat : c.toNat ≤ e.toNat := UInt32.le_iff_toNat_le.mp hle
      omega
    have hnone : hexValue? c = none := by
      rw [hexValue?, if_neg fun h => hbeyond (by decide) h.2,
        if_neg fun h => hbeyond (by decide) h.2, if_neg fun h => hbeyond (by decide) h.2]
    have hlower : c.toLower = c := dif_neg fun h => hbeyond (e := 'Z') (by decide) h.2
    rw [hnone, hlower]
    constructor
    · intro h
      cases h
    · rintro ⟨hlt, rfl⟩
      exact absurd (hdigit d hlt) hascii

/-- Digits in any case spell the number whose digits they are in lower case. -/
theorem numberIn?_eq_some_iff {digits : List Char} {n : Nat} : numberIn? 16 digits = some n ↔
    n < 16 ^ digits.length ∧ digits.map Char.toLower = hexDigits digits.length n := by
  induction digits using List.reverseRecOn generalizing n with
  | nil => simp [numberIn?, hexDigits, eq_comm]
  | append_singleton digits c ih =>
    have hdigit (d : Nat) : digitIn? 16 c = some d ↔ d < 16 ∧ c.toLower = hexChar d := by
      rw [digitIn?, Option.filter_eq_some_iff, hexValue?_eq_some_iff]
      simp only [decide_eq_true_eq]
      tauto
    have hread : numberIn? 16 (digits ++ [c]) = some n ↔
        ∃ m, numberIn? 16 digits = some m ∧ ∃ d, digitIn? 16 c = some d ∧ m * 16 + d = n := by
      rw [numberIn?_append, Option.bind_eq_some_iff]
      simp
    rw [hread]
    simp only [ih, hdigit, List.length_append, List.length_singleton, List.map_append,
      List.map_cons, List.map_nil, hexDigits, Nat.pow_succ]
    constructor
    · rintro ⟨m, ⟨hm, hdigits⟩, d, ⟨hd, hc⟩, rfl⟩
      have hquotient : (m * 16 + d) / 16 = m := by omega
      have hrest : (m * 16 + d) % 16 = d % 16 := by omega
      exact ⟨by omega, by rw [hquotient, hdigits, hc, hexChar, hexChar, hrest]⟩
    · rintro ⟨hn, happend⟩
      obtain ⟨hdigits, hlast⟩ := List.append_inj happend (by simp)
      have hc : c.toLower = hexChar (n % 16) := by
        rw [hexChar, Nat.mod_mod]
        exact (List.cons.inj hlast).1
      exact ⟨n / 16, ⟨by omega, hdigits⟩, n % 16, ⟨by omega, hc⟩, by omega⟩

/-- The characters of a number are digits. -/
theorem exists_of_mem_hexDigits {n value : Nat} {c : Char} (h : c ∈ hexDigits n value) :
    ∃ d < 16, c = hexChar d := by
  induction n generalizing value with
  | zero => cases h
  | succ n ih =>
    rw [hexDigits, List.mem_append, List.mem_singleton] at h
    rcases h with h | rfl
    · exact ih h
    · exact ⟨value % 16, Nat.mod_lt _ (by decide), by rw [hexChar, hexChar, Nat.mod_mod]⟩

/-- No digit is a hyphen. -/
theorem hyphen_notMem_hexDigits {n value : Nat} : '-' ∉ hexDigits n value := by
  have hall : ∀ d < 16, '-' ≠ hexChar d := by decide
  intro h
  obtain ⟨d, hd, heq⟩ := exists_of_mem_hexDigits h
  exact hall d hd heq

/-- Only a hyphen is a hyphen in lower case. -/
theorem toLower_eq_hyphen_iff (c : Char) : c.toLower = '-' ↔ c = '-' := by
  constructor
  · intro h
    by_cases hupper : 'A'.val ≤ c.val ∧ c.val ≤ 'Z'.val
    · have hlower : c.toLower.val = c.val + 32 := congrArg Char.val (dif_pos hupper)
      have hcode : (c.val + 32).toNat = 45 := hlower ▸ congrArg (·.val.toNat) h
      have hlow : 65 ≤ c.val.toNat := UInt32.le_iff_toNat_le.mp hupper.1
      have hhigh : c.val.toNat ≤ 90 := UInt32.le_iff_toNat_le.mp hupper.2
      rw [UInt32.toNat_add] at hcode
      have hthirtyTwo : (32 : UInt32).toNat = 32 := rfl
      omega
    · have hlower : c.toLower = c := dif_neg hupper
      rw [← hlower, h]
  · rintro rfl
    rfl

end Text

/-! ## Ids -/

namespace EntityId

open Text

variable {id : EntityId} {text : List Char}

/-- The groups of 32 digits are cut as they should be. -/
theorem groups_eq_iff {digits : List Char} (hlength : digits.length = 32)
    {parts : List (List Char)} : groups digits = parts ↔
      parts.map List.length = groupLengths ∧ parts.flatten = digits := by
  have hsum : groupLengths.sum = 32 := rfl
  rw [groups_eq_splitLengths]
  constructor
  · rintro rfl
    exact ⟨List.map_splitLengths_length _ _ (by omega), List.flatten_splitLengths _ _ (by omega)⟩
  · rintro ⟨hlengths, rfl⟩
    rw [← hlengths, splitLengths_flatten]

/-- Digits are read as the id that has them in lower case. -/
theorem ofDigits?_eq_some_iff {digits : List Char} :
    ofDigits? digits = some id ↔ digits.map Char.toLower = hexDigits 32 id.toNat := by
  have hread : ofDigits? digits = some id ↔
      digits.length = 32 ∧ ∃ n, numberIn? 16 digits = some n ∧ ofNat n = id := by
    simp [ofDigits?, Option.bind_eq_some_iff, Option.guard_eq_some']
  rw [hread]
  constructor
  · rintro ⟨hlength, n, hn, rfl⟩
    obtain ⟨hlt, hdigits⟩ := numberIn?_eq_some_iff.mp hn
    rw [hlength] at hlt hdigits
    have hfits : (ofNat n).toNat = n := Nat.mod_eq_of_lt hlt
    rw [hdigits, hfits]
  · intro h
    have hlength : digits.length = 32 := by simpa using congrArg List.length h
    have hlt : id.toNat < 16 ^ digits.length := by
      rw [hlength]
      exact id.lt
    refine ⟨hlength, id.toNat, numberIn?_eq_some_iff.mpr ⟨hlt, hlength ▸ h⟩, ?_⟩
    obtain ⟨n, hn⟩ := id
    exact (mk.injEq ..).mpr (Nat.mod_eq_of_lt hn)

/-- No group of the digits of an id has a hyphen in it. -/
theorem hyphen_notMem_groups (id : EntityId) :
    ∀ group ∈ groups (hexDigits 32 id.toNat), '-' ∉ group := by
  obtain ⟨_, hflatten⟩ := (groups_eq_iff (length_hexDigits 32 id.toNat)).mp rfl
  intro group hgroup hmem
  have hdigits : '-' ∈ hexDigits 32 id.toNat := by
    rw [← hflatten]
    exact List.mem_flatten_of_mem hgroup hmem
  exact hyphen_notMem_hexDigits hdigits

/-- The canonical text without its hyphens are the digits. -/
theorem filter_text (id : EntityId) : id.text.filter (· ≠ '-') = hexDigits 32 id.toNat := by
  obtain ⟨_, hflatten⟩ := (groups_eq_iff (length_hexDigits 32 id.toNat)).mp rfl
  rw [EntityId.text, filter_intercalate id.hyphen_notMem_groups, hflatten]

/-- Groups are read as the id whose canonical text they are in lower case. -/
theorem ofGroups?_eq_some_iff : ofGroups? text = some id ↔ text.map Char.toLower = id.text := by
  have hread : ofGroups? text = some id ↔
      (text.splitOn '-').map List.length = groupLengths ∧
        ofDigits? (text.splitOn '-').flatten = some id := by
    simp [ofGroups?, Option.bind_eq_some_iff, Option.guard_eq_some']
  have hlength := length_hexDigits 32 id.toNat
  rw [hread, ofDigits?_eq_some_iff, List.map_flatten, EntityId.text]
  constructor
  · rintro ⟨hlengths, hdigits⟩
    have hgroups : groups (hexDigits 32 id.toNat) =
        (text.splitOn '-').map (List.map Char.toLower) := by
      rw [groups_eq_iff hlength]
      exact ⟨by simpa [Function.comp_def] using hlengths, hdigits⟩
    rw [hgroups, ← map_intercalate ((toLower_eq_hyphen_iff '-').mpr rfl), List.intercalate_splitOn]
  · intro htext
    have hsome : groups (hexDigits 32 id.toNat) ≠ [] := by
      simp [groups_eq_splitLengths, groupLengths]
    obtain ⟨parts, rfl, hparts⟩ := exists_intercalate_of_map toLower_eq_hyphen_iff hsome htext
    obtain ⟨hlengths, hflatten⟩ := (groups_eq_iff hlength).mp hparts.symm
    have hsplit : (['-'].intercalate parts).splitOn '-' = parts := by
      apply List.splitOn_intercalate
      · intro part hpart hmem
        refine id.hyphen_notMem_groups (part.map Char.toLower) ?_ (List.mem_map_of_mem hmem)
        rw [← hparts]
        exact List.mem_map_of_mem hpart
      · rintro rfl
        exact hsome hparts.symm
    rw [hsplit]
    exact ⟨by simpa [Function.comp_def] using hlengths, hflatten⟩

/-! ## All spellings -/

/-- The texts that stand for an id: its canonical text, in any case, as it stands, without its
hyphens, in braces, or behind the name of a URN, which may be in any case too. -/
inductive IsSpelledBy (id : EntityId) : List Char → Prop where
  | hyphenated {text : List Char} (h : text.map Char.toLower = id.text) : IsSpelledBy id text
  | plain {text : List Char} (h : text.map Char.toLower = id.text.filter (· ≠ '-')) :
    IsSpelledBy id text
  | braced {text : List Char} (h : text.map Char.toLower = id.text) :
    IsSpelledBy id ('\x7b' :: text ++ ['\x7d'])
  | named {name text : List Char} (hname : name.map Char.toLower = "urn:uuid:".toList)
    (h : text.map Char.toLower = id.text) : IsSpelledBy id (name ++ text)

/-- A text in braces is read as what is between them. -/
theorem parse?_brace_eq_some_iff {rest : List Char} : parse? ('\x7b' :: rest) = some id ↔
    ∃ inner, rest = inner ++ ['\x7d'] ∧ inner.map Char.toLower = id.text := by
  have hread : parse? ('\x7b' :: rest) =
      if rest.getLast? = some '\x7d' then ofGroups? rest.dropLast else none := rfl
  rw [hread]
  constructor
  · intro h
    split_ifs at h with hlast
    exact ⟨rest.dropLast, (List.dropLast_append_getLast? _ hlast).symm, ofGroups?_eq_some_iff.mp h⟩
  · rintro ⟨inner, rfl, hinner⟩
    rw [List.getLast?_concat, if_pos rfl, List.dropLast_concat]
    exact ofGroups?_eq_some_iff.mpr hinner

/-- Other texts are read by their length and their beginning. -/
theorem parse?_of_head?_ne (h : text.head? ≠ some '\x7b') : parse? text =
    if text.length = 32 then ofDigits? text
    else if (text.take urn.length).map Char.toLower = urn then ofGroups? (text.drop urn.length)
    else ofGroups? text := by
  rw [parse?]
  rintro rest rfl
  exact h rfl

/-- A canonical text has 36 characters. -/
theorem length_text (id : EntityId) : id.text.length = 36 := by
  have hlength := congrArg List.length id.cons_text
  simpa [groupLengths] using hlength

/-- A canonical text holds digits and hyphens only. -/
theorem cases_of_mem_text {c : Char} (hc : c ∈ id.text) : c = '-' ∨ ∃ d < 16, c = hexChar d := by
  by_cases hhyphen : c = '-'
  · exact .inl hhyphen
  · have hmem : c ∈ id.text.filter (· ≠ '-') := List.mem_filter.mpr ⟨hc, decide_eq_true hhyphen⟩
    rw [filter_text] at hmem
    exact .inr (exists_of_mem_hexDigits hmem)

/-- What is neither a digit nor a hyphen is not in a canonical text. -/
theorem notMem_text {c : Char} (hhyphen : c ≠ '-') (hdigit : ∀ d < 16, c ≠ hexChar d) :
    c ∉ id.text := by
  intro hc
  rcases cases_of_mem_text hc with heq | ⟨d, hd, heq⟩
  · exact hhyphen heq
  · exact hdigit d hd heq

/-- A canonical text is in lower case. -/
theorem map_toLower_text (id : EntityId) : id.text.map Char.toLower = id.text := by
  have hdigit : ∀ d < 16, (hexChar d).toLower = hexChar d := by decide
  have hlower (c : Char) (hc : c ∈ id.text) : c.toLower = c := by
    rcases cases_of_mem_text hc with rfl | ⟨d, hd, rfl⟩
    · rfl
    · exact hdigit d hd
  calc id.text.map Char.toLower
    _ = id.text.map (fun c => c) := List.map_congr_left hlower
    _ = id.text := List.map_id' id.text

/-- What has the characters of a canonical text in lower case does not begin with a brace. -/
theorem head?_ne_brace (h : ∀ c ∈ text.map Char.toLower, c ∈ id.text) :
    text.head? ≠ some '\x7b' := by
  intro hhead
  have hbrace : '\x7b' ∈ text.map Char.toLower :=
    List.mem_map.mpr ⟨'\x7b', List.mem_of_head? hhead, rfl⟩
  exact notMem_text (by decide) (by decide) (h _ hbrace)

/-- Each spelling of an id is read as the id. -/
theorem parse?_of_isSpelledBy (h : id.IsSpelledBy text) : parse? text = some id := by
  have hurn : urn.length = 9 := rfl
  cases h with
  | hyphenated h =>
    have hlength : text.length = 36 := by simpa using (congrArg List.length h).trans id.length_text
    have hnamed : (text.take urn.length).map Char.toLower ≠ urn := by
      intro heq
      have hu : 'u' ∈ urn := List.mem_cons_self
      rw [← heq, List.map_take, h] at hu
      exact notMem_text (by decide) (by decide) (List.mem_of_mem_take hu)
    rw [parse?_of_head?_ne (head?_ne_brace fun c hc => h ▸ hc), if_neg (by omega), if_neg hnamed]
    exact ofGroups?_eq_some_iff.mpr h
  | plain h =>
    have hdigits := h.trans id.filter_text
    have hlength : text.length = 32 := by simpa using congrArg List.length hdigits
    have hmem (c : Char) (hc : c ∈ text.map Char.toLower) : c ∈ id.text := by
      rw [h] at hc
      exact List.mem_of_mem_filter hc
    rw [parse?_of_head?_ne (head?_ne_brace hmem), if_pos hlength]
    exact ofDigits?_eq_some_iff.mpr hdigits
  | @braced inner h => exact parse?_brace_eq_some_iff.mpr ⟨inner, rfl, h⟩
  | @named name inner hname h =>
    have hlength : name.length = urn.length := by
      rw [← List.length_map Char.toLower, hname]
      rfl
    have hinner : inner.length = 36 := by simpa using (congrArg List.length h).trans id.length_text
    have htotal : (name ++ inner).length ≠ 32 := by
      rw [List.length_append]
      omega
    have hbrace : (name ++ inner).head? ≠ some '\x7b' := by
      cases name with
      | nil => cases hlength
      | cons c name =>
        rintro heq
        obtain rfl := Option.some.inj heq
        exact absurd (List.cons.inj hname).1 (by decide)
    have hnamed : name.map Char.toLower = urn := hname
    rw [parse?_of_head?_ne hbrace, if_neg htotal, List.take_left' hlength, List.drop_left' hlength,
      if_pos hnamed]
    exact ofGroups?_eq_some_iff.mpr h

/-- What is read as an id is a spelling of it. -/
theorem isSpelledBy_of_parse? (h : parse? text = some id) : id.IsSpelledBy text := by
  by_cases hbrace : text.head? = some '\x7b'
  · obtain ⟨rest, rfl⟩ := List.head?_eq_some_iff.mp hbrace
    obtain ⟨inner, rfl, hinner⟩ := parse?_brace_eq_some_iff.mp h
    exact .braced hinner
  · rw [parse?_of_head?_ne hbrace] at h
    split_ifs at h with hplain hnamed
    · refine .plain ?_
      rw [filter_text]
      exact ofDigits?_eq_some_iff.mp h
    · rw [← List.take_append_drop urn.length text]
      exact .named hnamed (ofGroups?_eq_some_iff.mp h)
    · exact .hyphenated (ofGroups?_eq_some_iff.mp h)

/--
Ids have one order in all their forms: as numbers, as bytes and as canonical texts. The millisecond
of an id fits 48 bits and does not decrease in this order. An id is read from its canonical text and
from the other spellings of it, and from nothing else, so that each text that is read comes back as
the canonical one.
-/
theorem order_and_spelling (a b : EntityId) :
    (a < b ↔ a.toNat < b.toNat) ∧ (a < b ↔ a.bytes < b.bytes) ∧
    (a < b ↔ Bytes.utf8 a.text < Bytes.utf8 b.text) ∧
    (a ≤ b → a.timestampMs ≤ b.timestampMs) ∧ b.timestampMs < 2 ^ 48 ∧
    parse? a.text = some a ∧ ∀ text, parse? text = some a ↔ a.IsSpelledBy text := by
  refine ⟨Iff.rfl, lt_iff_of_forall_lt bytes_lt, ?_, timestampMs_le, b.timestampMs_lt,
    parse?_of_isSpelledBy (.hyphenated a.map_toLower_text), fun text =>
    ⟨isSpelledBy_of_parse?, parse?_of_isSpelledBy⟩⟩
  exact lt_iff_of_forall_lt fun h => Bytes.utf8_lt_of_lt (text_lt h)

end EntityId

end Credentials
