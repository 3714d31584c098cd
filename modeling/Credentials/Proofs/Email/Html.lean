import Credentials.Email.Html

/-!
# Escaped text is text

A text that has been escaped holds no character that begins or ends a tag or the value of an
attribute, and no ampersand but those of entities. Replacing the entities from left to right gives
the text back, and every text of this form is what some text is written as.
-/

namespace Credentials.Email.Html

/-- Reads a text from left to right. An entity stands for its character, and anything else for
itself. -/
def unescape : List Char → List Char
  | [] => []
  | '&' :: 'a' :: 'm' :: 'p' :: ';' :: rest => '&' :: unescape rest
  | '&' :: 'l' :: 't' :: ';' :: rest => '<' :: unescape rest
  | '&' :: 'g' :: 't' :: ';' :: rest => '>' :: unescape rest
  | '&' :: 'q' :: 'u' :: 'o' :: 't' :: ';' :: rest => '"' :: unescape rest
  | '&' :: '#' :: '3' :: '9' :: ';' :: rest => '\x27' :: unescape rest
  | c :: rest => c :: unescape rest

/-- A character that is no ampersand stands for itself. -/
theorem unescape_cons {c : Char} (h : c ≠ '&') (rest : List Char) :
    unescape (c :: rest) = c :: unescape rest := by
  rw [unescape]
  all_goals
    intros
    exact absurd ‹c = '&'› h

/-- Characters that begin or end a tag or the value of an attribute. -/
def delimiters : List Char := ['<', '>', '"', '\x27']

/-- The characters with a meaning in HTML. -/
theorem cases_of_mem {c : Char} (h : c ∈ '&' :: delimiters) :
    c = '&' ∨ c = '<' ∨ c = '>' ∨ c = '"' ∨ c = '\x27' := by
  simpa [delimiters] using h

/-- A character without a meaning in HTML is written as it is. -/
theorem escapeChar_of_notMem {c : Char} (h : c ∉ '&' :: delimiters) : escapeChar c = [c] := by
  have hne (d : Char) (hd : d ∈ '&' :: delimiters) : c ≠ d := by
    rintro rfl
    exact h hd
  unfold escapeChar
  split
  · exact absurd rfl (hne '&' (by decide))
  · exact absurd rfl (hne '<' (by decide))
  · exact absurd rfl (hne '>' (by decide))
  · exact absurd rfl (hne '"' (by decide))
  · exact absurd rfl (hne '\x27' (by decide))
  · rfl

/-- A character is read from what it is written as. -/
theorem unescape_escapeChar_append (c : Char) (rest : List Char) :
    unescape (escapeChar c ++ rest) = c :: unescape rest := by
  by_cases hmem : c ∈ '&' :: delimiters
  · rcases cases_of_mem hmem with rfl | rfl | rfl | rfl | rfl <;> rfl
  · have hamp : c ≠ '&' := by
      rintro rfl
      exact hmem List.mem_cons_self
    rw [escapeChar_of_notMem hmem]
    exact unescape_cons hamp rest

/-- A text is read from what it is written as, whatever follows it. -/
theorem unescape_escape_append (text rest : List Char) :
    unescape (escape text ++ rest) = text ++ unescape rest := by
  induction text with
  | nil => rfl
  | cons c text ih =>
    rw [escape] at ih ⊢
    rw [List.flatMap_cons, List.append_assoc, unescape_escapeChar_append, ih, List.cons_append]

/-- A text is read from what it is written as, even if it holds entities itself. -/
theorem unescape_escape (text : List Char) : unescape (escape text) = text := by
  have h : unescape (escape text ++ []) = text ++ [] := unescape_escape_append text []
  rwa [List.append_nil, List.append_nil] at h

/-- No character of an escaped text begins or ends a tag or the value of an attribute. -/
theorem notMem_delimiters_of_mem_escape {text : List Char} {c : Char} (h : c ∈ escape text) :
    c ∉ delimiters := by
  obtain ⟨d, _, hc⟩ := List.mem_flatMap.mp h
  by_cases hmem : d ∈ '&' :: delimiters
  · have hentities : (('&' :: delimiters).all fun d =>
        (escapeChar d).all fun c => decide (c ∉ delimiters)) = true := by decide
    have hentity := List.all_eq_true.mp (List.all_eq_true.mp hentities d hmem) c hc
    exact of_decide_eq_true hentity
  · rw [escapeChar_of_notMem hmem, List.mem_singleton] at hc
    subst hc
    exact fun hdelimiter => hmem (List.mem_cons_of_mem _ hdelimiter)

/-! ## Which texts are escaped -/

/-- What the characters with a meaning in HTML are written as. -/
def entities : List (List Char) :=
  ["&amp;".toList, "&lt;".toList, "&gt;".toList, "&quot;".toList, "&#39;".toList]

/--
A text without characters that begin or end a tag or the value of an attribute, in which every
ampersand is the first character of an entity.
-/
structure IsEscaped (text : List Char) : Prop where
  noDelimiter : ∀ c ∈ delimiters, c ∉ text
  entity : ∀ before rest, text = before ++ '&' :: rest →
    ∃ entity ∈ entities, entity <+: '&' :: rest

/-- Each entity is what one of the characters is written as. -/
theorem entities_eq_map : entities = ('&' :: delimiters).map escapeChar := rfl

/-- An ampersand is the first of the characters that it stands among. -/
theorem amp_notMem_tail_escapeChar (c : Char) : '&' ∉ (escapeChar c).tail := by
  by_cases hmem : c ∈ '&' :: delimiters
  · rcases cases_of_mem hmem with rfl | rfl | rfl | rfl | rfl <;> decide
  · simp [escapeChar_of_notMem hmem]

/-- An ampersand in what a character is written as begins an entity. -/
theorem mem_entities_of_escapeChar_eq {c : Char} {before after : List Char}
    (h : escapeChar c = before ++ '&' :: after) : '&' :: after ∈ entities := by
  have hfirst : before = [] := by
    cases before with
    | nil => rfl
    | cons d before =>
      refine absurd ?_ (amp_notMem_tail_escapeChar c)
      simp [h]
  rw [hfirst, List.nil_append] at h
  rw [← h]
  by_cases hmem : c ∈ '&' :: delimiters
  · rw [entities_eq_map]
    exact List.mem_map_of_mem hmem
  · -- A character that is written as it is would be the ampersand itself.
    rw [escapeChar_of_notMem hmem] at h
    obtain ⟨rfl, _⟩ := List.cons.inj h
    exact absurd List.mem_cons_self hmem

/-- A text is escaped once it has been written. -/
theorem isEscaped_escape (text : List Char) : IsEscaped (escape text) where
  noDelimiter := fun _ hdelimiter hmem => notMem_delimiters_of_mem_escape hmem hdelimiter
  entity := by
    induction text with
    | nil => simp [escape]
    | cons c text ih =>
      intro before rest h
      rw [escape, List.flatMap_cons, ← escape, List.append_eq_append_iff] at h
      rcases h with ⟨between, _, hlater⟩ | ⟨between, hchar, hrest⟩
      · exact ih between rest hlater
      · cases between with
        | nil => exact ih [] rest hrest.symm
        | cons d between =>
          obtain ⟨rfl, rfl⟩ := List.cons.inj hrest
          exact ⟨_, mem_entities_of_escapeChar_eq hchar, List.prefix_append _ _⟩

/-- What follows in an escaped text is escaped. -/
theorem IsEscaped.of_append {before text : List Char} (h : IsEscaped (before ++ text)) :
    IsEscaped text where
  noDelimiter := fun c hc hmem => h.noDelimiter c hc (List.mem_append_right before hmem)
  entity := fun between rest htext =>
    h.entity (before ++ between) rest (by rw [htext, List.append_assoc])

/-- An ampersand in an escaped text is not read as itself. -/
theorem IsEscaped.exists_entity {rest : List Char} (h : IsEscaped ('&' :: rest)) :
    ∃ c after, '&' :: rest = escapeChar c ++ after ∧ c ∈ '&' :: delimiters := by
  obtain ⟨entity, hentity, after, hafter⟩ := h.entity [] rest rfl
  rw [entities_eq_map] at hentity
  obtain ⟨c, hc, rfl⟩ := List.mem_map.mp hentity
  exact ⟨c, after, hafter.symm, hc⟩

/-- An escaped text is what is written for the text that is read from it. -/
theorem IsEscaped.escape_unescape {text : List Char} (h : IsEscaped text) :
    escape (unescape text) = text := by
  have hstep (c : Char) (rest : List Char) (h : IsEscaped (escapeChar c ++ rest))
      (ih : IsEscaped rest → escape (unescape rest) = rest) :
      escape (unescape (escapeChar c ++ rest)) = escapeChar c ++ rest := by
    rw [unescape_escapeChar_append, escape, List.flatMap_cons, ← escape, ih h.of_append]
  induction text using unescape.induct with
  | case1 => rfl
  | case2 rest ih => exact hstep '&' rest h ih
  | case3 rest ih => exact hstep '<' rest h ih
  | case4 rest ih => exact hstep '>' rest h ih
  | case5 rest ih => exact hstep '"' rest h ih
  | case6 rest ih => exact hstep '\x27' rest h ih
  | case7 c rest hamp hlt hgt hquot happos ih =>
    -- None of the entities stands here, so the character is no ampersand.
    have hne : c ≠ '&' := by
      rintro rfl
      obtain ⟨d, after, hafter, hd⟩ := h.exists_entity
      rcases cases_of_mem hd with rfl | rfl | rfl | rfl | rfl
      · exact hamp after rfl (List.cons.inj hafter).2
      · exact hlt after rfl (List.cons.inj hafter).2
      · exact hgt after rfl (List.cons.inj hafter).2
      · exact hquot after rfl (List.cons.inj hafter).2
      · exact happos after rfl (List.cons.inj hafter).2
    have hplain : c ∉ '&' :: delimiters := by
      rw [List.mem_cons, not_or]
      exact ⟨hne, fun hmem => h.noDelimiter c hmem List.mem_cons_self⟩
    have hchar := hstep c rest
    rw [escapeChar_of_notMem hplain] at hchar
    exact hchar h ih

/--
Escaping is safe and loses nothing. What is written for a text holds no character that begins or
ends a tag or the value of an attribute, and each ampersand in it begins an entity. The text is read
from it, even if it holds entities itself, and from no other escaped text; so no other text is
written in the same way. Texts one after another are written one after another.
-/
theorem escape_lossless (text : List Char) :
    IsEscaped (escape text) ∧ unescape (escape text) = text ∧
      (∀ escaped, IsEscaped escaped → unescape escaped = text → escaped = escape text) ∧
      (∀ other, escape other = escape text ↔ other = text) ∧
      ∀ other, escape (text ++ other) = escape text ++ escape other := by
  refine ⟨isEscaped_escape text, unescape_escape text, fun escaped hescaped hread => ?_,
    fun other => ⟨fun h => ?_, fun h => by rw [h]⟩, escape_append text⟩
  · rw [← hread, hescaped.escape_unescape]
  · rw [← unescape_escape other, h, unescape_escape]

/-- A text with an entity, a quote and the beginning of an entity is escaped and read back. -/
theorem escape_lossless_entity :
    escape "&lt;\"&am".toList = "&amp;lt;&quot;&amp;am".toList ∧
      '"' ∉ "&amp;lt;&quot;&amp;am".toList ∧
      (∃ entity ∈ entities, entity <+: "&quot;&amp;am".toList) ∧
      unescape "&amp;lt;&quot;&amp;am".toList = "&lt;\"&am".toList ∧
      escape "&lt;\"&am".toList ≠ escape "<\"&am".toList := by
  have hwritten : escape "&lt;\"&am".toList = "&amp;lt;&quot;&amp;am".toList := by decide
  obtain ⟨hescaped, hread, _, hinjective, _⟩ := escape_lossless "&lt;\"&am".toList
  rw [hwritten] at hescaped hread
  refine ⟨hwritten, hescaped.noDelimiter '"' (by decide),
    hescaped.entity "&amp;lt;".toList "quot;&amp;am".toList (by decide), hread, fun h => ?_⟩
  exact absurd ((hinjective "<\"&am".toList).mp h.symm) (by decide)

end Credentials.Email.Html
