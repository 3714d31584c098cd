import Credentials.Proofs.Config
import Credentials.Proofs.Email.Html
import Credentials.Proofs.Url.Parser

/-!
# Links in messages

The link in a message is found where it would be looked for, leads to the configured address, and
carries the token, whatever the token is. Nothing else in the message depends on the token.
-/

namespace Credentials

/-! ## Adding a parameter -/

namespace Url

/-- A web address that leads where another one leads, with one more parameter after all others. -/
structure AddsParameter (url base : Url) (name value : List Char) : Prop where
  scheme : url.scheme = base.scheme
  user : url.user = base.user
  host : url.host = base.host
  port : url.port = base.port
  path : url.path = base.path
  fragment : url.fragment = base.fragment
  parameters : Form.pairs (url.query.getD []) = Form.pairs (base.query.getD []) ++ [(name, value)]

/-- Adding a parameter changes nothing else. -/
theorem addsParameter_addParameter (base : Url) (name value : List Char) :
    (base.addParameter name value).AddsParameter base name value :=
  ⟨rfl, rfl, rfl, rfl, rfl, rfl, Form.pairs_append _ name value⟩

end Url

namespace Email

/-! ## Finding a link in a text -/

/-- Cuts a text where a mark first stands: what comes before the mark and what comes after it. -/
def cut? (mark : List Char) : List Char → Option (List Char × List Char)
  | [] => none
  | c :: text =>
    if mark.isPrefixOf (c :: text) then some ([], (c :: text).drop mark.length)
    else (cut? mark text).map fun (before, after) => (c :: before, after)

/-- Nothing but the mark is lost where a text is cut. -/
theorem eq_append_of_cut? {mark text before after : List Char}
    (h : cut? mark text = some (before, after)) : text = before ++ mark ++ after := by
  induction text generalizing before with
  | nil => cases h
  | cons c text ih =>
    rw [cut?] at h
    split at h
    · rename_i hprefix
      obtain ⟨rest, hrest⟩ := List.isPrefixOf_iff_prefix.mp hprefix
      rw [← hrest, List.drop_left] at h
      obtain ⟨rfl, rfl⟩ := Prod.mk.inj (Option.some.inj h)
      exact hrest.symm
    · obtain ⟨⟨left, right⟩, hcut, hpair⟩ := Option.map_eq_some_iff.mp h
      obtain ⟨rfl, rfl⟩ := Prod.mk.inj hpair
      rw [ih hcut]
      rfl

/-- A mark is not found before its last character occurs. -/
theorem cut?_append (mark : List Char) {before : List Char} {last : Char} (hmark : last ∉ mark)
    (hbefore : last ∉ before) (after : List Char) :
    cut? (mark ++ [last]) (before ++ (mark ++ [last]) ++ after) = some (before, after) := by
  induction before with
  | nil =>
    obtain ⟨c, text, htext⟩ := List.exists_cons_of_ne_nil (l := mark ++ [last]) (by simp)
    rw [List.nil_append, htext, List.cons_append, cut?, ← List.cons_append, ← htext]
    simp
  | cons c before ih =>
    have hrest : last ∉ before := fun hmem => hbefore (List.mem_cons_of_mem _ hmem)
    have hprefix : ¬ (mark ++ [last]).isPrefixOf (c :: before ++ (mark ++ [last]) ++ after) := by
      -- The mark would end within what stands before it.
      intro h
      have hlong : (mark ++ [last]).length ≤ (c :: before ++ mark).length := by simp
      have hwithin : c :: before ++ mark <+: c :: before ++ (mark ++ [last]) ++ after :=
        ⟨last :: after, by simp⟩
      have hmark' := List.prefix_of_prefix_length_le (List.isPrefixOf_iff_prefix.mp h) hwithin hlong
      have hlast : last ∈ c :: before ++ mark := hmark'.subset (by simp)
      rcases List.mem_append.mp hlast with hmem | hmem
      · exact hbefore hmem
      · exact hmark hmem
    rw [List.cons_append, List.cons_append] at hprefix
    rw [List.cons_append, List.cons_append, cut?, if_neg hprefix, ih hrest]
    rfl

/-- A text with a link, cut around the address of the link and the words that are shown for it. -/
structure Anchor where
  before : List Char
  /-- The value of the attribute `href`, as it is written. -/
  href : List Char
  /-- What else stands in the tag. -/
  between : List Char
  /-- What stands between the tags, as it is written. -/
  shown : List Char
  after : List Char

namespace Anchor

/-- The text with the link. -/
def text (a : Anchor) : List Char :=
  a.before ++ "href=\"".toList ++ a.href ++ "\"".toList ++ a.between ++ ">".toList ++ a.shown ++
    "</a>".toList ++ a.after

/-- Finds the first link of a text. A quotation mark ends its address. -/
def find? (text : List Char) : Option Anchor := do
  let (before, rest) ← cut? "href=\"".toList text
  let (href, rest) ← cut? "\"".toList rest
  let (between, rest) ← cut? ">".toList rest
  let (shown, after) ← cut? "</a>".toList rest
  return ⟨before, href, between, shown, after⟩

/-- A link is found in the text that it is a part of. -/
theorem text_of_find? {text : List Char} {a : Anchor} (h : find? text = some a) : a.text = text := by
  simp only [find?, Option.bind_eq_bind, Option.bind_eq_some_iff, Option.pure_def,
    Option.some.injEq, Prod.exists] at h
  obtain ⟨before, rest, hbefore, href, rest', hhref, between, rest'', hbetween, shown, after,
    hshown, rfl⟩ := h
  rw [eq_append_of_cut? hbefore, eq_append_of_cut? hhref, eq_append_of_cut? hbetween,
    eq_append_of_cut? hshown]
  simp [Anchor.text]

/-- A link is found if nothing before or in its parts looks like the end of one. -/
theorem find?_text {a : Anchor} (hbefore : '"' ∉ a.before) (hhref : '"' ∉ a.href)
    (hbetween : '>' ∉ a.between) (hshown : '>' ∉ a.shown) : find? a.text = some a := by
  have hfirst (rest : List Char) :
      cut? "href=\"".toList (a.before ++ "href=\"".toList ++ rest) = some (a.before, rest) :=
    cut?_append "href=".toList (by decide) hbefore rest
  have hvalue (rest : List Char) :
      cut? "\"".toList (a.href ++ "\"".toList ++ rest) = some (a.href, rest) :=
    cut?_append [] (by decide) hhref rest
  have htag (rest : List Char) :
      cut? ">".toList (a.between ++ ">".toList ++ rest) = some (a.between, rest) :=
    cut?_append [] (by decide) hbetween rest
  have hclosing (rest : List Char) :
      cut? "</a>".toList (a.shown ++ "</a>".toList ++ rest) = some (a.shown, rest) :=
    cut?_append "</a".toList (by decide) hshown rest
  have htext : a.text = a.before ++ "href=\"".toList ++ (a.href ++ "\"".toList ++
      (a.between ++ ">".toList ++ (a.shown ++ "</a>".toList ++ a.after))) := by
    simp [Anchor.text]
  rw [find?, htext, hfirst]
  simp only [Option.bind_eq_bind, Option.bind_some, hvalue, htag, hclosing]
  rfl

end Anchor

/-! ## Messages -/

/-- A message up to the address of its link. -/
def opening (kind : Kind) : List Char :=
  "<p>".toList ++ Html.escape kind.intro.toList ++ "</p>\n<p><a ".toList

/-- A message after its link. -/
def closing (hours : Int) : List Char :=
  "</p>\n<p>This link expires in ".toList ++ (hoursText hours).toList ++ ".</p>\n".toList

/-- The link in a message. -/
def anchor (kind : Kind) (link : List Char) (hours : Int) : Anchor where
  before := opening kind
  href := Html.escape link
  between := []
  shown := Html.escape link
  after := closing hours

/-- A message is its link and what stands around it. -/
theorem body_eq_text (kind : Kind) (link : List Char) (hours : Int) :
    body kind link hours = (anchor kind link hours).text := by
  have hopening : "</p>\n<p><a href=\"".toList = "</p>\n<p><a ".toList ++ "href=\"".toList := rfl
  have htag : "\">".toList = "\"".toList ++ ">".toList := rfl
  have hclosing : "</a></p>\n<p>This link expires in ".toList =
      "</a>".toList ++ "</p>\n<p>This link expires in ".toList := rfl
  dsimp only [body, Anchor.text, anchor, opening, closing]
  rw [hopening, htag, hclosing]
  simp only [List.append_assoc, List.nil_append]

/-- The link in a message is found. -/
theorem find?_body (kind : Kind) (link : List Char) (hours : Int) :
    Anchor.find? (body kind link hours) = some (anchor kind link hours) := by
  have hescaped {c : Char} (hc : c ∈ Html.delimiters) (text : List Char) : c ∉ Html.escape text :=
    fun hmem => Html.notMem_delimiters_of_mem_escape hmem hc
  have hopening : '"' ∉ opening kind := by
    have hintro := hescaped (c := '"') (by decide) kind.intro.toList
    simp [opening, hintro]
  rw [body_eq_text]
  exact Anchor.find?_text hopening (hescaped (by decide) link) (by simp [anchor])
    (hescaped (by decide) link)

end Email

/-! ## Messages of a configuration -/

namespace Settings

/-- What the links in messages of a kind are to begin with. -/
def baseText (s : Settings) : Email.Kind → String
  | .verification => s.verificationBase
  | .reset => s.resetBase

/-- A configuration has the bases of links that are asked for. -/
theorem linkBase_of_build {s : Settings} {c : Config} (h : s.build = .ok c) (kind : Email.Kind) :
    Credentials.linkBase (s.baseText kind) = .ok (c.linkBase kind) := by
  obtain ⟨_, _, _, verification, reset, hverification, hreset, rfl⟩ := build_eq_ok_iff.mp h
  cases kind with
  | verification => exact hverification
  | reset => exact hreset

end Settings

namespace Config

/-- A configured address to which a token has been added is read from its text. -/
theorem parse?_tokenLink {raw : String} {base : Url} (h : AbsoluteUrl.parse? raw = some (.web base))
    (token : String) :
    AbsoluteUrl.parse? (.ofList (Email.tokenLink base token).text) =
      some (.web (Email.tokenLink base token)) :=
  ((Url.isNormal_of_parse? h).addParameter _ _).parse?_text

/--
A message is written exactly if its link can be used for some time. The address of the link and the
words shown for it are then the only parts that depend on the token, and hold nothing that would end
them or begin a tag. Both are read as the configured address, which is secure, with the token as one
more parameter.
-/
theorem renderEmail_link {s : Settings} {c : Config} (hbuild : s.build = .ok c) (kind : Email.Kind)
    (hours : Int) :
    (∀ token, c.renderEmail kind token hours = .error (.invalidExpiration hours) ↔ hours ≤ 0) ∧
      (0 < hours → ∃ base, AbsoluteUrl.parse? (s.baseText kind) = some (.web base) ∧
        ∃ before between after, ∀ token : String, ∃ template href shown url,
          c.renderEmail kind token hours = .ok template ∧
          Email.Anchor.find? template.body.toList = some ⟨before, href, between, shown, after⟩ ∧
          template.body.toList = Email.Anchor.text ⟨before, href, between, shown, after⟩ ∧
          (∀ d ∈ Email.Html.delimiters, d ∉ href ∧ d ∉ shown) ∧
          AbsoluteUrl.parse? (.ofList (Email.Html.unescape href)) = some (.web url) ∧
          AbsoluteUrl.parse? (.ofList (Email.Html.unescape shown)) = some (.web url) ∧
          url.AddsParameter base "token".toList token.toList ∧ url.IsSecure) := by
  obtain ⟨hparse, hsecure⟩ := linkBase_eq_ok_iff.mp (Settings.linkBase_of_build hbuild kind)
  constructor
  · intro token
    rw [renderEmail, Email.render]
    split_ifs with hnonpositive <;> simp [hnonpositive]
  intro hpositive
  refine ⟨c.linkBase kind, hparse, Email.opening kind, [], Email.closing hours, fun token => ?_⟩
  have hlink : AbsoluteUrl.parse? (.ofList (Email.Html.unescape (Email.Html.escape
      (Email.tokenLink (c.linkBase kind) token).text))) =
      some (.web (Email.tokenLink (c.linkBase kind) token)) := by
    rw [Email.Html.unescape_escape]
    exact parse?_tokenLink hparse token
  have hescaped (text : List Char) : ∀ d ∈ Email.Html.delimiters, d ∉ Email.Html.escape text :=
    fun d hd hmem => Email.Html.notMem_delimiters_of_mem_escape hmem hd
  have hfind := Email.find?_body kind (Email.tokenLink (c.linkBase kind) token).text hours
  refine ⟨⟨kind.subject, .ofList _, true⟩, _, _, Email.tokenLink (c.linkBase kind) token,
    if_neg (Int.not_le.mpr hpositive), ?_, ?_, fun d hd => ⟨hescaped _ d hd, hescaped _ d hd⟩,
    hlink, hlink, Url.addsParameter_addParameter _ _ _, hsecure⟩
  · rw [String.toList_ofList]
    exact hfind
  · rw [String.toList_ofList]
    exact (Email.Anchor.text_of_find? hfind).symm

/-- A token that could end an attribute is read back from a message with the default settings. -/
theorem renderEmail_link_quote : ∃ c template a url,
    Settings.build { key := .replicate 32 0 } = .ok c ∧
    c.renderEmail .reset "\"><b>&amp;" 24 = .ok template ∧
    Email.Anchor.find? template.body.toList = some a ∧
    AbsoluteUrl.parse? (.ofList (Email.Html.unescape a.href)) = some (.web url) ∧
    Url.Form.pairs (url.query.getD []) = [("token".toList, "\"><b>&amp;".toList)] := by
  obtain ⟨c, hc, _⟩ := Settings.exists_build_zeroKey
  obtain ⟨base, hbase, before, between, after, hlink⟩ :=
    (renderEmail_link hc .reset 24).2 (by decide)
  obtain ⟨template, href, shown, url, hrender, hfind, _, _, hparse, _, hadds, _⟩ :=
    hlink "\"><b>&amp;"
  have hdefault : AbsoluteUrl.parse? "http://localhost:8080/reset-password" = some (.web ⟨.http,
      ⟨[], []⟩, .domain "localhost".toList, some 8080, ["reset-password".toList], none, none⟩) := by
    decide +kernel
  obtain rfl := AbsoluteUrl.web.inj (Option.some.inj (hdefault.symm.trans hbase))
  exact ⟨c, template, _, url, hc, hrender, hfind, hparse, hadds.parameters⟩

end Config

end Credentials
