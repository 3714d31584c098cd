import Credentials.Proofs.Bytes.Base64
import Credentials.Proofs.Password.Verification
import Credentials.Proofs.Program
import Credentials.Proofs.Text.Blank

/-!
# Passwords from the input

The program reads a password from its input, where one line break may follow it, and hashes it or
checks it with a hash that is given as text. A line that has been printed for a password is accepted
with it, whichever line break follows the password in either run, and whatever white space stands
around the line.
-/

namespace Credentials

open Credentials.Argon2 Credentials.CommandLine Credentials.Password

/-! ## Line breaks -/

namespace Program

variable {text password : List Char}

/-- What may follow a password: nothing, a line feed, or a carriage return and a line feed. -/
def lineBreaks : List (List Char) := [[], ['\n'], ['\r', '\n']]

/--
A text is a password with the longest line break after it that the text ends with: with a carriage
return and a line feed, with a line feed after something else, or with no line feed at all.
-/
inductive Enters : List Char → List Char → Prop
  | withBoth {password : List Char} : Enters (password ++ ['\r', '\n']) password
  | withLineFeed {password : List Char} (h : password.getLast? ≠ some '\r') :
    Enters (password ++ ['\n']) password
  | alone {password : List Char} (h : password.getLast? ≠ some '\n') : Enters password password

/-- The password is what is left of the text without its line break. -/
theorem Enters.dropLineBreak_eq (h : Enters text password) : dropLineBreak text = password := by
  cases h with
  | withBoth =>
    have hsplit : password ++ ['\r', '\n'] = (password ++ ['\r']) ++ ['\n'] := by simp
    rw [hsplit, dropLineBreak, dropLineFeed?, if_pos List.getLast?_concat, List.dropLast_concat]
    dsimp only
    rw [if_pos List.getLast?_concat, List.dropLast_concat]
  | withLineFeed h =>
    rw [dropLineBreak, dropLineFeed?, if_pos List.getLast?_concat, List.dropLast_concat]
    exact if_neg h
  | alone h =>
    rw [dropLineBreak, dropLineFeed?, if_neg h]

/-- Each text is some password with a line break. -/
theorem exists_enters (text : List Char) : ∃ password, Enters text password := by
  rcases List.eq_nil_or_concat text with rfl | ⟨line, c, rfl⟩
  · exact ⟨[], .alone (by simp)⟩
  rw [List.concat_eq_append]
  by_cases hfeed : c = '\n'
  · subst hfeed
    rcases List.eq_nil_or_concat line with rfl | ⟨password, d, rfl⟩
    · exact ⟨[], .withLineFeed (by simp)⟩
    rw [List.concat_eq_append]
    by_cases hreturn : d = '\r'
    · subst hreturn
      rw [List.append_assoc]
      exact ⟨password, .withBoth⟩
    · exact ⟨password ++ [d], .withLineFeed (by simpa using hreturn)⟩
  · exact ⟨line ++ [c], .alone (by simpa using hfeed)⟩

/-- Each text is exactly one password with a line break, which is the one that is read. -/
theorem enters_iff : Enters text password ↔ dropLineBreak text = password := by
  constructor
  · exact Enters.dropLineBreak_eq
  · rintro rfl
    obtain ⟨password, h⟩ := exists_enters text
    rwa [h.dropLineBreak_eq]

/-- A password that ends in neither of the two characters may be followed by each line break. -/
theorem enters_append (hreturn : password.getLast? ≠ some '\r')
    (hfeed : password.getLast? ≠ some '\n') {lineBreak : List Char}
    (hbreak : lineBreak ∈ lineBreaks) : Enters (password ++ lineBreak) password := by
  simp only [lineBreaks, List.mem_cons, List.not_mem_nil, or_false] at hbreak
  rcases hbreak with rfl | rfl | rfl
  · rw [List.append_nil]
    exact .alone hfeed
  · exact .withLineFeed hreturn
  · exact .withBoth

/-! ## Input and arguments -/

/-- The password is what the text of the input enters, unless that is empty. -/
theorem readPassword_utf8 (h : Enters text password) : readPassword (Bytes.utf8 text) =
    if password.isEmpty then .error .noPassword else .ok (.ofList password) := by
  rw [readPassword, Bytes.ofUtf8?_utf8]
  simp only [h.dropLineBreak_eq]

/-- A password is read exactly from the texts that enter it. -/
theorem readPassword_eq_ok_iff {input : List UInt8} {password : String} :
    readPassword input = .ok password ↔ password.toList ≠ [] ∧
      ∃ text, input = Bytes.utf8 text ∧ Enters text password.toList := by
  constructor
  · intro hread
    cases htext : Bytes.ofUtf8? input with
    | none => simp [readPassword, htext] at hread
    | some text =>
      obtain rfl := Bytes.ofUtf8?_eq_some_iff.mp htext
      obtain ⟨line, henters⟩ := exists_enters text
      rw [readPassword_utf8 henters] at hread
      split at hread
      · cases hread
      · rename_i hsome
        obtain rfl := Except.ok.inj hread
        rw [String.toList_ofList]
        exact ⟨by simpa using hsome, text, rfl, henters⟩
  · rintro ⟨hsome, text, rfl, henters⟩
    rw [readPassword_utf8 henters, if_neg (by simpa using hsome), String.ofList_toList]

/-- A stored hash is read from its text in base64, with white space around it. -/
theorem readStored_eq_ok_iff {word : String} {stored : List UInt8} :
    readStored word = .ok stored ↔
      Text.trim word.toList = Bytes.Base64.standard.encodePadded stored := by
  rw [← Bytes.Base64.Alphabet.lawful_standard.decodePadded?_eq_some_iff (by decide), readStored]
  cases Bytes.Base64.standard.decodePadded? (Text.trim word.toList) <;> simp

/-- No character of base64 is white space or a hyphen. -/
theorem visible_of_mem_encodePadded {stored : List UInt8} {a : Char}
    (ha : a ∈ Bytes.Base64.standard.encodePadded stored) : Text.isBlank a = false ∧ a ≠ '-' := by
  have hdigits : ∀ digit < 64, Text.isBlank (Bytes.Base64.standard.char digit) = false ∧
      Bytes.Base64.standard.char digit ≠ '-' := by decide
  rcases Bytes.Base64.Alphabet.lawful_standard.cases_of_mem_encodePadded ha with
    ⟨digit, hdigit, rfl⟩ | rfl
  · exact hdigits digit hdigit
  · decide

section

variable {before after : List Char} (hblank : ∀ a ∈ before ++ after, Text.isBlank a)
include hblank

/-- White space around a text in base64 is trimmed, and nothing else is. -/
theorem trim_encodePadded (stored : List UInt8) :
    Text.trim (before ++ Bytes.Base64.standard.encodePadded stored ++ after) =
      Bytes.Base64.standard.encodePadded stored := by
  refine Text.trimBy_eq_iff.mpr ⟨⟨fun a ha => ?_, fun a ha => ?_⟩, before, after, rfl, hblank⟩
  · exact (visible_of_mem_encodePadded (List.mem_of_mem_head? ha)).1
  · exact (visible_of_mem_encodePadded (List.mem_of_mem_getLast? ha)).1

/-- White space and base64 do not begin with a hyphen. -/
theorem head?_encodePadded (stored : List UInt8) :
    (before ++ Bytes.Base64.standard.encodePadded stored ++ after).head? ≠ some '-' := by
  intro hhead
  have hnot : ¬ Text.isBlank '-' := by decide
  have hmem := List.mem_of_head? hhead
  simp only [List.mem_append] at hmem
  rcases hmem with (hmem | hmem) | hmem
  · exact hnot (hblank _ (List.mem_append_left _ hmem))
  · exact (visible_of_mem_encodePadded hmem).2 rfl
  · exact hnot (hblank _ (List.mem_append_right _ hmem))

end

/-! ## The two commands -/

variable {options : List String} {c : Config} {s : Surroundings} {password : String}

/-- A run has succeeded and has printed a line. -/
structure PrintsLine (r : Report) (text : List Char) : Prop where
  succeeds : r.exitCode = exitSuccess
  output : r.output = line text

/--
The commands that read a password take a certain one from the input: its hash is what is printed,
and it is what is checked with a hash that is given in base64. The answer is printed, and the exit
code tells whether the password is right.
-/
structure WorksWith (options : List String) (c : Config) (s : Surroundings) (password : String) :
    Prop where
  hashes : ∃ hash r, c.passwords.hash password (s.draw 0).salt = .ok hash ∧
    Leaves (options ++ ["hash-password"]) s r ∧
    PrintsLine r (Bytes.Base64.standard.encodePadded hash.encode)
  checks : ∀ words word stored, parseCommand "verify-password" words = .ok (.verifyPassword word) →
    Text.trim word.toList = Bytes.Base64.standard.encodePadded stored →
    ∃ r, Leaves (options ++ "verify-password" :: words) s r ∧
      r.exitCode = (if (c.passwords.verify password stored).isSuccess then exitSuccess
        else exitRefused) ∧
      r.output = line (c.passwords.verify password stored).text.toList

/-- The commands that read a password fail without any output, whatever their arguments are. -/
structure RefuseInput (options : List String) (s : Surroundings) : Prop where
  hash : ∃ r, Leaves (options ++ ["hash-password"]) s r ∧ r.exitCode = exitFailure ∧ r.output = ""
  check : ∀ words word, parseCommand "verify-password" words = .ok (.verifyPassword word) →
    ∃ r, Leaves (options ++ "verify-password" :: words) s r ∧ r.exitCode = exitFailure ∧
      r.output = ""

/-- A password is hashed with the costs of the configuration. -/
theorem runCommand_hashPassword {hash : StoredHash} (hread : readPassword s.input = .ok password)
    (hhash : c.passwords.hash password (s.draw 0).salt = .ok hash) :
    runCommand c s .hashPassword =
      .ok ⟨exitSuccess, line (Bytes.Base64.standard.encodePadded hash.encode), []⟩ := by
  simp only [runCommand, hashPassword, hread, hhash, bind, Except.bind]
  rfl

/-- A password is checked with the hash that is given. -/
theorem runCommand_verifyPassword {word : String} {stored : List UInt8}
    (hstored : readStored word = .ok stored) (hread : readPassword s.input = .ok password) :
    runCommand c s (.verifyPassword word) =
      .ok ⟨if (c.passwords.verify password stored).isSuccess then exitSuccess else exitRefused,
        line (c.passwords.verify password stored).text.toList,
        (c.passwords.inspect password stored).events⟩ := by
  simp only [runCommand, verifyPassword, hstored, hread, bind, Except.bind]
  rfl

/-- Costs are usable under every configuration that options make up. -/
theorem Configures.usable (h : Configures options s c) : c.passwords.params.Usable := by
  obtain ⟨items, _, hconfig⟩ := h
  obtain ⟨key, _, hbuild⟩ := hconfig .hashPassword
  exact (Settings.usable_of_build hbuild).2

/-- A password that is read is what the commands work with. -/
theorem Configures.worksWith (h : Configures options s c)
    (hread : readPassword s.input = .ok password) : WorksWith options c s password where
  hashes := by
    obtain ⟨hash, hhash, _⟩ :=
      Hasher.exists_hashWith argon2id h.usable password (s.draw 0).salt
    obtain ⟨r, hleaves, hexit, houtput⟩ := h.exists_leaves_ok (by decide) (by decide)
      parseCommand_hashPassword (runCommand_hashPassword hread hhash)
    exact ⟨hash, r, hhash, hleaves, hexit, houtput⟩
  checks words word stored hcommand htrim :=
    h.exists_leaves_ok (by decide) (by decide) hcommand
      (runCommand_verifyPassword (readStored_eq_ok_iff.mpr htrim) hread)

/-- An input without a password makes the commands fail, be it before or after the hash is read. -/
theorem Configures.refuseInput (h : Configures options s c) {e : CommandError}
    (hread : readPassword s.input = .error e) : RefuseInput options s where
  hash := by
    have hrun : runCommand c s .hashPassword = .error e := by
      simp only [runCommand, hashPassword, hread, bind, Except.bind]
    exact h.exists_leaves_error (by decide) (by decide) parseCommand_hashPassword hrun
  check words word hcommand := by
    have hrun : ∃ e', runCommand c s (.verifyPassword word) = .error e' := by
      simp only [runCommand, verifyPassword, hread, bind, Except.bind]
      cases readStored word with
      | error e' => exact ⟨e', rfl⟩
      | ok stored => exact ⟨e, rfl⟩
    obtain ⟨e', hrun⟩ := hrun
    exact h.exists_leaves_error (by decide) (by decide) hcommand hrun

end Program

/-- What a run can see, with a text as its input. -/
def Surroundings.withInput (s : Surroundings) (text : List Char) : Surroundings :=
  { s with input := Bytes.utf8 text }

namespace Program

variable {options : List String} {c : Config} {s : Surroundings}

/-- A configuration does not depend on the input. -/
theorem Configures.withInput (h : Configures options s c) (text : List Char) :
    Configures options (s.withInput text) c := h

/-- The commands work with the password that the text of the input enters, unless it is empty. -/
theorem Configures.of_enters (h : Configures options s c) {text password : List Char}
    (henters : Enters text password) :
    (password = [] → RefuseInput options (s.withInput text)) ∧
      (password ≠ [] → WorksWith options c (s.withInput text) (.ofList password)) := by
  have hread := readPassword_utf8 henters
  constructor
  · intro hempty
    rw [if_pos (by simpa using hempty)] at hread
    exact (h.withInput text).refuseInput hread
  · intro hsome
    rw [if_neg (by simpa using hsome)] at hread
    exact (h.withInput text).worksWith hread

/--
Every text enters exactly one password, which is the text without one line break at its end: the
commands that read a password from it fail if that is empty, and else work with it. What is printed
for a password that does not end in a carriage return or a line feed, with any line break after it,
is accepted under the same options with that password and any line break, and with any white space
around the line.
-/
theorem verifyPassword_printed_line (hconfig : Configures options s c) :
    (∀ text, ∃! password, Enters text password) ∧
    (∀ text password, Enters text password →
      (password = [] → RefuseInput options (s.withInput text)) ∧
      (password ≠ [] → WorksWith options c (s.withInput text) (.ofList password))) ∧
    ∀ password lineBreak, password ≠ [] → password.getLast? ≠ some '\r' →
      password.getLast? ≠ some '\n' → lineBreak ∈ lineBreaks →
      ∃ printed text,
        Leaves (options ++ ["hash-password"]) (s.withInput (password ++ lineBreak)) printed ∧
        PrintsLine printed text ∧
        ∀ (t : Surroundings) (lineBreak' before after : List Char), Configures options t c →
          lineBreak' ∈ lineBreaks → (∀ a ∈ before ++ after, Text.isBlank a) →
          ∃ checked, Leaves
              (options ++ ["verify-password", .ofList (before ++ text ++ after)])
              (t.withInput (password ++ lineBreak')) checked ∧
            PrintsLine checked "success".toList := by
  refine ⟨fun text => ?_, fun text password => hconfig.of_enters, ?_⟩
  · exact ⟨dropLineBreak text, enters_iff.mpr rfl, fun other hother => (enters_iff.mp hother).symm⟩
  intro password lineBreak hsome hreturn hfeed hbreak
  obtain ⟨hash, printed, hhash, hleaves, hprints⟩ :=
    ((hconfig.of_enters (enters_append hreturn hfeed hbreak)).2 hsome).hashes
  refine ⟨printed, _, hleaves, hprints, ?_⟩
  intro t lineBreak' before after hconfigured hbreak' hblank
  have hworks := (hconfigured.of_enters (enters_append hreturn hfeed hbreak')).2 hsome
  let word := String.ofList (before ++ Bytes.Base64.standard.encodePadded hash.encode ++ after)
  have hword : word.toList =
      before ++ Bytes.Base64.standard.encodePadded hash.encode ++ after := String.toList_ofList
  have hcommand : parseCommand "verify-password" [word] = .ok (.verifyPassword word) :=
    parseCommand_verifyPassword (by rw [hword]; exact head?_encodePadded hblank hash.encode)
  obtain ⟨checked, hchecked, hexit, houtput⟩ := hworks.checks [word] word hash.encode hcommand
    (by rw [hword, trim_encodePadded hblank])
  have hverify : c.passwords.verify (.ofList password) hash.encode = .success :=
    Hasher.verify_of_isHashOf (Hasher.isHashOf_of_hashWith hhash)
  rw [hverify] at hexit houtput
  exact ⟨checked, hchecked, hexit, houtput⟩

/-- A line that is printed for a password with both characters after it is accepted with the
password alone, and with white space around the line. -/
theorem verifyPassword_printed_line_spaced : ∃ c printed text checked,
    Configures ["--signing-key-file", "key"] (surroundingsAt ⟨0, 0⟩) c ∧
    Leaves ["--signing-key-file", "key", "hash-password"]
      ((surroundingsAt ⟨0, 0⟩).withInput ("secret".toList ++ ['\r', '\n'])) printed ∧
    PrintsLine printed text ∧
    Leaves ["--signing-key-file", "key", "verify-password", .ofList ([' '] ++ text ++ ['\n'])]
      ((surroundingsAt ⟨60, 0⟩).withInput ("secret".toList ++ [])) checked ∧
    PrintsLine checked "success".toList := by
  obtain ⟨c, _, _, hconfig⟩ := exists_configures_surroundingsAt
  obtain ⟨_, _, hround⟩ := verifyPassword_printed_line (hconfig ⟨0, 0⟩)
  obtain ⟨printed, text, hleaves, hprints, hcheck⟩ := hround "secret".toList ['\r', '\n']
    (by decide) (by decide) (by decide) (by decide)
  have hblank : ∀ a ∈ [' '] ++ ['\n'], Text.isBlank a := by
    rw [List.forall_mem_append, List.forall_mem_singleton, List.forall_mem_singleton]
    decide
  obtain ⟨checked, hchecked, hsuccess⟩ := hcheck (surroundingsAt ⟨60, 0⟩) [] [' '] ['\n']
    (hconfig _) (by decide) hblank
  exact ⟨c, printed, text, checked, hconfig _, hleaves, hprints, hchecked, hsuccess⟩

end Program

end Credentials
