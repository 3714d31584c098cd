import Credentials.Proofs.Program.Passwords

/-!
# How runs end

A run that has been given proper arguments ends in one of three ways. It fails, with a single error
for the operator and without any output; it refuses a password, and prints the answer; or it
succeeds. The exit code tells these apart, and errors are raised in the first case only. Which of
them the operator sees is up to the filter that is asked for, in whatever way its text is read.
-/

namespace Credentials

open Credentials.CommandLine Credentials.Password

/-! ## Errors among events -/

/-- The errors among some events. -/
def errors (events : List LogEvent) : List LogEvent := events.filter (·.level = .error)

/-- Errors are looked for among earlier and later events apart. -/
@[simp]
theorem errors_append (before after : List LogEvent) :
    errors (before ++ after) = errors before ++ errors after := List.filter_append ..

/-- The errors that the operator sees are those that the filter shows. -/
theorem Report.errors_log (r : Report) (filter : LogFilter) :
    errors (r.log filter) = (errors r.events).filter filter := by
  rw [errors, errors, log, List.filter_filter, List.filter_filter]
  simp only [Bool.and_comm]

/-- Every event is shown unless a text that can be read asks for a filter. -/
theorem Surroundings.logFilter_eq_true {s : Surroundings} {read : String → Option LogFilter}
    (h : s.filterText.bind read = none) (e : LogEvent) : s.logFilter read e = true := by
  rw [logFilter, h, Option.getD_none, LogFilter.upTo]
  cases e.level <;> rfl

/-- A finding is no error. -/
theorem Password.Finding.errors_events (f : Finding) : errors f.events = [] := by
  cases f with
  | malformed cause => cases cause <;> rfl
  | _ => rfl

namespace Program

variable {args : Arguments} {s : Surroundings} {c : Config} {command : Command} {r : Report}

/-- Looking for the key raises no errors, even if none is found. -/
theorem errors_loadKey (args : Arguments) (s : Surroundings) :
    errors (loadKey args s).events = [] := by
  rw [loadKey, SigningKey.load]
  split
  · rfl
  · simp only [SigningKey.loadFile]
    cases args.signingKeyFile with
    | none => rfl
    | some path =>
      dsimp only
      cases s.fileAt path <;> rfl

/-- The errors of a run come after the search for the key. -/
@[simp]
theorem errors_afterEvents (args : Arguments) (s : Surroundings) (r : Report) :
    errors (afterEvents (loadKey args s).events r).events = errors r.events := by
  rw [afterEvents, errors_append, errors_loadKey, List.nil_append]

/-! ## Commands that do not fail -/

/--
A command checks a password with a hash, and it is not accepted: the hash is given in base64 with
white space around it, the input is a text that enters the password, and the answer is not a
success.
-/
def Rejects (c : Config) (s : Surroundings) (command : Command) (answer : Outcome) : Prop :=
  ∃ word stored text password, command = .verifyPassword word ∧
    Text.trim word.toList = Bytes.Base64.standard.encodePadded stored ∧
    s.input = Bytes.utf8 text ∧ Enters text password.toList ∧ password.toList ≠ [] ∧
    c.passwords.verify password stored = answer ∧ answer.isSuccess = false

/-- A command that rejects a password has an exit code of its own, and prints the answer. -/
theorem Rejects.exists_runCommand {answer : Outcome} (h : Rejects c s command answer) :
    ∃ events, errors events = [] ∧
      runCommand c s command = .ok ⟨exitRefused, line answer.text.toList, events⟩ := by
  obtain ⟨word, stored, text, password, rfl, htrim, hinput, henters, hsome, rfl, hanswer⟩ := h
  have hread : readPassword s.input = .ok password :=
    readPassword_eq_ok_iff.mpr ⟨hsome, text, hinput, henters⟩
  refine ⟨_, Finding.errors_events (c.passwords.inspect password stored), ?_⟩
  rw [runCommand_verifyPassword (readStored_eq_ok_iff.mpr htrim) hread, hanswer]
  rfl

/-- The clock is not before 1970 where a command needs that. -/
def IsTimely (s : Surroundings) (command : Command) : Prop :=
  command.trustsClock = true → 0 ≤ s.clock.seconds

/-- A command that does not fail raises no errors. It succeeds or rejects a password. -/
theorem cases_of_runCommand (htimely : IsTimely s command) (h : runCommand c s command = .ok r) :
    errors r.events = [] ∧ (r.exitCode = exitSuccess ∨ ∃ answer, Rejects c s command answer) := by
  cases command with
  | issue claims =>
    rw [runCommand, issue] at h
    split at h
    · cases h
    · obtain rfl := Except.ok.inj h
      exact ⟨rfl, .inl rfl⟩
  | inspect token =>
    rw [runCommand, inspect, Clock.unixSeconds?_eq_some_iff.mpr ⟨htimely rfl, rfl⟩] at h
    dsimp only at h
    split at h
    · cases h
    · obtain rfl := Except.ok.inj h
      exact ⟨rfl, .inl rfl⟩
  | hashPassword =>
    rw [runCommand, hashPassword] at h
    obtain ⟨password, _, h⟩ := bind_eq_ok_iff.mp h
    split at h
    · cases h
    · obtain rfl := Except.ok.inj h
      exact ⟨rfl, .inl rfl⟩
  | verifyPassword word =>
    have hchecked := h
    rw [runCommand, verifyPassword] at h
    obtain ⟨stored, hstored, h⟩ := bind_eq_ok_iff.mp h
    obtain ⟨password, hread, _⟩ := bind_eq_ok_iff.mp h
    rw [runCommand_verifyPassword hstored hread] at hchecked
    obtain rfl := Except.ok.inj hchecked
    refine ⟨Finding.errors_events _, ?_⟩
    obtain ⟨hsome, text, hinput, henters⟩ := readPassword_eq_ok_iff.mp hread
    cases hanswer : (c.passwords.verify password stored).isSuccess with
    | true => exact .inl rfl
    | false =>
      exact .inr ⟨_, word, stored, text, password, rfl, readStored_eq_ok_iff.mp hstored, hinput,
        henters, hsome, rfl, hanswer⟩
  | newId count =>
    have hclock : ¬ (count ≠ 0 ∧ s.clock.seconds < 0) := fun hbefore =>
      Int.not_lt.mpr (htimely (bne_iff_ne.mpr hbefore.1)) hbefore.2
    rw [runCommand, newIds, if_neg hclock] at h
    obtain rfl := Except.ok.inj h
    exact ⟨rfl, .inl rfl⟩
  | email kind request =>
    rw [runCommand, email] at h
    split at h
    · cases h
    · split at h
      · obtain rfl := Except.ok.inj h
        exact ⟨rfl, .inl rfl⟩
      · obtain rfl := Except.ok.inj h
        exact ⟨rfl, .inl rfl⟩

/-! ## Runs -/

/-- A run rejects a password under the configuration that it comes to. -/
def RunRejects (args : Arguments) (s : Surroundings) (answer : Outcome) : Prop :=
  ∃ c, Reaches args s c ∧ Rejects c s args.command answer

/-- The ways in which a run can end. -/
inductive Ending (args : Arguments) (s : Surroundings) : Report → Prop
  | failed {events : List LogEvent} (h : errors events = []) (message : String)
    (error : Option String) : Ending args s (afterEvents events (failure message error))
  | rejected {r : Report} {answer : Outcome} (h : RunRejects args s answer)
    (exitCode : r.exitCode = exitRefused) (output : r.output = line answer.text.toList)
    (events : errors r.events = []) : Ending args s r
  | succeeded {r : Report} (exitCode : r.exitCode = exitSuccess) (events : errors r.events = []) :
    Ending args s r

/-- A run that rejects a password ends so. -/
theorem RunRejects.ending {answer : Outcome} (h : RunRejects args s answer) :
    (run args s).exitCode = exitRefused ∧ (run args s).output = line answer.text.toList ∧
      errors (run args s).events = [] := by
  obtain ⟨c, hreaches, hrejects⟩ := h
  obtain ⟨events, herrors, hrun⟩ := hrejects.exists_runCommand
  rw [hreaches.run_eq, outcome_of_ok hrun]
  exact ⟨rfl, rfl, by rw [errors_afterEvents, herrors]⟩

/-- Each run ends in one of the three ways. -/
theorem ending_run (htimely : IsTimely s args.command) : Ending args s (run args s) := by
  cases hkey : (loadKey args s).key with
  | error e =>
    have hfails : ∃ message error,
        run args s = afterEvents (loadKey args s).events (failure message error) := by
      simp only [run, hkey]
      cases e <;> exact ⟨_, _, rfl⟩
    obtain ⟨message, error, hrun⟩ := hfails
    rw [hrun]
    exact .failed (errors_loadKey args s) message error
  | ok key =>
    cases hbuild : (args.settings key).build with
    | error e =>
      have hrun : run args s = afterEvents (loadKey args s).events
          (failure "Invalid configuration" (some e.message)) := by
        simp only [run, hkey, runWithKey, hbuild]
      rw [hrun]
      exact .failed (errors_loadKey args s) _ _
    | ok c =>
      have hreaches : Reaches args s c := ⟨key, hkey, hbuild⟩
      cases hcommand : runCommand c s args.command with
      | error e =>
        rw [hreaches.run_eq, outcome_of_error hcommand]
        exact .failed (errors_loadKey args s) _ _
      | ok r =>
        obtain ⟨herrors, hexit | ⟨answer, hrejects⟩⟩ := cases_of_runCommand htimely hcommand
        · rw [hreaches.run_eq, outcome_of_ok hcommand]
          exact .succeeded hexit (by rw [errors_afterEvents, herrors])
        · have hrejects : RunRejects args s answer := ⟨c, hreaches, hrejects⟩
          obtain ⟨hexit, houtput, hevents⟩ := hrejects.ending
          exact .rejected hrejects hexit houtput hevents

/-- What a run with some arguments leaves behind, as far as its exit code tells. -/
structure EndsCleanly (args : Arguments) (s : Surroundings) (r : Report) : Prop where
  /-- A failure goes with exactly one error. -/
  failure_iff : r.exitCode = exitFailure ↔ (errors r.events).length = 1
  failure_output : r.exitCode = exitFailure → r.output = ""
  /-- A password that is rejected has an exit code of its own. -/
  rejected_iff : r.exitCode = exitRefused ↔ ∃ answer, RunRejects args s answer
  rejected_output : ∀ answer, RunRejects args s answer → r.output = line answer.text.toList
  /-- All other runs succeed. -/
  success : r.exitCode ≠ exitFailure → r.exitCode ≠ exitRefused → r.exitCode = exitSuccess
  /-- Nothing but a failure goes with an error. -/
  errors_eq_nil : r.exitCode ≠ exitFailure → errors r.events = []

/-- A run that ends in one of the three ways ends cleanly. -/
theorem Ending.endsCleanly (h : Ending args s r) (hrun : run args s = r) :
    EndsCleanly args s r := by
  have hrejects answer (h : RunRejects args s answer) :
      r.exitCode = exitRefused ∧ r.output = line answer.text.toList :=
    hrun ▸ ⟨h.ending.1, h.ending.2.1⟩
  have hnot (h : r.exitCode ≠ exitRefused) : ¬ ∃ answer, RunRejects args s answer :=
    fun ⟨answer, hanswer⟩ => h (hrejects answer hanswer).1
  have houtput answer (h : RunRejects args s answer) := (hrejects answer h).2
  cases h with
  | @failed events hevents message error =>
    have herrors : (errors (afterEvents events (failure message error)).events).length = 1 := by
      simp only [afterEvents, errors_append, hevents]
      rfl
    have hcode : exitFailure ≠ exitRefused := by decide
    exact ⟨iff_of_true rfl herrors, fun _ => rfl, iff_of_false hcode (hnot hcode), houtput,
      fun h => absurd rfl h, fun h => absurd rfl h⟩
  | rejected hrejected hexit _ hevents =>
    have hcode : r.exitCode ≠ exitFailure := by rw [hexit]; decide
    exact ⟨iff_of_false hcode (by simp [hevents]), fun h => absurd h hcode,
      iff_of_true hexit ⟨_, hrejected⟩, houtput, fun _ h => absurd hexit h, fun _ => hevents⟩
  | succeeded hexit hevents =>
    have hcode : r.exitCode ≠ exitFailure := by rw [hexit]; decide
    have hcode' : r.exitCode ≠ exitRefused := by rw [hexit]; decide
    exact ⟨iff_of_false hcode (by simp [hevents]), fun h => absurd h hcode,
      iff_of_false hcode' (hnot hcode'), houtput, fun _ _ => hexit, fun _ => hevents⟩

/-! ## What the operator sees -/

/-- What the operator sees of the errors of a run, given how texts are read as filters. -/
structure ShowsErrors (read : String → Option LogFilter) (s : Surroundings) (r : Report) :
    Prop where
  /-- The errors in the log are those that the filter shows. -/
  errors_log : errors (r.log (s.logFilter read)) = (errors r.events).filter (s.logFilter read)
  /-- If the filter shows all errors, a failure goes with exactly one error in the log. -/
  failure_iff : (∀ e ∈ errors r.events, s.logFilter read e = true) →
    (r.exitCode = exitFailure ↔ (errors (r.log (s.logFilter read))).length = 1)
  /-- It shows them unless a text that can be read asks for another filter. -/
  shows : s.filterText.bind read = none → ∀ e ∈ errors r.events, s.logFilter read e = true

/-- The errors of a run that ends cleanly are seen if the filter shows them. -/
theorem EndsCleanly.showsErrors (h : EndsCleanly args s r) (read : String → Option LogFilter) :
    ShowsErrors read s r where
  errors_log := r.errors_log _
  failure_iff hshown := by rw [r.errors_log, List.filter_eq_self.mpr hshown, h.failure_iff]
  shows hnone e _ := Surroundings.logFilter_eq_true hnone e

/--
Every run in which the clock is not before 1970 where that matters ends cleanly: it fails with one
error and no output, it rejects a password and prints the answer, or it succeeds, the last two
without an error. In whatever way texts are read as filters, the errors that the operator sees are
those that the filter shows, and without such a text these are all.
-/
theorem endsCleanly_run (args : Arguments) (s : Surroundings) (htimely : IsTimely s args.command) :
    EndsCleanly args s (run args s) ∧ ∀ read, ShowsErrors read s (run args s) := by
  have hclean := (ending_run htimely).endsCleanly rfl
  exact ⟨hclean, hclean.showsErrors⟩

/-- Surroundings without a key, in which a text asks for a filter. -/
def surroundingsWithFilter (text : String) : Surroundings where
  environmentBytes := [(Surroundings.filterVariable, Bytes.utf8 text.toList)]
  fileAt _ := .error .notFound
  input := []
  clock := ⟨1700000000, 0⟩
  draw _ := .replicate _ 0

/-- Without a key a run fails, whichever filter is asked for. -/
theorem leaves_surroundingsWithFilter (text : String) :
    Leaves ["-l", "json", "new-id"] (surroundingsWithFilter text) (failure noKeyMessage none) :=
  ⟨_, rfl, rfl⟩

/-- With all other events turned off, the error of the program itself is still seen. -/
theorem endsCleanly_run_directives : ∃ args s,
    Arguments.parse s.environment ["new-id"] = .ok args ∧
      s.filterText = some "off,warden=error" ∧ args.command.trustsClock = true ∧
      0 ≤ s.clock.seconds ∧ EndsCleanly args s (run args s) ∧
      (run args s).exitCode = exitFailure ∧
      (errors ((run args s).log (s.logFilter LogFilter.ofText?))).length = 1 := by
  have hshown : (surroundingsWithFilter "off,warden=error").logFilter LogFilter.ofText?
      ⟨.error, .program, noKeyMessage, []⟩ = true := by decide +kernel
  have hclock : 0 ≤ (surroundingsWithFilter "off,warden=error").clock.seconds := by decide
  refine ⟨_, surroundingsWithFilter "off,warden=error", rfl, rfl, rfl, hclock, ?_⟩
  obtain ⟨hclean, hlog⟩ := endsCleanly_run _ _ fun _ => hclock
  refine ⟨hclean, rfl, ((hlog LogFilter.ofText?).failure_iff fun e he => ?_).mp rfl⟩
  obtain rfl := List.mem_singleton.mp he
  exact hshown

/-- Not every failure has an error that is shown: without a key and with the log turned off, a run
fails and nothing is told. -/
theorem not_forall_error_shown : ¬ ∀ words s r, Leaves words s r →
    (r.exitCode = exitFailure ↔
      (errors (r.log (s.logFilter LogFilter.ofText?))).length = 1) := by
  intro hall
  have hoff : (surroundingsWithFilter "off").logFilter LogFilter.ofText? = LogFilter.upTo .off := by
    have htext : (surroundingsWithFilter "off").filterText = some "off" := rfl
    have hread : LogFilter.ofText? "off" = some (LogFilter.upTo .off) :=
      LogFilter.ofText?_name (by decide)
    rw [Surroundings.logFilter, htext, Option.bind_some, hread, Option.getD_some]
  have hone := (hall _ _ _ (leaves_surroundingsWithFilter "off")).mp rfl
  rw [hoff] at hone
  cases hone

end Program

end Credentials
