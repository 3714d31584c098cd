import Credentials.CommandLine.Arguments
import Credentials.Proofs.Text.Mark
import Mathlib.Data.List.Forall2

/-!
# Options, commands and claims

How the arguments of the program are put together: options that configure every command, the name of
a command, and its own arguments. Claims are given by an option that may be repeated, each attached
to the option or as the argument after it.
-/

namespace Credentials.CommandLine

/-! ## Taking arguments apart -/

namespace Scan

variable {Item : Type} {g : Grammar Item} {s t : Scan Item}

/-- Nothing waits for a value if all that is pending can be read. -/
theorem waiting_of_resolve (h : s.resolve = .ok t) : s.waiting = none := by
  rw [resolve] at h
  rw [waiting]
  split at h
  · rename_i hpending
    rw [hpending]
  · cases h
  · rename_i hpending
    rw [hpending]

/-- What holds no command is taken in before that which follows it. -/
theorem run_append {args rest : List String} (h : run g s args = .ok (t, none)) :
    run g s (args ++ rest) = run g t rest := by
  induction args generalizing s with
  | nil =>
    simp only [run, Except.ok.injEq, Prod.mk.injEq, and_true] at h
    rw [h, List.nil_append]
  | cons arg args ih =>
    rw [run] at h
    rw [List.cons_append, run]
    split at h
    · cases h
    · rename_i hcommand
      rw [if_neg hcommand]
      cases hstep : s.step g arg with
      | error e => simp [hstep, bind, Except.bind] at h
      | ok next =>
        simp only [hstep, bind, Except.bind] at h
        exact ih h

/-- A command ends the arguments of its level. -/
theorem run_command {name : String} {rest : List String} (hended : s.ended = false)
    (hwaiting : s.waiting = none) (hname : name ∈ g.commands) :
    run g s (name :: rest) = .ok (s, some (name, rest)) := by
  rw [run, if_pos (by simp [hended, hwaiting, hname])]

/-- Where there are no commands, arguments are taken in one by one. -/
theorem run_cons {arg : String} {rest : List String} (hcommands : g.commands = [])
    (hstep : s.step g arg = .ok t) : run g s (arg :: rest) = run g t rest := by
  rw [run, if_neg (by simp [hcommands]), hstep]
  rfl

/-- An argument that does not begin with a hyphen is a value or an operand. -/
theorem step_of_head? {arg : String} (hended : s.ended = false)
    (harg : arg.toList.head? ≠ some '-') : s.step g arg = s.valueOrOperand g arg := by
  rw [step, if_neg (by simp [hended])]
  split <;> simp_all

/-- An argument that begins with two hyphens is a long option. -/
theorem step_long {arg : String} {text : List Char} (hended : s.ended = false) (hne : text ≠ [])
    (harg : arg.toList = '-' :: '-' :: text) : s.step g arg = s.longOption g text := by
  obtain ⟨c, text, rfl⟩ := List.exists_cons_of_ne_nil hne
  rw [step, if_neg (by simp [hended]), harg]
  rfl

section

variable {p : Parameter Item} {name value : List Char}

/-- A long option whose value is attached by an equals sign. -/
theorem longOption_append (hname : '=' ∉ name) (hfound : g.long? (.ofList name) = some p)
    (htakes : p.takesValue = true) :
    s.longOption g (name ++ '=' :: value) = s.option p (some (.ofList value)) := by
  simp only [longOption, Text.takeWhile_bne_append hname, Text.dropWhile_bne_append hname, hfound,
    htakes, if_true]

/-- A long option that waits for its value. -/
theorem longOption_name (hname : '=' ∉ name) (hfound : g.long? (.ofList name) = some p)
    (htakes : p.takesValue = true) : s.longOption g name = s.option p none := by
  simp only [longOption, Text.takeWhile_bne_of_notMem hname, Text.dropWhile_bne_of_notMem hname,
    hfound, htakes, if_true]

end

end Scan

/-! ## Options before a command -/

/-- Words that stand before a command are options, which are read as some items. -/
def AreOptions (options : List String) (items : Items) : Prop :=
  ∃ s done, topLevel.scan options = .ok (s, none) ∧ s.ended = false ∧ s.resolve = .ok done ∧
    done.found = items

/-- Options, a command and its arguments are the arguments of the program. -/
theorem Arguments.parse_append {options words : List String} {items : Items} {name : String}
    {command : Command} (hoptions : AreOptions options items) (hname : name ∈ topLevel.commands)
    (hhelp : name ≠ "help") (hcommand : parseCommand name words = .ok command)
    (env : Environment) :
    Arguments.parse env (options ++ name :: words) = .ok (.ofItems items env command) := by
  obtain ⟨s, done, hscan, hended, hresolve, rfl⟩ := hoptions
  have hrun : topLevel.scan (options ++ name :: words) = .ok (s, some (name, words)) := by
    rw [Grammar.scan, Scan.run_append hscan]
    exact Scan.run_command hended (Scan.waiting_of_resolve hresolve) hname
  rw [Arguments.parse, hrun]
  simp [bind, Except.bind, pure, Except.pure, hcommand, hresolve]

/-! ## Claims -/

/--
Words that give texts to the option for claims: each text is attached to the option by an equals
sign, or it is the word after the option, where it must not begin with a hyphen.
-/
inductive GiveClaims : List String → List String → Prop
  | nil : GiveClaims [] []
  | attached {text : String} {words texts : List String} (h : GiveClaims words texts) :
    GiveClaims (("--claim=" ++ text) :: words) (text :: texts)
  | separate {text : String} {words texts : List String} (hhyphen : text.toList.head? ≠ some '-')
    (h : GiveClaims words texts) : GiveClaims ("--claim" :: text :: words) (text :: texts)

/-- The option for claims. -/
def claimOption : Parameter Item where
  name := "claim"
  short := some 'c'
  repeatable := true
  read := Item.readClaim

/-- The option for claims is found by its name. -/
theorem long?_claim : (commandGrammar "issue").long? "claim" = some claimOption := rfl

/-- The claims of items after one more claim. -/
theorem Items.claims_cons (name : String) (c : Claim) (items : Items) :
    Items.claims ((name, .claim c) :: items) = items.claims ++ [c] := by
  simp [Items.claims]

/-- All that has been taken in is read, and consists of some claims. -/
structure HasRead (s : Scan Item) (claims : List Claim) : Prop where
  pending : s.pending = none
  ended : s.ended = false
  claims : Items.claims s.found = claims

/-- What has been taken in can be read, and then consists of some claims. -/
def HoldsClaims (s : Scan Item) (claims : List Claim) : Prop :=
  s.ended = false ∧ ∃ done, s.resolve = .ok done ∧ HasRead done claims

section

variable {s : Scan Item} {before claims : List Claim} {text : String} {c : Claim}

/-- What is read already holds its claims. -/
theorem HasRead.holdsClaims (h : HasRead s claims) : HoldsClaims s claims :=
  ⟨h.ended, s, by rw [Scan.resolve, h.pending], h⟩

/-- A claim is read from its text after others. -/
theorem HasRead.exists_accept (h : HasRead s before) (hparse : Claim.parse text = .ok c) :
    ∃ t, s.accept claimOption text = .ok t ∧ HasRead t (before ++ [c]) := by
  refine ⟨{ s with found := ("claim", .claim c) :: s.found }, ?_, h.pending, h.ended, ?_⟩
  · simp [Scan.accept, claimOption, Item.readClaim, hparse, Except.map]
  · rw [Items.claims_cons, h.claims]

/-- A claim that is attached to the option is taken in. -/
theorem HoldsClaims.exists_step (hs : HoldsClaims s before) (hparse : Claim.parse text = .ok c) :
    ∃ t, s.step (commandGrammar "issue") ("--claim=" ++ text) = .ok t ∧
      HoldsClaims t (before ++ [c]) := by
  obtain ⟨hended, done, hresolve, hdone⟩ := hs
  obtain ⟨t, haccept, ht⟩ := hdone.exists_accept hparse
  have hchars : ("--claim=" ++ text).toList =
      '-' :: '-' :: (['c', 'l', 'a', 'i', 'm'] ++ '=' :: text.toList) := by simp
  refine ⟨t, ?_, ht.holdsClaims⟩
  rw [Scan.step_long hended (by simp) hchars,
    Scan.longOption_append (by decide) long?_claim rfl, String.ofList_toList, Scan.option, hresolve]
  exact haccept

/-- A claim that is the argument after the option is taken in, and read later. -/
theorem HoldsClaims.exists_steps (hs : HoldsClaims s before) (hparse : Claim.parse text = .ok c)
    (hhyphen : text.toList.head? ≠ some '-') :
    ∃ u t, s.step (commandGrammar "issue") "--claim" = .ok u ∧
      u.step (commandGrammar "issue") text = .ok t ∧ HoldsClaims t (before ++ [c]) := by
  obtain ⟨hended, done, hresolve, hdone⟩ := hs
  obtain ⟨t, haccept, ht⟩ := hdone.exists_accept hparse
  refine ⟨{ done with pending := some (claimOption, none) },
    { done with pending := some (claimOption, some text) }, ?_, ?_, hdone.ended, t, ?_, ht⟩
  · have hchars : "--claim".toList = '-' :: '-' :: ['c', 'l', 'a', 'i', 'm'] := rfl
    rw [Scan.step_long hended (by simp) hchars, Scan.longOption_name (by decide) long?_claim rfl,
      Scan.option, hresolve]
    rfl
  · rw [Scan.step_of_head? (s := { done with pending := some (claimOption, none) }) hdone.ended
      hhyphen]
    rfl
  · -- With nothing pending, what has been read is as it was before the option came.
    have hsame : { done with pending := none } = done := by
      rw [← hdone.pending]
    rw [Scan.resolve, hsame]
    exact haccept

/-- All claims that are given are taken in. -/
theorem exists_run_of_giveClaims {words texts : List String} (hwords : GiveClaims words texts)
    (hparse : List.Forall₂ (fun text c => Claim.parse text = .ok c) texts claims)
    (hs : HoldsClaims s before) : ∃ t, Scan.run (commandGrammar "issue") s words = .ok (t, none) ∧
      HoldsClaims t (before ++ claims) := by
  -- The claims so far grow with the words, so that the scan they are held by has to vary.
  induction hwords generalizing s before claims with
  | nil =>
    cases hparse
    exact ⟨s, rfl, by simpa using hs⟩
  | attached _ ih =>
    cases hparse with
    | cons hfirst hrest =>
      obtain ⟨next, hstep, hnext⟩ := hs.exists_step hfirst
      obtain ⟨t, hrun, ht⟩ := ih hrest hnext
      refine ⟨t, ?_, by simpa using ht⟩
      rw [Scan.run_cons rfl hstep, hrun]
  | separate hhyphen _ ih =>
    cases hparse with
    | cons hfirst hrest =>
      obtain ⟨between, next, hflag, hvalue, hnext⟩ := hs.exists_steps hfirst hhyphen
      obtain ⟨t, hrun, ht⟩ := ih hrest hnext
      refine ⟨t, ?_, by simpa using ht⟩
      rw [Scan.run_cons rfl hflag, Scan.run_cons rfl hvalue, hrun]

/-- The command that issues tokens is read with all claims that are given. -/
theorem parseCommand_issue {words texts : List String} (hwords : GiveClaims words texts)
    (hparse : List.Forall₂ (fun text c => Claim.parse text = .ok c) texts claims) :
    parseCommand "issue" words = .ok (.issue claims) := by
  have hstart : HasRead { operands := [] } [] := ⟨rfl, rfl, rfl⟩
  obtain ⟨t, hrun, _, done, hresolve, hdone⟩ :=
    exists_run_of_giveClaims hwords hparse hstart.holdsClaims
  have hscan : (commandGrammar "issue").scan words = .ok (t, none) := hrun
  simp only [parseCommand, hscan, hresolve, bind, Except.bind, Items.command, hdone.claims,
    List.nil_append]

end

/-! ## Operands -/

/-- Where one operand can be given, it is what does not begin with a hyphen. -/
theorem scan_operand {Item : Type} {g : Grammar Item} {p : Parameter Item} {arg : String}
    (hcommands : g.commands = []) (hoperands : g.operands = [p])
    (harg : arg.toList.head? ≠ some '-') :
    g.scan [arg] = .ok ({ pending := some (p, some arg), operands := [] }, none) := by
  have hstep : Scan.step g { operands := g.operands } arg =
      .ok { pending := some (p, some arg), operands := [] } := by
    rw [Scan.step_of_head? rfl harg, hoperands]
    rfl
  rw [Grammar.scan, Scan.run_cons hcommands hstep]
  rfl

/-- The command that inspects a token is read with a token that does not begin with a hyphen. -/
theorem parseCommand_inspect {token : String} (h : token.toList.head? ≠ some '-') :
    parseCommand "inspect" [token] = .ok (.inspect token) := by
  simp only [parseCommand, scan_operand (g := commandGrammar "inspect") rfl rfl h, bind,
    Except.bind]
  rfl

/-- The command that checks a password is read with a hash that does not begin with a hyphen. -/
theorem parseCommand_verifyPassword {hash : String} (h : hash.toList.head? ≠ some '-') :
    parseCommand "verify-password" [hash] = .ok (.verifyPassword hash) := by
  simp only [parseCommand, scan_operand (g := commandGrammar "verify-password") rfl rfl h, bind,
    Except.bind]
  rfl

/-- The command that hashes a password takes no arguments. -/
theorem parseCommand_hashPassword : parseCommand "hash-password" [] = .ok .hashPassword := rfl

end Credentials.CommandLine
