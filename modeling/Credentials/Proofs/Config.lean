import Credentials.Config

/-!
# Checked settings

Which settings make up a configuration, and what the configuration keeps of them.
-/

namespace Credentials

/-- A step after another succeeds if both do. -/
theorem bind_eq_ok_iff {ε α β : Type} {x : Except ε α} {f : α → Except ε β} {b : β} :
    x >>= f = .ok b ↔ ∃ a, x = .ok a ∧ f a = .ok b := by
  cases x with
  | error e => simp [bind, Except.bind]
  | ok a => simp [bind, Except.bind]

/-- A web address that leads over an encrypted connection or to the machine itself. -/
def Url.IsSecure (u : Url) : Prop :=
  u.scheme = .https ∨
    u.scheme = .http ∧ (u.host.text = "localhost".toList ∨ u.host.text = "127.0.0.1".toList)

/-- The bases of links are the secure web addresses. -/
theorem linkBase_eq_ok_iff {raw : String} {url : Url} :
    linkBase raw = .ok url ↔ AbsoluteUrl.parse? raw = some (.web url) ∧ url.IsSecure := by
  have hlocal (u : Url) : (u.scheme = .https ∨ u.host.isLocal = true) ↔ u.IsSecure := by
    cases hscheme : u.scheme <;> simp [Url.IsSecure, Url.Host.isLocal, hscheme]
  rw [linkBase]
  cases AbsoluteUrl.parse? raw with
  | none => simp
  | some parsed =>
    cases parsed with
    | web parsed =>
      by_cases hsecure : parsed.IsSecure
      · have haccepted := (hlocal parsed).mpr hsecure
        simp only [haccepted, if_true, Except.ok.injEq, Option.some.injEq, AbsoluteUrl.web.injEq]
        constructor
        · rintro rfl
          exact ⟨rfl, hsecure⟩
        · rintro ⟨rfl, _⟩
          rfl
      · have hrefused : ¬ (parsed.scheme = .https ∨ parsed.host.isLocal = true) :=
          fun h => hsecure ((hlocal parsed).mp h)
        simp only [if_neg hrefused, Option.some.injEq, AbsoluteUrl.web.injEq, reduceCtorEq,
          false_iff]
        rintro ⟨rfl, h⟩
        exact hsecure h
    | other => simp
    | opaqueUrl => simp

namespace Settings

/-- Settings make up a configuration if each check succeeds, and the configuration keeps them. -/
theorem build_eq_ok_iff {s : Settings} {c : Config} : s.build = .ok c ↔
    s.checkKey = .ok () ∧ s.checkLifetimes = .ok () ∧ s.hashParams.Usable ∧
      ∃ verificationBase resetBase, linkBase s.verificationBase = .ok verificationBase ∧
        linkBase s.resetBase = .ok resetBase ∧ c = { s with verificationBase, resetBase } := by
  have hparams : s.checkParams = .ok () ↔ s.hashParams.Usable := by
    rw [checkParams, Argon2.Params.Usable]
    cases s.hashParams.check <;> simp
  have hbase (name raw : String) (url : Url) :
      readBase name raw = .ok url ↔ linkBase raw = .ok url := by
    rw [readBase]
    cases linkBase raw <;> simp
  simp only [build, bind_eq_ok_iff, hparams, hbase, pure, Except.pure, Except.ok.injEq]
  constructor
  · rintro ⟨_, hkey, _, hlifetimes, _, hcosts, verification, hverification, reset, hreset, rfl⟩
    exact ⟨hkey, hlifetimes, hcosts, verification, reset, hverification, hreset, rfl⟩
  · rintro ⟨hkey, hlifetimes, hcosts, verification, reset, hverification, hreset, rfl⟩
    exact ⟨(), hkey, (), hlifetimes, (), hcosts, _, hverification, _, hreset, rfl⟩

/-- The bases of links that are used by default are accepted. -/
theorem exists_linkBase_default :
    (∃ url, linkBase "http://localhost:8080/verify-email" = .ok url) ∧
      ∃ url, linkBase "http://localhost:8080/reset-password" = .ok url := by
  have haccepted (raw : String) (h : (linkBase raw).isOk = true) :
      ∃ url, linkBase raw = .ok url := by
    cases hbase : linkBase raw with
    | error e => simp [hbase, Except.isOk, Except.toBool] at h
    | ok url => exact ⟨url, rfl⟩
  exact ⟨haccepted _ (by decide +kernel), haccepted _ (by decide +kernel)⟩

/-- Settings with the default bases make up a configuration if all else passes its check. -/
theorem exists_build_of_checks (s : Settings)
    (hbases : s.verificationBase = "http://localhost:8080/verify-email" ∧
      s.resetBase = "http://localhost:8080/reset-password")
    (hkey : minKeyLength ≤ s.key.length) (hlifetimes : s.checkLifetimes = .ok ())
    (hparams : s.hashParams.Usable) : ∃ c, s.build = .ok c := by
  obtain ⟨⟨verification, hverification⟩, reset, hreset⟩ := exists_linkBase_default
  have hchecked : s.checkKey = .ok () := by
    have hnonempty : s.key ≠ [] := by
      intro hempty
      rw [hempty] at hkey
      exact absurd hkey (by decide)
    simp [checkKey, hnonempty, Nat.not_lt.mpr hkey]
  rw [← hbases.1] at hverification
  rw [← hbases.2] at hreset
  exact ⟨_, build_eq_ok_iff.mpr ⟨hchecked, hlifetimes, hparams, verification, reset,
    hverification, hreset, rfl⟩⟩

/-- A long key and usable costs make up a configuration with the default settings. -/
theorem exists_build_of_key (key : List UInt8) (hashParams : Argon2.Params)
    (hkey : minKeyLength ≤ key.length) (hparams : hashParams.Usable) :
    ∃ c, Settings.build { key, hashParams } = .ok c :=
  exists_build_of_checks _ ⟨rfl, rfl⟩ hkey rfl hparams

/-- A configuration with the default settings and a key of zeros. -/
theorem exists_build_zeroKey : ∃ c, Settings.build { key := .replicate 32 0 } = .ok c ∧
    c.issuer = "warden" ∧ c.accessLifetime = .ofSeconds 300 := by
  obtain ⟨c, hc⟩ := exists_build_of_key (.replicate 32 0) Password.defaultParams (by decide)
    (by decide)
  obtain ⟨_, _, _, _, _, _, _, rfl⟩ := build_eq_ok_iff.mp hc
  exact ⟨_, hc, rfl, rfl⟩

/-- A configuration hashes with the costs that are asked for, which are usable. -/
theorem usable_of_build {s : Settings} {c : Config} (h : s.build = .ok c) :
    c.hashParams = s.hashParams ∧ c.hashParams.Usable := by
  obtain ⟨_, _, husable, _, _, _, _, rfl⟩ := build_eq_ok_iff.mp h
  exact ⟨rfl, husable⟩

end Settings

end Credentials
