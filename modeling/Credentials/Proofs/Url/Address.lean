import Credentials.Url.Address
import Mathlib.Algebra.Ring.Nat
import Mathlib.Data.List.Basic
import Mathlib.Data.List.Induction
import Mathlib.Data.Option.Basic

/-!
# Numeric hosts are read back

Each address is read from the one text that it is written as.
-/

namespace Credentials

/-- What a list of results holds has come from an item. -/
theorem mem_of_mapM {α β : Type} {f : α → Option β} {items : List α} {results : List β}
    (h : items.mapM f = some results) : ∀ b ∈ results, ∃ a ∈ items, f a = some b := by
  induction items generalizing results with
  | nil =>
    obtain rfl := Option.some.inj h
    simp
  | cons a items ih =>
    simp only [List.mapM_cons, Option.bind_eq_bind, Option.bind_eq_some_iff, Option.pure_def,
      Option.some.injEq] at h
    obtain ⟨b, hb, rest, hrest, rfl⟩ := h
    intro c hc
    rcases List.mem_cons.mp hc with rfl | hc
    · exact ⟨a, by simp, hb⟩
    · obtain ⟨d, hd, hread⟩ := ih hrest c hc
      exact ⟨d, by simp [hd], hread⟩

/-- What stands in a text with separators is a separator or stands between them. -/
theorem mem_of_mem_intercalate {sep c : Char} {parts : List (List Char)}
    (h : c ∈ [sep].intercalate parts) : c = sep ∨ ∃ part ∈ parts, c ∈ part := by
  induction parts with
  | nil => cases h
  | cons first parts ih =>
    cases parts with
    | nil => exact Or.inr ⟨first, by simp, by simpa using h⟩
    | cons second parts =>
      rw [List.intercalate_cons_cons] at h
      simp only [List.mem_append, List.mem_singleton] at h
      rcases h with (h | h) | h
      · exact Or.inr ⟨first, by simp, h⟩
      · exact Or.inl h
      · rcases ih h with hsep | ⟨part, hpart, hc⟩
        · exact Or.inl hsep
        · exact Or.inr ⟨part, List.mem_cons_of_mem _ hpart, hc⟩

/-! ## Numbers in a base -/

namespace Text

/-- A digit is the value of its character, up to sixteen digits. -/
theorem digitIn?_digitChar {base d : Nat} (hbase : base ≤ 16) (hd : d < base) :
    digitIn? base (Nat.digitChar d) = some d := by
  have hvalue : ∀ d < 16, hexValue? (Nat.digitChar d) = some d := by decide
  rw [digitIn?, hvalue d (by omega), Option.filter_some_pos (by simpa using hd)]

/-- Digits that follow others count for less. -/
theorem numberIn?_append (base : Nat) (s t : List Char) :
    numberIn? base (s ++ t) = (numberIn? base s).bind fun n =>
      t.foldlM (fun n c => (digitIn? base c).map (n * base + ·)) n := by
  rw [numberIn?, List.foldlM_append]
  rfl

/-- The digits of a number spell it. -/
theorem numberIn?_toDigits {base : Nat} (htwo : 1 < base) (hbase : base ≤ 16) (n : Nat) :
    numberIn? base (Nat.toDigits base n) = some n := by
  induction n using Nat.strongRecOn with
  | ind n ih =>
    by_cases hsmall : n < base
    · rw [Nat.toDigits_of_lt_base hsmall, numberIn?, List.foldlM_cons,
        digitIn?_digitChar hbase hsmall]
      simp
    · have hlast : n % base < base := Nat.mod_lt n (by omega)
      have hvalue : n / base * base + n % base = n := by
        rw [Nat.mul_comm]
        exact Nat.div_add_mod n base
      rw [Nat.toDigits_of_base_le htwo (by omega), numberIn?_append,
        ih (n / base) (Nat.div_lt_self (by omega) htwo)]
      simp [digitIn?_digitChar hbase hlast, hvalue]

/-- As many digits as there are bound a number. -/
theorem numberIn?_lt {base n : Nat} {digits : List Char} (h : numberIn? base digits = some n) :
    n < base ^ digits.length := by
  induction digits using List.reverseRecOn generalizing n with
  | nil =>
    obtain rfl := Option.some.inj h
    exact Nat.one_pos
  | append_singleton digits c ih =>
    rw [numberIn?_append] at h
    obtain ⟨m, hm, hlast⟩ := Option.bind_eq_some_iff.mp h
    have hstep : ∃ d, digitIn? base c = some d ∧ m * base + d = n := by simpa using hlast
    obtain ⟨d, hd, rfl⟩ := hstep
    have hdigit : d < base := by
      have hfilter := (Option.filter_eq_some_iff.mp hd).2
      simpa using hfilter
    calc m * base + d < (m + 1) * base := by rw [Nat.succ_mul]; omega
      _ ≤ base ^ digits.length * base := Nat.mul_le_mul_right base (ih hm)
      _ = base ^ (digits ++ [c]).length := by simp [Nat.pow_succ]

/-- What holds of the digits of a base holds of the characters of a number. -/
theorem forall_mem_toDigits {base : Nat} {P : Char → Prop} (htwo : 1 < base)
    (hdigit : ∀ d < base, P (Nat.digitChar d)) (n : Nat) : ∀ c ∈ Nat.toDigits base n, P c := by
  induction n using Nat.strongRecOn with
  | ind n ih =>
    intro c hc
    by_cases hsmall : n < base
    · rw [Nat.toDigits_of_lt_base hsmall, List.mem_singleton] at hc
      exact hc ▸ hdigit n hsmall
    · rw [Nat.toDigits_of_base_le htwo (by omega), List.mem_append, List.mem_singleton] at hc
      rcases hc with hc | rfl
      · exact ih (n / base) (Nat.div_lt_self (by omega) htwo) c hc
      · exact hdigit (n % base) (Nat.mod_lt n (by omega))

end Text

namespace Url

open Credentials.Text

/-! ## IPv4 -/

namespace Ipv4

/-- The four bytes of an address. -/
def bytes (address : Nat) : List Nat :=
  [address >>> 24, address >>> 16 % 256, address >>> 8 % 256, address % 256]

/-- An address is written as its bytes. -/
theorem text_eq (address : Nat) :
    text address = ['.'].intercalate ((bytes address).map (Nat.toDigits 10)) := rfl

/-- An address is written in digits and dots. -/
theorem forall_mem_text {P : Char → Prop} (hdot : P '.') (hdigit : ∀ d < 10, P (Nat.digitChar d))
    (address : Nat) : ∀ c ∈ text address, P c := by
  intro c hc
  rw [text_eq] at hc
  rcases mem_of_mem_intercalate hc with rfl | ⟨part, hpart, hc⟩
  · exact hdot
  · obtain ⟨n, _, rfl⟩ := List.mem_map.mp hpart
    exact forall_mem_toDigits (by decide) hdigit n c hc

/-- The decimal digits of a byte are read as it. -/
theorem number?_toDigits : ∀ n < 256, number? (Nat.toDigits 10 n) = some n := by decide +kernel

/-- A number is written without dots. -/
theorem dot_notMem_toDigits (n : Nat) : '.' ∉ Nat.toDigits 10 n := by
  have hnone : ∀ c ∈ Nat.toDigits 10 n, c ≠ '.' := forall_mem_toDigits (by decide) (by decide) n
  exact fun h => hnone '.' h rfl

/-- The text of an address is cut into its bytes. -/
theorem parts_text (address : Nat) :
    parts (text address) = (bytes address).map (Nat.toDigits 10) := by
  have hsplit : (text address).splitOn '.' = (bytes address).map (Nat.toDigits 10) := by
    rw [text_eq]
    apply List.splitOn_intercalate
    · intro part hpart
      obtain ⟨n, _, rfl⟩ := List.mem_map.mp hpart
      exact dot_notMem_toDigits n
    · simp [bytes]
  have hlast : ((bytes address).map (Nat.toDigits 10)).getLast? ≠ some [] := by
    simp [bytes, Nat.toDigits_ne_nil]
  rw [parts, hsplit]
  exact if_neg fun h => hlast h.2

/-- Four bytes make up an address. -/
theorem ofNumbers?_bytes {address : Nat} (h : address < size) :
    ofNumbers? (bytes address) = some address := by
  have hsize : size = 2 ^ 32 := rfl
  have hfirst : address / 2 ^ 24 < 256 := by omega
  have hsum : ((address / 2 ^ 24 * 256 + address / 2 ^ 16 % 256) * 256 + address / 2 ^ 8 % 256) *
      256 + address % 256 = address := by omega
  have hmod (n : Nat) : n % 256 < 256 := Nat.mod_lt n (by decide)
  have hguard : (bytes address).length ≤ 4 ∧ (bytes address).dropLast.all (· < 256) = true ∧
      address % 256 < Nat.pow 256 (4 - (bytes address).dropLast.length) := by
    refine ⟨by simp [bytes], ?_, hmod address⟩
    simpa [bytes, Nat.shiftRight_eq_div_pow, hmod] using hfirst
  have hlast : (bytes address).getLast? = some (address % 256) := rfl
  simp only [ofNumbers?, hlast, Option.bind_eq_bind, Option.bind_some, guard, if_pos hguard]
  simpa [bytes, Nat.shiftRight_eq_div_pow] using hsum

/-- Bytes in front of a number are fewer than their weight. -/
theorem foldl_lt {numbers : List Nat} (h : ∀ b ∈ numbers, b < 256) :
    numbers.foldl (fun n b => n * 256 + b) 0 < 256 ^ numbers.length := by
  induction numbers using List.reverseRecOn with
  | nil => decide
  | append_singleton numbers b ih =>
    have hrest := ih fun c hc => h c (by simp [hc])
    have hb : b < 256 := h b (by simp)
    rw [List.foldl_append, List.length_append, List.length_singleton, Nat.pow_succ]
    simp only [List.foldl_cons, List.foldl_nil]
    omega

/-- The numbers of a host make up an address of four bytes. -/
theorem parse?_lt {host : List Char} {address : Nat} (h : parse? host = some address) :
    address < size := by
  obtain ⟨numbers, _, hnumbers⟩ := Option.bind_eq_some_iff.mp h
  obtain ⟨last, hlast, hrest⟩ := Option.bind_eq_some_iff.mp hnumbers
  simp only [Option.bind_eq_bind, Option.bind_eq_some_iff, Option.guard_eq_some',
    Option.pure_def, Option.some.injEq, exists_const] at hrest
  obtain ⟨⟨hlength, hbytes, hbound⟩, rfl⟩ := hrest
  have hnonempty : numbers ≠ [] := by
    rintro rfl
    cases hlast
  have hcount : numbers.dropLast.length ≤ 3 := by
    rw [List.length_dropLast]
    omega
  have hfold : numbers.dropLast.foldl (fun n b => n * 256 + b) 0 < 256 ^ numbers.dropLast.length :=
    foldl_lt fun b hb => by simpa using List.all_eq_true.mp hbytes b hb
  have hsize : 256 ^ numbers.dropLast.length * 256 ^ (4 - numbers.dropLast.length) = size := by
    rw [← Nat.pow_add, Nat.add_sub_of_le (by omega)]
    rfl
  have hweight := Nat.mul_le_mul_right (256 ^ (4 - numbers.dropLast.length)) hfold
  have hlastBound : last < 256 ^ (4 - numbers.dropLast.length) := hbound
  have hgoal : numbers.dropLast.foldl (fun n b => n * 256 + b) 0 *
      256 ^ (4 - numbers.dropLast.length) + last < size := by
    rw [← hsize]
    rw [Nat.succ_mul] at hweight
    omega
  exact hgoal

/-- An address is read from its text, which is numeric. -/
theorem parse?_text {address : Nat} (h : address < size) :
    isNumeric (text address) = true ∧ parse? (text address) = some address := by
  constructor
  · have hdigits : (Nat.toDigits 10 (address % 256)).all Char.isDigit = true := by
      rw [List.all_eq_true]
      exact fun c hc => Nat.isDigit_of_mem_toDigits (by decide) (by decide) hc
    simp [isNumeric, parts_text, bytes, hdigits, Nat.toDigits_ne_nil]
  · have hsize : size = 2 ^ 32 := rfl
    have hread : ((bytes address).map (Nat.toDigits 10)).mapM number? = some (bytes address) := by
      have hfirst : address >>> 24 < 256 := by
        rw [Nat.shiftRight_eq_div_pow]
        omega
      simp [bytes, List.mapM_cons, number?_toDigits _ hfirst, number?_toDigits _ (Nat.mod_lt _ _)]
    rw [parse?, parts_text, hread]
    exact ofNumbers?_bytes h

end Ipv4

/-! ## IPv6 -/

namespace Ipv6

/-- Eight pieces of sixteen bits. -/
def IsAddress (pieces : List Nat) : Prop := pieces.length = length ∧ ∀ p ∈ pieces, p < 0x10000

/-- A piece is written without colons and dots. -/
theorem marks_notMem_toDigits (n : Nat) :
    ':' ∉ Nat.toDigits 16 n ∧ '.' ∉ Nat.toDigits 16 n := by
  have hnone : ∀ c ∈ Nat.toDigits 16 n, c ≠ ':' ∧ c ≠ '.' :=
    forall_mem_toDigits (by decide) (by decide) n
  exact ⟨fun h => (hnone ':' h).1 rfl, fun h => (hnone '.' h).2 rfl⟩

/-- Pieces are written in digits and colons. -/
theorem forall_mem_runText {P : Char → Prop} (hcolon : P ':')
    (hdigit : ∀ d < 16, P (Nat.digitChar d)) (pieces : List Nat) : ∀ c ∈ runText pieces, P c := by
  intro c hc
  rcases mem_of_mem_intercalate hc with rfl | ⟨part, hpart, hc⟩
  · exact hcolon
  · obtain ⟨n, _, rfl⟩ := List.mem_map.mp hpart
    exact forall_mem_toDigits (by decide) hdigit n c hc

/-- An address is written in digits and colons. -/
theorem forall_mem_text {P : Char → Prop} (hcolon : P ':')
    (hdigit : ∀ d < 16, P (Nat.digitChar d)) (pieces : List Nat) : ∀ c ∈ text pieces, P c := by
  intro c hc
  rw [text] at hc
  generalize longestZeros pieces = longest at hc
  obtain ⟨start, run⟩ := longest
  dsimp only at hc
  split at hc
  · exact forall_mem_runText hcolon hdigit pieces c hc
  · simp only [List.mem_append, List.mem_cons, List.not_mem_nil, or_false, or_self] at hc
    rcases hc with (hc | rfl) | hc
    · exact forall_mem_runText hcolon hdigit _ c hc
    · exact hcolon
    · exact forall_mem_runText hcolon hdigit _ c hc

/-- The hexadecimal digits of a piece are read as it. -/
theorem piece?_toDigits {n : Nat} (h : n < 0x10000) : piece? (Nat.toDigits 16 n) = some n := by
  have hlength : (Nat.toDigits 16 n).length ≤ 4 :=
    (Nat.length_toDigits_le_iff (by decide) (by decide)).mpr h
  have hfits : ¬ ((Nat.toDigits 16 n).isEmpty = true ∨ 4 < (Nat.toDigits 16 n).length) := by
    simp [Nat.toDigits_ne_nil, hlength]
  rw [piece?, if_neg hfits, numberIn?_toDigits (by decide) (by decide)]

/-- Pieces are read from their texts. -/
theorem pieces?_map_toDigits (allowTail : Bool) {pieces : List Nat}
    (h : ∀ p ∈ pieces, p < 0x10000) :
    pieces? allowTail (pieces.map (Nat.toDigits 16)) = some pieces := by
  induction pieces with
  | nil => rfl
  | cons p pieces ih =>
    have hp := piece?_toDigits (h p (by simp))
    cases pieces with
    | nil =>
      have hdot := (marks_notMem_toDigits p).2
      simp [pieces?, hdot, hp]
    | cons q pieces =>
      have hrest := ih fun r hr => h r (by simp [hr])
      rw [List.map_cons] at hrest
      simp [pieces?, hp, hrest]

/-- Pieces are read from the text that has no double colon for them. -/
theorem run?_runText (allowTail : Bool) {pieces : List Nat} (h : ∀ p ∈ pieces, p < 0x10000) :
    run? allowTail (runText pieces) = some pieces := by
  cases pieces with
  | nil => rfl
  | cons p pieces =>
    have hsplit : (runText (p :: pieces)).splitOn ':' = (p :: pieces).map (Nat.toDigits 16) := by
      apply List.splitOn_intercalate
      · intro part hpart
        obtain ⟨n, _, rfl⟩ := List.mem_map.mp hpart
        exact (marks_notMem_toDigits n).1
      · simp
    have hnonempty : (runText (p :: pieces)).isEmpty = false := by
      -- An empty text would be cut into one empty part.
      rw [List.isEmpty_eq_false_iff]
      intro hnil
      rw [hnil, List.splitOn_nil] at hsplit
      have hfirst := List.cons.inj hsplit
      exact Nat.toDigits_ne_nil hfirst.1.symm
    rw [run?, hnonempty, hsplit, if_neg (by decide), pieces?_map_toDigits allowTail h]

/-- A double colon is not looked for in the digits before it. -/
theorem splitDoubleColon_append {digits : List Char} (h : ':' ∉ digits) (rest : List Char) :
    splitDoubleColon (digits ++ rest) =
      (splitDoubleColon rest).map fun (left, right) => (digits ++ left, right) := by
  induction digits with
  | nil => simp
  | cons c digits ih =>
    simp only [List.mem_cons, not_or] at h
    rw [List.cons_append, splitDoubleColon, ih h.2]
    · simp [Function.comp_def]
    · intro rest' hc _
      exact h.1 hc.symm

/-- The text of some pieces begins with a digit of the first one. -/
theorem exists_runText_cons (p : Nat) (pieces : List Nat) :
    ∃ c text, runText (p :: pieces) = c :: text ∧ c ≠ ':' := by
  obtain ⟨c, digits, hdigits⟩ := List.exists_cons_of_ne_nil (Nat.toDigits_ne_nil (n := p) (b := 16))
  have hc : c ≠ ':' := by
    rintro rfl
    exact (marks_notMem_toDigits p).1 (hdigits ▸ List.mem_cons_self)
  cases pieces with
  | nil => exact ⟨c, digits, by simp [runText, hdigits], hc⟩
  | cons q pieces =>
    refine ⟨c, digits ++ ':' :: runText (q :: pieces), ?_, hc⟩
    simp [runText, List.intercalate_cons_cons, hdigits]

/-- A double colon is not looked for in the pieces before it. -/
theorem splitDoubleColon_runText_append (pieces : List Nat) (rest : List Char) :
    splitDoubleColon (runText pieces ++ rest) =
      (splitDoubleColon rest).map fun (left, right) => (runText pieces ++ left, right) := by
  induction pieces with
  | nil => simp [runText]
  | cons p pieces ih =>
    have hp := (marks_notMem_toDigits p).1
    cases pieces with
    | nil => simpa [runText] using splitDoubleColon_append hp rest
    | cons q pieces =>
      have htext : runText (p :: q :: pieces) =
          Nat.toDigits 16 p ++ ':' :: runText (q :: pieces) := by
        simp [runText, List.intercalate_cons_cons]
      -- The colon between two pieces is followed by a digit.
      have hcolon : splitDoubleColon (':' :: (runText (q :: pieces) ++ rest)) =
          (splitDoubleColon (runText (q :: pieces) ++ rest)).map
            fun (left, right) => (':' :: left, right) := by
        obtain ⟨c, text, hcons, hc⟩ := exists_runText_cons q pieces
        rw [hcons, List.cons_append, splitDoubleColon]
        intro rest' _ heq
        exact hc (List.cons.inj heq).1
      rw [htext, List.append_assoc, splitDoubleColon_append hp, List.cons_append, hcolon, ih]
      simp [Function.comp_def]

/-- Pieces have no double colon between them. -/
theorem splitDoubleColon_runText (pieces : List Nat) : splitDoubleColon (runText pieces) = none := by
  have hnone := splitDoubleColon_runText_append pieces []
  rwa [List.append_nil] at hnone

/-- The first longest run of zeros is a run of zeros. -/
theorem longestZeros_le (pieces : List Nat) :
    (longestZeros pieces).2 ≤ leadingZeros (pieces.drop (longestZeros pieces).1) := by
  rw [longestZeros]
  generalize List.range pieces.length = indices
  have hinvariant : ∀ best : Nat × Nat, best.2 ≤ leadingZeros (pieces.drop best.1) →
      (indices.foldl (fun best i =>
        let run := leadingZeros (pieces.drop i)
        if best.2 < run then (i, run) else best) best).2 ≤
      leadingZeros (pieces.drop (indices.foldl (fun best i =>
        let run := leadingZeros (pieces.drop i)
        if best.2 < run then (i, run) else best) best).1) := by
    induction indices with
    | nil => exact fun best hbest => hbest
    | cons i indices ih =>
      intro best hbest
      rw [List.foldl_cons]
      apply ih
      dsimp only
      split
      · exact Nat.le_refl _
      · exact hbest
  exact hinvariant (0, 0) (Nat.zero_le _)

/-- A list begins with as many zeros as are counted. -/
theorem eq_replicate_append {pieces : List Nat} {n : Nat} (h : n ≤ leadingZeros pieces) :
    pieces = .replicate n 0 ++ pieces.drop n := by
  induction n generalizing pieces with
  | zero => simp
  | succ n ih =>
    cases pieces with
    | nil => simp [leadingZeros] at h
    | cons p pieces =>
      by_cases hp : p = 0
      · subst hp
        have hrest : n ≤ leadingZeros pieces := by simpa [leadingZeros] using h
        rw [List.replicate_succ, List.cons_append, List.drop_succ_cons, ← ih hrest]
      · simp [leadingZeros, hp] at h

/-- An address is read from its text. -/
theorem parse?_text {pieces : List Nat} (h : IsAddress pieces) :
    parse? (text pieces) = some pieces := by
  obtain ⟨hlength, hbound⟩ := h
  have hrun := longestZeros_le pieces
  rw [text]
  generalize longestZeros pieces = longest at hrun
  obtain ⟨start, run⟩ := longest
  dsimp only at hrun ⊢
  by_cases hshort : run < 2
  · rw [if_pos hshort, parse?, splitDoubleColon_runText]
    simp [run?_runText true hbound, guard, hlength]
  · have hpieces : pieces = pieces.take start ++ .replicate run 0 ++ pieces.drop (start + run) := by
      conv_lhs => rw [← List.take_append_drop start pieces, eq_replicate_append hrun]
      rw [List.drop_drop, List.append_assoc]
    have hleft : ∀ p ∈ pieces.take start, p < 0x10000 :=
      fun p hp => hbound p (List.mem_of_mem_take hp)
    have hright : ∀ p ∈ pieces.drop (start + run), p < 0x10000 :=
      fun p hp => hbound p (List.mem_of_mem_drop hp)
    have htotal := congrArg List.length hpieces
    simp only [List.length_append, List.length_replicate] at htotal
    have hcolon : splitDoubleColon ([':', ':'] ++ runText (pieces.drop (start + run))) =
        some ([], runText (pieces.drop (start + run))) := rfl
    rw [if_neg hshort, parse?, List.append_assoc, splitDoubleColon_runText_append, hcolon]
    simp only [Option.map_some, List.append_nil, run?_runText false hleft,
      run?_runText true hright, Option.bind_eq_bind, Option.bind_some, guard]
    have hfits : (pieces.take start).length + (pieces.drop (start + run)).length < length := by
      omega
    have hzeros : length - (pieces.take start).length - (pieces.drop (start + run)).length = run := by
      omega
    rw [if_pos hfits, hzeros]
    exact congrArg some hpieces.symm

/-- A piece that is read has sixteen bits. -/
theorem piece?_lt {digits : List Char} {n : Nat} (h : piece? digits = some n) : n < 0x10000 := by
  rw [piece?] at h
  split at h
  · cases h
  · rename_i hfits
    have hpow : 16 ^ digits.length ≤ 16 ^ 4 := Nat.pow_le_pow_right (by decide) (by omega)
    have hlt := numberIn?_lt h
    omega

/-- A byte that is read has eight bits. -/
theorem byte?_lt {digits : List Char} {n : Nat} (h : byte? digits = some n) : n < 256 := by
  simp only [byte?, Option.bind_eq_bind, Option.bind_eq_some_iff, Option.guard_eq_some',
    Option.pure_def, Option.some.injEq] at h
  obtain ⟨_, _, m, _, _, hm, rfl⟩ := h
  exact hm

/-- The pieces of an IPv4 address at the end have sixteen bits. -/
theorem tail?_lt {text : List Char} {pieces : List Nat} (h : tail? text = some pieces) :
    ∀ p ∈ pieces, p < 0x10000 := by
  rw [tail?] at h
  split at h
  · rename_i a b c d hread
    have hbyte (n : Nat) (hn : n ∈ [a, b, c, d]) : n < 256 := by
      obtain ⟨digits, _, hdigits⟩ := mem_of_mapM hread n hn
      exact byte?_lt hdigits
    have ha := hbyte a (by simp)
    have hb := hbyte b (by simp)
    have hc := hbyte c (by simp)
    have hd := hbyte d (by simp)
    obtain rfl := Option.some.inj h
    intro p hp
    simp only [List.mem_cons, List.not_mem_nil, or_false] at hp
    omega
  · cases h

/-- Pieces that are read have sixteen bits. -/
theorem pieces?_lt {allowTail : Bool} {parts : List (List Char)} {pieces : List Nat}
    (h : pieces? allowTail parts = some pieces) : ∀ p ∈ pieces, p < 0x10000 := by
  induction parts generalizing pieces with
  | nil =>
    obtain rfl := Option.some.inj h
    simp
  | cons part parts ih =>
    cases parts with
    | nil =>
      rw [pieces?] at h
      split at h
      · exact tail?_lt h
      · obtain ⟨p, hp, rfl⟩ := Option.map_eq_some_iff.mp h
        simpa using piece?_lt hp
    | cons next parts =>
      simp only [pieces?, Option.bind_eq_bind, Option.bind_eq_some_iff, Option.pure_def,
        Option.some.injEq] at h
      obtain ⟨p, hp, rest, hrest, rfl⟩ := h
      intro q hq
      rcases List.mem_cons.mp hq with rfl | hq
      · exact piece?_lt hp
      · exact ih hrest q hq

/-- Pieces without a double colon have sixteen bits. -/
theorem run?_lt {allowTail : Bool} {text : List Char} {pieces : List Nat}
    (h : run? allowTail text = some pieces) : ∀ p ∈ pieces, p < 0x10000 := by
  rw [run?] at h
  split at h
  · obtain rfl := Option.some.inj h
    simp
  · exact pieces?_lt h

/-- What is read is an address. -/
theorem isAddress_of_parse? {text : List Char} {pieces : List Nat}
    (h : parse? text = some pieces) : IsAddress pieces := by
  rw [parse?] at h
  cases hsplit : splitDoubleColon text with
  | none =>
    simp only [hsplit, Option.bind_eq_bind, Option.bind_eq_some_iff, Option.guard_eq_some',
      Option.pure_def, Option.some.injEq] at h
    obtain ⟨pieces', hrun, _, hlength, rfl⟩ := h
    exact ⟨hlength, run?_lt hrun⟩
  | some halves =>
    obtain ⟨left, right⟩ := halves
    simp only [hsplit, Option.bind_eq_bind, Option.bind_eq_some_iff, Option.guard_eq_some',
      Option.pure_def, Option.some.injEq] at h
    obtain ⟨before, hbefore, after, hafter, _, hlength, rfl⟩ := h
    refine ⟨?_, ?_⟩
    · simp only [List.length_append, List.length_replicate]
      omega
    · intro p hp
      rcases List.mem_append.mp hp with hp | hp
      · rcases List.mem_append.mp hp with hp | hp
        · exact run?_lt hbefore p hp
        · rw [List.eq_of_mem_replicate hp]
          decide
      · exact run?_lt hafter p hp

end Ipv6

end Url

end Credentials
