import Credentials.Proofs.Url.Percent
import Credentials.Url.Path
import Mathlib.Tactic.SplitIfs

/-!
# Paths are read back

A path that has been read consists of segments without slashes, without characters that have to be
escaped, and none of which is made of dots. Such a path is read as it is written.
-/

namespace Credentials.Url.Path

/-! ## Splitting at slashes -/

/-- What stands between slashes holds none. -/
theorem isSlash_of_mem_split {text segment : List Char} (h : segment ∈ split text) :
    ∀ c ∈ segment, isSlash c = false := by
  induction text generalizing segment with
  | nil =>
    obtain rfl : segment = [] := by simpa [split] using h
    simp
  | cons d text ih =>
    rw [split] at h
    split at h
    · rcases List.mem_cons.mp h with rfl | h
      · simp
      · exact ih h
    · rename_i hslash
      have hd : isSlash d = false := by simpa using hslash
      split at h
      · obtain rfl : segment = [d] := by simpa using h
        simpa using hd
      · rename_i first rest hsplit
        rcases List.mem_cons.mp h with rfl | h
        · intro c hc
          rcases List.mem_cons.mp hc with rfl | hc
          · exact hd
          · exact ih (hsplit ▸ List.mem_cons_self) c hc
        · exact ih (hsplit ▸ List.mem_cons_of_mem _ h)

/-- There is always something between slashes. -/
theorem split_ne_nil (text : List Char) : split text ≠ [] := by
  cases text with
  | nil => simp [split]
  | cons d text =>
    rw [split]
    split
    · simp
    · split <;> simp

/-- The characters before the first slash are the first segment. -/
theorem split_append {segment text : List Char} (h : ∀ c ∈ segment, isSlash c = false)
    {first : List Char} {rest : List (List Char)} (htext : split text = first :: rest) :
    split (segment ++ text) = (segment ++ first) :: rest := by
  induction segment with
  | nil => exact htext
  | cons c segment ih =>
    have hc : isSlash c = false := h c (by simp)
    have hrest := ih fun d hd => h d (by simp [hd])
    rw [List.cons_append, split, hc, if_neg (by decide), hrest]
    rfl

/-- Segments without slashes are the ones between the slashes of their path. -/
theorem split_append_text {segment : List Char} {segments : List (List Char)}
    (h : ∀ s ∈ segment :: segments, ∀ c ∈ s, isSlash c = false) :
    split (segment ++ text segments) = segment :: segments := by
  have hsegment := h segment List.mem_cons_self
  induction segments generalizing segment with
  | nil =>
    have hempty : split (text []) = [] :: [] := rfl
    rw [split_append hsegment hempty, List.append_nil]
  | cons next segments ih =>
    have hnext : ∀ s ∈ next :: segments, ∀ c ∈ s, isSlash c = false :=
      fun s hs => h s (List.mem_cons_of_mem _ hs)
    have hslash : split (text (next :: segments)) = [] :: next :: segments := by
      rw [text, List.flatMap_cons, List.cons_append, split, if_pos (by decide)]
      exact congrArg _ (ih hnext (hnext next List.mem_cons_self))
    rw [split_append hsegment hslash, List.append_nil]

/-! ## Entering segments -/

/-- Characters of a segment once it has been escaped. -/
def IsClean (segment : List Char) : Prop :=
  ∀ c ∈ segment, Part.path.escapes c = false ∧ isSlash c = false

/-- A segment that is entered as it is written. -/
structure IsSegment (segment : List Char) : Prop where
  clean : IsClean segment
  noDot : isSingleDot segment = false
  noDots : isDoubleDot segment = false

/-- Nothing is a segment. -/
theorem isSegment_nil : IsSegment [] := ⟨by simp [IsClean], rfl, rfl⟩

/-- An escaped segment is clean. -/
theorem isClean_encode {segment : List Char} (h : ∀ c ∈ segment, isSlash c = false) :
    IsClean (Part.path.encode segment) := by
  intro c hc
  refine ⟨Part.lawful_path.escapes_of_mem_encode hc, ?_⟩
  rcases Part.mem_encode hc with ⟨hmem, _⟩ | rfl | ⟨n, hn, rfl⟩
  · exact h c hmem
  · decide
  · have hdigit : ∀ n < 16, isSlash (upperDigit n) = false := by decide
    exact hdigit n hn

/-- The directory above has no segments of its own. -/
theorem mem_of_mem_parent {before : List (List Char)} {segment : List Char}
    (h : segment ∈ parent before) : segment ∈ before := by
  cases before with
  | nil => exact h
  | cons first before =>
    rw [parent] at h
    split at h
    · exact h
    · exact List.mem_cons_of_mem _ h

/-- Where a segment leads that others follow. -/
def enterOne (before : List (List Char)) (segment : List Char) : List (List Char) :=
  if isDoubleDot segment then parent before
  else if isSingleDot segment then before
  else segment :: before

/-- Where the last segment leads. -/
def enterLast (before : List (List Char)) (segment : List Char) : List (List Char) :=
  if isDoubleDot segment then [] :: parent before
  else if isSingleDot segment then [] :: before
  else segment :: before

/-- The last segment is entered in its own way. -/
theorem enter_singleton (before : List (List Char)) (segment : List Char) :
    enter before [segment] = enterLast before segment := rfl

/-- A segment that others follow is entered before them. -/
theorem enter_cons_cons (before : List (List Char)) (segment next : List Char)
    (rest : List (List Char)) : enter before (segment :: next :: rest) =
      enter (enterOne before segment) (next :: rest) := by
  rw [enter, enterOne]
  · split_ifs <;> rfl
  · simp

/-- Entering one clean segment leads to segments that are entered as they are written. -/
theorem isSegment_of_mem_enterOne {before : List (List Char)} {segment : List Char}
    (hbefore : ∀ s ∈ before, IsSegment s) (hclean : IsClean segment) :
    ∀ s ∈ enterOne before segment, IsSegment s := by
  rw [enterOne]
  split_ifs with hdots hdot
  · exact fun s hs => hbefore s (mem_of_mem_parent hs)
  · exact hbefore
  · exact List.forall_mem_cons.mpr ⟨⟨hclean, by simpa using hdot, by simpa using hdots⟩, hbefore⟩

/-- So does entering the last one. -/
theorem isSegment_of_mem_enterLast {before : List (List Char)} {segment : List Char}
    (hbefore : ∀ s ∈ before, IsSegment s) (hclean : IsClean segment) :
    ∀ s ∈ enterLast before segment, IsSegment s := by
  rw [enterLast]
  split_ifs with hdots hdot
  · exact List.forall_mem_cons.mpr ⟨isSegment_nil, fun s hs => hbefore s (mem_of_mem_parent hs)⟩
  · exact List.forall_mem_cons.mpr ⟨isSegment_nil, hbefore⟩
  · exact List.forall_mem_cons.mpr ⟨⟨hclean, by simpa using hdot, by simpa using hdots⟩, hbefore⟩

/-- Entering clean segments leads through segments that are entered as they are written. -/
theorem isSegment_of_mem_enter {before segments : List (List Char)}
    (hbefore : ∀ s ∈ before, IsSegment s) (hsegments : ∀ s ∈ segments, IsClean s) :
    ∀ s ∈ enter before segments, IsSegment s := by
  induction segments generalizing before with
  | nil => exact hbefore
  | cons segment segments ih =>
    have hclean : IsClean segment := hsegments segment List.mem_cons_self
    cases segments with
    | nil =>
      rw [enter_singleton]
      exact isSegment_of_mem_enterLast hbefore hclean
    | cons next segments =>
      rw [enter_cons_cons]
      apply ih
      · exact isSegment_of_mem_enterOne hbefore hclean
      · exact fun s hs => hsegments s (List.mem_cons_of_mem _ hs)

/-- The last segment is always entered, if only as nothing. -/
theorem enter_ne_nil {before segments : List (List Char)} (h : segments ≠ []) :
    enter before segments ≠ [] := by
  induction segments generalizing before with
  | nil => exact absurd rfl h
  | cons segment segments ih =>
    cases segments with
    | nil =>
      rw [enter_singleton, enterLast]
      split_ifs <;> simp
    | cons next segments =>
      rw [enter_cons_cons]
      exact ih (by simp)

/-- Segments that are entered as they are written come one after another. -/
theorem enter_eq_append {before segments : List (List Char)} (h : ∀ s ∈ segments, IsSegment s) :
    enter before segments = segments.reverse ++ before := by
  induction segments generalizing before with
  | nil => rfl
  | cons segment segments ih =>
    have hsegment := h segment List.mem_cons_self
    have hrest := fun s hs => h s (List.mem_cons_of_mem segment hs)
    cases segments with
    | nil =>
      rw [enter_singleton, enterLast, hsegment.noDots, hsegment.noDot]
      rfl
    | cons next segments =>
      have hone : enterOne before segment = segment :: before := by
        rw [enterOne, hsegment.noDots, hsegment.noDot]
        rfl
      rw [enter_cons_cons, hone, ih hrest]
      simp

/-! ## Paths -/

/-- A path of segments that are entered as they are written, of which there is at least one. -/
structure IsNormal (segments : List (List Char)) : Prop where
  nonempty : segments ≠ []
  segment : ∀ s ∈ segments, IsSegment s

/-- A path that has been read consists of segments that are entered as they are written. -/
theorem isNormal_parse (text : List Char) : IsNormal (parse text) := by
  have hparse (text : List Char) :
      IsNormal (enter [] ((split text).map Part.path.encode)).reverse := by
    constructor
    · rw [Ne, List.reverse_eq_nil_iff]
      apply enter_ne_nil
      simpa using split_ne_nil text
    · intro s hs
      refine isSegment_of_mem_enter (by simp) ?_ s (List.mem_reverse.mp hs)
      intro segment hsegment
      obtain ⟨raw, hraw, rfl⟩ := List.mem_map.mp hsegment
      exact isClean_encode (isSlash_of_mem_split hraw)
  exact hparse _

/-- A path is read from what it is written as. -/
theorem IsNormal.parse_text {segments : List (List Char)} (h : IsNormal segments) :
    parse (text segments) = segments := by
  cases segments with
  | nil => exact absurd rfl h.nonempty
  | cons segment segments =>
    have hsplit : split (segment ++ text segments) = segment :: segments :=
      split_append_text fun s hs c hc => ((h.segment s hs).clean c hc).2
    have hencode : (segment :: segments).map Part.path.encode = segment :: segments := by
      refine (List.map_congr_left fun s hs => ?_).trans (List.map_id _)
      exact Part.encode_of_forall fun c hc => ((h.segment s hs).clean c hc).1
    have htext : text (segment :: segments) = '/' :: (segment ++ text segments) := rfl
    rw [htext, parse]
    simp only [isSlash, beq_self_eq_true, Bool.true_or, if_true]
    rw [hsplit, hencode, enter_eq_append h.segment, List.append_nil, List.reverse_reverse]

/-- A path is written in slashes and characters that need not be escaped. -/
theorem IsNormal.escapes_of_mem_text {segments : List (List Char)} (h : IsNormal segments)
    {c : Char} (hc : c ∈ text segments) : Part.path.escapes c = false := by
  obtain ⟨segment, hsegment, hmem⟩ := List.mem_flatMap.mp hc
  rcases List.mem_cons.mp hmem with rfl | hmem
  · decide
  · exact ((h.segment segment hsegment).clean c hmem).1

end Credentials.Url.Path
