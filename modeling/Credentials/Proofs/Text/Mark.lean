import Mathlib.Data.List.TakeWhile

/-!
# Marks in texts

What a text is taken apart into at the first mark that stands in it.
-/

namespace Credentials.Text

variable {x : Char} {before text : List Char}

/-- No character of a text is one that does not occur in it. -/
theorem forall_bne_of_notMem (h : x ∉ text) : ∀ c ∈ text, (c != x) = true := by
  intro c hc
  have hne : c ≠ x := by
    rintro rfl
    exact h hc
  simpa using hne

/-- Before the first mark stands all that has no mark in it. -/
theorem takeWhile_bne_append (h : x ∉ before) (after : List Char) :
    (before ++ x :: after).takeWhile (· != x) = before := by
  rw [List.takeWhile_append_of_pos (forall_bne_of_notMem h)]
  simp

/-- From the first mark on stands all that follows what has no mark in it. -/
theorem dropWhile_bne_append (h : x ∉ before) (after : List Char) :
    (before ++ x :: after).dropWhile (· != x) = x :: after := by
  rw [List.dropWhile_append_of_pos (forall_bne_of_notMem h)]
  simp

/-- A text without the mark stands before it. -/
theorem takeWhile_bne_of_notMem (h : x ∉ text) : text.takeWhile (· != x) = text :=
  List.takeWhile_eq_self_iff.mpr (forall_bne_of_notMem h)

/-- In a text without the mark, nothing follows it. -/
theorem dropWhile_bne_of_notMem (h : x ∉ text) : text.dropWhile (· != x) = [] :=
  List.dropWhile_eq_nil_iff.mpr (forall_bne_of_notMem h)

end Credentials.Text
