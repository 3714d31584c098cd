/-!
# Cutting bytes into blocks

A message is taken in by hash functions, and read by decoders, a fixed number of items at a time.
-/

namespace Credentials.Bytes

/-- Cuts a list into blocks of `n + 1` items; the last block may be shorter. -/
def blocks {α : Type} (n : Nat) (items : List α) : List (List α) :=
  match items with
  | [] => []
  | a :: rest => (a :: rest.take n) :: blocks n (rest.drop n)
termination_by items.length
decreasing_by
  simp only [List.length_drop, List.length_cons]
  omega

end Credentials.Bytes
