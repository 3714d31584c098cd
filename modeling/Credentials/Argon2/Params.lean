/-!
# Argon2 costs

The three costs of a password hash, the condition under which the function accepts them, and the
comparison of one set of costs with another that serves as a ceiling.
-/

namespace Credentials.Argon2

/-- How much memory, how many passes over it, and how many lanes a hash takes. -/
structure Params where
  memoryKib : UInt32
  iterations : UInt32
  parallelism : UInt32
deriving DecidableEq, Repr, Inhabited

/-- Why costs are unusable. -/
inductive ParamError where
  | memoryTooLittle
  | timeTooSmall
  | threadsTooFew
  | threadsTooMany
deriving DecidableEq, Repr

/-- The wording of a problem with the costs. -/
def ParamError.message : ParamError → String
  | .memoryTooLittle => "memory cost is too small"
  | .timeTooSmall => "time cost is too small"
  | .threadsTooFew => "not enough threads"
  | .threadsTooMany => "too many threads"

/-- Memory is a whole number of blocks, at least eight, and at least eight for every lane. -/
def minMemoryPerLane : Nat := 8

/-- Most lanes that the function is defined for. -/
def maxLanes : Nat := 0xffffff

namespace Params

/--
Accepts usable costs, and names the first problem of others. The memory for all lanes is a product
without a limit. From `2 ^ 29` lanes on it does not fit into 32 bits; in a word of that size it may
come out too small, and the costs are then refused for their iterations or their lanes.
-/
def check (p : Params) : Except ParamError Unit :=
  if p.memoryKib.toNat < minMemoryPerLane ∨
      p.memoryKib.toNat < p.parallelism.toNat * minMemoryPerLane then .error .memoryTooLittle
  else if p.iterations.toNat < 1 then .error .timeTooSmall
  else if p.parallelism.toNat < 1 then .error .threadsTooFew
  else if maxLanes < p.parallelism.toNat then .error .threadsTooMany
  else .ok ()

/-- Whether the function accepts the costs. -/
def Usable (p : Params) : Prop := p.check = .ok ()

instance (p : Params) : Decidable p.Usable := by
  unfold Usable
  cases h : p.check with
  | ok _ => exact isTrue rfl
  | error _ => exact isFalse (by simp)

/-- Whether some cost is higher than the matching one of `ceiling`. -/
def exceeds (p ceiling : Params) : Bool :=
  ceiling.memoryKib < p.memoryKib || ceiling.iterations < p.iterations ||
    ceiling.parallelism < p.parallelism

/-- Takes the higher of each of the costs. -/
def maxEach (p q : Params) : Params :=
  ⟨max p.memoryKib q.memoryKib, max p.iterations q.iterations, max p.parallelism q.parallelism⟩

end Params

end Credentials.Argon2
