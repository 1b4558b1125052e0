/-
Token pricing (`pricing.py`).

Prices and costs are exact rationals, where the source computes in floats;
`roundTo` is Python's `round` on them, ties to the even neighbour.
-/
import Mathlib.Algebra.Order.Floor.Defs
import Mathlib.Data.Rat.Floor

namespace AgentAnvil.Sdk

/-- The nearest integer, and the even one of two. -/
def roundHalfEven (x : Rat) : Int :=
  let below := x.floor
  let rest := x - below
  if rest < 1 / 2 then below
  else if 1 / 2 < rest then below + 1
  else if below % 2 = 0 then below
  else below + 1

/-- `round(x, digits)`. -/
def roundTo (digits : Nat) (x : Rat) : Rat :=
  roundHalfEven (x * 10 ^ digits) / 10 ^ digits

/-- USD per million input and output tokens. -/
def PRICES : List (String × Rat × Rat) := [
  ("claude-opus-4-7", 15, 75),
  ("claude-opus-4-6", 15, 75),
  ("claude-sonnet-4-6", 3, 15),
  ("claude-sonnet-4-5", 3, 15),
  ("claude-haiku-4-5", 4 / 5, 4),
  ("scripted", 0, 0),
  ("echo", 0, 0)]

def computeCost (model : String) (inputTokens outputTokens : Int) : Rat :=
  match PRICES.lookup model with
  | none => 0
  | some (inPrice, outPrice) =>
      (inputTokens * inPrice + outputTokens * outPrice) / 1000000

end AgentAnvil.Sdk
