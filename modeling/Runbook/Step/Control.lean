import Runbook.Expression.Arithmetic
import Runbook.Expression.Condition
import Runbook.Step.Basic

/-!
# Variables, branches and waiting

The nodes that set a variable, choose between two successors, or wait.
-/

namespace Runbook

namespace Step

/-- Set a variable to a function of the property `value`. -/
def assignWith (function : String → String) : Step Directive := do
  let name ← requiredTrimmed "name"
  let value := function (← propertyOrEmpty "value")
  setVariable name value
  recordOutput value
  return .proceed

def assign : Step Directive := assignWith id

/-- Set a variable to the result of an arithmetic text. -/
def compute : Step Directive := assignWith Arithmetic.assigned

def branch : Step Directive := do
  let outcome := Condition.evaluate (← propertyOrEmpty "condition")
  recordOutput (if outcome then "true" else "false")
  return .jump ((← read).node.jumps.branch outcome)

def secondLimit : Nat := Nat.pow 2 64

/-- A number of seconds in nanoseconds, rounded to the nearest, a tie to the
even one. -/
def nanosecondsOf? : Binary64 → Option Nat
  | .finite _ mantissa exponent _ =>
    let numerator := mantissa * Nat.pow 2 exponent.toNat
    let denominator := Nat.pow 2 (-exponent).toNat
    if secondLimit * denominator ≤ numerator then none
    else some (Binary64.roundDiv (numerator * 1000000000) denominator)
  | _ => none

def isDuration (milliseconds : Binary64) : Bool :=
  milliseconds.isFinite &&
    milliseconds.compare? (Binary64.zero false) != some .lt

def waitFor (milliseconds : Binary64) : Step Directive := do
  if !isDuration milliseconds then
    let text := milliseconds.render Binary64.plainNotation
    fail <| "duration must be a non-negative number of milliseconds, got " ++
      text
  match nanosecondsOf? (milliseconds.div (Binary64.ofNat 1000)) with
  | none =>
    fail <| "cannot convert float seconds to Duration: " ++
      "value is either too big or NaN"
  | some nanoseconds =>
    sleep nanoseconds
    return .proceed

/-- Wait as long as the node says, or not at all. -/
def pause : Step Directive := do
  waitFor ((← decimal? "duration").getD (Binary64.zero false))

end Step

namespace Handler

def assign : Handler := ⟨Step.assign, refuse⟩

def compute : Handler := ⟨Step.compute, refuse⟩

def branch : Handler := ⟨Step.branch, refuse⟩

def sleep : Handler := ⟨Step.pause, refuse⟩

end Handler

end Runbook
