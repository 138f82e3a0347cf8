import Runbook.Run.Error

/-!
# Call stacks

The workflows that are being run, the outermost one first.  A workflow is
entered only if it is not being run already and the stack has room.
-/

namespace Runbook

/-- The keys of the workflows that are being run, the outermost one first. -/
structure CallStack where
  entries : List String
deriving DecidableEq, Inhabited

namespace CallStack

/-- The key of a workflow: its reference and its name. -/
def key (reference name : String) : String :=
  reference ++ ":" ++ name

def empty : CallStack := ⟨[]⟩

def depth (stack : CallStack) : Nat :=
  stack.entries.length

def contains (stack : CallStack) (key : String) : Bool :=
  stack.entries.contains key

/-- Enter a workflow, if at most `maxDepth` are being run then. -/
def push (stack : CallStack) (key : String) (maxDepth : Nat) :
    Except RunError CallStack :=
  if stack.contains key then .error (.cycle key (stack.entries ++ [key]))
  else if maxDepth ≤ stack.depth then .error (.depthExceeded key maxDepth)
  else .ok ⟨stack.entries ++ [key]⟩

def top? (stack : CallStack) : Option String :=
  stack.entries.getLast?

def pop (stack : CallStack) : CallStack :=
  ⟨stack.entries.dropLast⟩

end CallStack

end Runbook
