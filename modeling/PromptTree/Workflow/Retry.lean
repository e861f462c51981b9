import PromptTree.Decimal.Binary64

/-!
How often a step may try to get an acceptable answer.
-/

namespace PromptTree.Workflow

/-- The number of attempts, at least one, and the pause between two of them. -/
structure Retry where
  attempts : Nat
  milliseconds : Int
  attempts_pos : 0 < attempts

structure NoAttempts where
  attempts : Int
deriving DecidableEq, Repr

def NoAttempts.message (e : NoAttempts) : String :=
  s!"max_attempts must be at least 1, got {e.attempts}"

namespace Retry

def default : Retry := ⟨6, 0, by decide⟩

def of? (attempts milliseconds : Int) : Except NoAttempts Retry :=
  if h : 0 < attempts.toNat then .ok ⟨attempts.toNat, milliseconds, h⟩ else .error ⟨attempts⟩

/-- The length of a pause in seconds, unless there is none. -/
def pauseSeconds (milliseconds : Int) : Option Binary64 :=
  if 0 < milliseconds then some ((Binary64.ofInt milliseconds).divNat 1000) else none

end Retry

end PromptTree.Workflow
