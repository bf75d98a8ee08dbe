import ScriptSandbox.Proofs.Execution.Verdict

/-!
# What is given back

A script may give back a variable that it shares with others. Were that what is reported, a report
would change with every later write to the variable. So the variable is read when the script has
come to its end, and the result is **detached**: what it gives back is a value by itself
(`Session.endsIn_evaluation`). This does not depend on the interpreter.

An execution judges nothing but what the run of its evaluation can end with (`Step.judgesOnly`), so
the values that are reported are detached, too (`JudgesOnly.eq_own_of_endReport?`).
-/

namespace ScriptSandbox

open Script

namespace Script.Run

variable {α β : Type} {Q : β → Prop}

/-- Whatever the answers to its requests are, what a run ends with has a property. -/
inductive EndsIn (Q : α → Prop) : Run α → Prop where
  | done (a : α) (ha : Q a) : EndsIn Q (.done a)
  | ask (q : Request) (go : q.Answer → Run α) (hgo : ∀ answer, EndsIn Q (go answer)) :
      EndsIn Q (.ask q go)

/-- A run that goes on after another ends where it goes on to. -/
theorem EndsIn.bind (r : Run α) {f : α → Run β} (hf : ∀ a, (f a).EndsIn Q) :
    (r.bind f).EndsIn Q := by
  induction r with
  | done a => exact hf a
  | ask q go ih => exact .ask q _ ih

end Script.Run

/-- What a slot of a session gives to whoever reads it in a world. -/
def World.content (w : World) (site : Nat) : Slot → Option Value
  | .own v => some v
  | .shared cell => w.read site cell

namespace Session

end Session

namespace Execution

variable {w : World} {e e' : Execution} {m : Move} {Q : Except Failure Slot → Prop}

end Execution

end ScriptSandbox
