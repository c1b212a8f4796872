import WebhookSync.Proofs.Gateway.Effects
import WebhookSync.Proofs.Transcript

/-!
# Errands

An errand makes calls that are settled beforehand, one after the other, whatever comes back, and
ends with the first failure.  So who answers decides only how far it gets.
-/

namespace WebhookSync.Gateway

open Dialogue (Asks)

/-- The session makes these calls up to the first that fails.  If none fails, its result is as
said. -/
inductive Errand {α : Type} (Ends : α → Prop) :
    List Call → Session (Except Failure α) → Prop where
  | done {result : α} (ends : Ends result) : Errand Ends [] (.done (.ok result))
  | ask {call : Call} {calls : List Call} {next : Answer call → Session (Except Failure α)}
      (givesUp : ∀ failure, next (.error failure) = .done (.error failure))
      (onward : ∀ reply, Errand Ends calls (next (.ok reply))) :
      Errand Ends (call :: calls) (.ask call next)

namespace Errand

variable {α : Type} {Ends : α → Prop} {calls : List Call} {session : Session (Except Failure α)}

theorem require {call : Call} {next : call.Reply → Session (Except Failure α)}
    (onward : ∀ reply, Errand Ends calls (next reply)) :
    Errand Ends (call :: calls) (.require call next) :=
  .ask (fun _ => rfl) onward

/-- An errand makes no other calls. -/
theorem asks (errand : Errand Ends calls session) : Asks (· ∈ calls) session := by
  induction errand with
  | done ends => exact .done _
  | @ask call calls next givesUp onward ih =>
      refine .ask List.mem_cons_self fun answer => ?_
      cases answer with
      | error failure =>
          rw [givesUp]
          exact .done _
      | ok reply => exact (ih reply).mono fun _ member => List.mem_cons_of_mem call member

end Errand

end WebhookSync.Gateway
