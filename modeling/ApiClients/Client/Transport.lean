import ApiClients.Api.Operation
import ApiClients.Settings.Effective

/-!
# Transports

A transport takes a request to a service and brings a reply back. Without one, every request fails. A
scripted transport reads its replies from a list, one for each request, and keeps what was sent.
-/

namespace ApiClients

/-- A request to a service. -/
structure Request where
  service : String
  operation : Operation
  params : Json
  settings : EffectiveSettings

/-- Why a request brings no answer. -/
inductive TransportError where
  | service (code text : String)
  | network (text : String)
  | notConfigured (operation : String)
deriving DecidableEq, Repr

/-- The wording of an error. -/
def TransportError.message : TransportError → String
  | service code text => s!"service error {code}: {text}"
  | network text => s!"transport failure: {text}"
  | notConfigured operation => s!"no transport configured for operation {operation}"

/-- What comes back for a request. -/
abbrev Reply : Type := Except TransportError Json

/-- The state of a scripted transport. -/
structure Script where
  replies : List Reply := []
  sent : List Request := []

/-- Sends a request, which takes the next reply; when there is none left, the answer is `null`. -/
def Script.send (s : Script) (r : Request) : Reply × Script :=
  (s.replies.headD (.ok .null), { replies := s.replies.tail, sent := s.sent ++ [r] })

/-- The kinds of transports. -/
inductive Transport where
  | unconfigured
  | scripted
deriving DecidableEq, Repr

/-- Sends a request. Only the scripted transport takes notice of the script. -/
def Transport.send (t : Transport) (s : Script) (r : Request) : Reply × Script :=
  match t with
  | .unconfigured => (.error (.notConfigured r.operation.name), s)
  | .scripted => s.send r

end ApiClients
