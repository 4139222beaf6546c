import Vouch.Engine.Answer
import Vouch.Engine.Request
import Vouch.Json.Record

/-!
# Answers as JSON

The views and outcomes that operations answer with.  They are written only.  An outcome or a phase
is an object that has its name first, and then what belongs to it.
-/

namespace Vouch

open Json

namespace FlowPhase

def toJson (phase : FlowPhase) : Json :=
  match phase with
  | .expired reason => .object [("phase", .text phase.name), ("reason", reason.toJson)]
  | _ => .object [("phase", .text phase.name)]

end FlowPhase

namespace FlowState

def toJson (state : FlowState) : Json :=
  .object [
    ("flow_id", state.flow.toJson),
    ("identity_id", state.identity.toJson),
    ("address_id", state.address.toJson),
    ("via", state.channel.toJson),
    ("address_value", state.value.toJson),
    ("phase", state.phase.toJson),
    ("issued_at", state.issuedAt.toJson),
    ("expires_at", state.expiresAt.toJson),
    ("flow_expires_at", state.flowExpiresAt.toJson),
    ("attempts_remaining", ofOption ofWord32 state.attemptsRemaining)]

end FlowState

namespace ExpiredContext

def toJson (context : ExpiredContext) : Json :=
  .object [
    ("flow_id", context.flow.toJson),
    ("identity_id", context.identity.toJson),
    ("challenge_value", context.challengeValue.toJson),
    ("address", context.address.toJson),
    ("reason", context.reason.toJson)]

end ExpiredContext

namespace RequestOutcome

def toJson : RequestOutcome → Json
  | .issued flow => .object [("outcome", .text "issued"), ("flow_id", flow.toJson)]
  | .resent flow => .object [("outcome", .text "resent"), ("flow_id", flow.toJson)]
  | .alreadyVerified => .object [("outcome", .text "already-verified")]

end RequestOutcome

namespace SubmitOutcome

def toJson : SubmitOutcome → Json
  | .verified a => .object [("outcome", .text "verified"), ("address", a.toJson)]
  | .alreadyVerified a => .object [("outcome", .text "already-verified"), ("address", a.toJson)]

end SubmitOutcome

end Vouch
