import Vouch.Flow
import Vouch.Store

/-!
# Answers that are errors

Most of them are answers a user can act on; only the failure of a store is not.
-/

namespace Vouch

/-- Why an operation did not do what it was asked. -/
inductive VerificationError where
  -- No such flow, or not with this token; the two cannot be told apart.
  | notFound
  -- The flow has expired.
  | expiredFlow (context : ExpiredContext)
  -- The code is wrong; so many wrong codes are still allowed.
  | invalidCode (attemptsRemaining : Option UInt32)
  -- The allowed number of wrong codes was used up.
  | attemptsExhausted
  -- The context of an expired flow was asked of one that has not expired.
  | flowNotExpired (flow : FlowId)
  | identityNotFound (identity : IdentityId)
  -- The identity does not declare the address.
  | undeclaredAddress (identity : IdentityId) (value : Contact)
  -- The text is no address.
  | invalidAddress (cause : InputError)
  -- A store failed.
  | store (cause : StoreError)
  deriving DecidableEq, Repr

namespace VerificationError

def message : VerificationError → String
  | .notFound => "verification flow not found"
  | .expiredFlow context =>
    "verification flow for " ++ context.challengeValue.text ++ " has expired"
  | .invalidCode _ => "invalid verification code"
  | .attemptsExhausted => "verification attempts exhausted; request a new verification"
  | .flowNotExpired flow => "verification flow " ++ flow.toHex ++ " has not expired"
  | .identityNotFound identity => "identity " ++ identity.name ++ " not found"
  | .undeclaredAddress identity value =>
    "address " ++ value.text ++ " is not declared on identity " ++ identity.name
  | .invalidAddress cause => "invalid address: " ++ cause.message
  | .store cause => "store error: " ++ cause.message

/-- Whether a user can act on the error. -/
def isRecoverable : VerificationError → Bool
  | .store _ => false
  | _ => true

end VerificationError

end Vouch
