/-
  `AnalyticsError` of `src/error.rs`: the variants that the modelled functions return.
-/
import Ga4Mcp.SqlSafety.Surface

namespace Ga4Mcp

open Ga4Mcp.SqlSafety

/-- `AnalyticsError`. -/
inductive AnalyticsError where
  | invalidArgument (field message : Text)
  | invalidCursor (message : Text)
  | cursorQueryMismatch
  | authBootstrap (message : Text)
  | missingRequestAccessToken (header : Text)
  | malformedRequestAccessToken (header message : Text)
  | upstreamApi (status : Nat) (message : Text)
  | scratchpadEngine (message : Text)
  | scratchpadLimitExceeded (field message : Text)
  | scratchpadSqlRejected (policyCode : ScratchpadSqlPolicyCode) (message : Text)
  | scratchpadQueryTimeout (timeoutMs : Nat)
  | scratchpadQueryCancelled
  | scratchpadSessionNotFound (sessionId : Text)
  | internal (message : Text)
deriving DecidableEq, Repr

end Ga4Mcp
