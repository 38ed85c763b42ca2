import Mathlib

/-!
# Errors of the cluster client

`ProxmoxError` is what every operation against a cluster can fail with, and `toText` is the text
a caller reads. Two of the constructors carry decisions later modules depend on: `api`,
`unauthorized`, `denied` and `notFound` are **definite** answers, whereas `http` and
`malformed` leave open whether the cluster acted.
-/

namespace ProxmoxMcp

/-- A failure of the outbound HTTP layer, known here by its text only. -/
structure HttpError where
  /-- The error as it displays. -/
  text : String
  deriving DecidableEq, Repr

/-- A failure talking to a Proxmox VE cluster. -/
inductive ProxmoxError where
  /-- The outbound HTTP layer refused or failed the request. -/
  | http (error : HttpError)
  /-- The cluster answered with an error status. -/
  | api (status : UInt16) (message : String)
  /-- The cluster rejected the configured credentials (401 or 403). -/
  | unauthorized
  /-- The caller's token does not permit this. -/
  | denied (message : String)
  /-- The cluster has no such object. -/
  | notFound (what : String)
  /-- A response did not have the shape the API documents. -/
  | malformed (message : String)
  /-- A local configuration problem, before any request is made. -/
  | config (message : String)
  /-- The request named a cluster absent from the inventory. -/
  | unknownCluster (name : String)
  deriving DecidableEq, Repr

namespace ProxmoxError

/-- The error as the caller reads it. -/
def toText : ProxmoxError → String
  | http error => s!"http: {error.text}"
  | api status message => s!"proxmox api error (status {status}): {message}"
  | unauthorized => "proxmox api rejected the configured credentials"
  | denied message => s!"denied: {message}"
  | notFound what => s!"not found: {what}"
  | malformed message => s!"malformed proxmox response: {message}"
  | config message => s!"configuration error: {message}"
  | unknownCluster name => s!"unknown cluster: {name}"

/-- The one text for an absent guest and for a guest outside the caller's scope. -/
def guestOutOfScope (cluster : String) : ProxmoxError :=
  denied s!"guest does not exist or is outside this caller's scope in cluster {cluster}"

end ProxmoxError

/-- Translating an error does not make a success. -/
theorem eq_ok_of_mapError {ε ε' α : Type} {f : ε → ε'} {outcome : Except ε α} {value : α}
    (h : outcome.mapError f = .ok value) : outcome = .ok value := by
  cases outcome with
  | ok value' => exact congrArg _ (Except.ok.inj h)
  | error error => cases h

end ProxmoxMcp
