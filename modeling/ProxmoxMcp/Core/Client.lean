import Mathlib
import ProxmoxMcp.Effect
import ProxmoxMcp.Text

/-!
# The cluster client

`ProxmoxClient.send` is the one path every request takes: the path template is expanded, the URL
is checked, the request is dispatched, and the answer becomes its `data` member or an error.

An answer with a status of 400 or more is an error whatever its body says, so the cluster has
**accepted** a request exactly when an answer below 400 came back. `send` can fail after that only
with `malformed`.
-/

namespace ProxmoxMcp

open Interaction Text ProxmoxError

/-- A client bound to one cluster of the inventory. -/
structure ProxmoxClient where
  /-- The inventory name the client was built for. -/
  name : String
  /-- The configuration the client was built from. -/
  cluster : Cluster
  deriving DecidableEq

/-- Largest response body accepted, in bytes. -/
def maxResponseBytes : ℕ := 8 * 1024 * 1024

/-! ### Encoding -/

/-- The two uppercase hexadecimal digits of a byte. -/
def hexByte (byte : UInt8) : List Char :=
  let digit (n : ℕ) : Char := if n < 10 then Char.ofNat (48 + n) else Char.ofNat (55 + n)
  [digit (byte.toNat / 16), digit (byte.toNat % 16)]

/-- Whether a byte stands for itself in an encoded text. -/
def isUnreserved (byte : UInt8) : Bool :=
  let c := Char.ofNat byte.toNat
  byte < 128 && (c.isAlphanum || c == '-' || c == '.' || c == '_' || c == '~')

/-- Percent-encode a text for a query, a form or a path segment. -/
def percentEncode (text : String) : String :=
  String.ofList <| (text.toList.flatMap String.utf8EncodeChar).flatMap fun byte =>
    if isUnreserved byte then [Char.ofNat byte.toNat] else '%' :: hexByte byte

/-- Key-value pairs as a query string or a form body. -/
def encodePairs (pairs : List (String × String)) : String :=
  "&".intercalate (pairs.map fun pair => percentEncode pair.1 ++ "=" ++ percentEncode pair.2)

/-! ### Error answers -/

/-- The longest prefix of at most `limit` bytes that ends between two characters. -/
def takeBytes : ℕ → List Char → List Char
  | _, [] => []
  | limit, c :: rest => if c.utf8Size ≤ limit then c :: takeBytes (limit - c.utf8Size) rest else []

/-- Longest error detail retained from a peer's body. -/
def maxDetailBytes : ℕ := 512

/-- Drop control characters and truncate between two characters. -/
def sanitise (text : String) : String :=
  String.ofList (takeBytes maxDetailBytes (text.toList.filter fun c => !isControl c || c == ' '))

variable [Externals]

/-- Render a peer's body into bounded, inert detail. -/
def extractDetail (response : HttpResponse) : String :=
  let detail := match response.json with
    | .error _ => response.text
    | .ok value => match (value.get "errors").map Externals.redactJson with
      | some (.object members) =>
        "; ".intercalate <| (members.map fun member => match member.2 with
          | .string reason => s!"{member.1}: {reason}"
          | reason => s!"{member.1}: {Externals.encodeJson reason}").insertionSort (· ≤ ·)
      | _ => response.text
  sanitise (Externals.redactText detail)

/-- Classify an answer with an error status. -/
def ProxmoxError.fromResponse (response : HttpResponse) : ProxmoxError :=
  if response.status = 401 ∨ response.status = 403 then unauthorized
  else api response.status (extractDetail response)

/-! ### Sending -/

namespace ProxmoxClient

/-- The URL of a request to a cluster. -/
def url (client : ProxmoxClient) (request : ApiRequest) : Except ProxmoxError String := do
  let expanded ← (Externals.expandPath request.pathTemplate request.params).mapError malformed
  let base := String.ofList (client.cluster.endpoint.toList.rdropWhile (· == '/'))
  let query := if request.query = [] then "" else "?" ++ encodePairs request.query
  return base ++ expanded ++ query

/-- What the client makes of an answer: its `data` member, or an error. -/
def readAnswer (response : HttpResponse) : Except ProxmoxError Json :=
  if 400 ≤ response.status then .error (fromResponse response)
  else match response.json with
    | .error error => .error (malformed error)
    | .ok value => match value.get "data" with
      | some data => .ok data
      | none => .error (malformed "response has no 'data' member")

/-- Send a request and return the `data` member of the answer. -/
def send (client : ProxmoxClient) (request : ApiRequest) : ClientM Json := do
  let url ← liftM (client.url request)
  liftM ((Externals.absoluteUrl request.method url).mapError http)
  let ticket ← dispatch client.name request
  let response ← liftM ((← await ticket).mapError http)
  liftM (readAnswer response)

/-- What the client makes of a reply of the HTTP layer. -/
def readReply (reply : Except HttpError HttpResponse) : Except ProxmoxError Json :=
  (reply.mapError http).bind readAnswer

/-- **Sending**: a request either never leaves, for a local reason, or it is dispatched once and
its outcome is what the reply reads as. -/
theorem always_send {client : ProxmoxClient} {request : ApiRequest}
    {G : History Effect → Op → Prop} {Q : History Effect → Except ProxmoxError Json → Prop}
    {h : History Effect}
    (unsent : ∀ error, (∃ text, error = malformed text) ∨ (∃ text, error = http text) →
      Q h (.error error))
    (sent : G h (.http (.dispatch client.name request)))
    (awaited : ∀ ticket, G (⟨.http (.dispatch client.name request), ticket⟩ :: h)
      (.http (.await ticket)))
    (answered : ∀ (ticket : ℕ) reply, Q (⟨.http (.await ticket), reply⟩ ::
      ⟨.http (.dispatch client.name request), ticket⟩ :: h) (readReply reply)) :
    Program.Always G Q h (client.send request).run := by
  simp only [send, Program.always_run_bind, Program.always_run_liftExcept]
  cases hurl : client.url request with
  | error error =>
    refine unsent error (.inl ?_)
    simp only [url] at hurl
    cases hexpand : Externals.expandPath request.pathTemplate request.params with
    | error text => exact ⟨text, by simpa [hexpand, Except.mapError] using hurl.symm⟩
    | ok path => simp [hexpand, Except.mapError] at hurl
  | ok url =>
    cases habsolute : Externals.absoluteUrl request.method url with
    | error text =>
      simp only [habsolute, Except.mapError]
      exact unsent _ (.inr ⟨text, rfl⟩)
    | ok _ =>
      simp only [habsolute, Except.mapError]
      refine ⟨sent, fun ticket => ⟨awaited ticket, fun reply => ?_⟩⟩
      have h := answered ticket reply
      cases reply <;> exact h

/-- The URL of a request can be built, and the HTTP layer accepts it. -/
def Sendable (client : ProxmoxClient) (request : ApiRequest) : Prop :=
  ∃ url, client.url request = .ok url ∧ Externals.absoluteUrl request.method url = .ok ()

/-- A request that can be sent is dispatched and awaited, and the reply is read. -/
theorem run_send_of_sendable {client : ProxmoxClient} {request : ApiRequest}
    (hsendable : client.Sendable request) : (client.send request).run =
      .perform (.http (.dispatch client.name request)) fun (ticket : ℕ) =>
        .perform (.http (.await ticket)) fun (reply : Except HttpError HttpResponse) =>
          .done (readReply reply) := by
  obtain ⟨url, hurl, habsolute⟩ := hsendable
  have hchecked : (Externals.absoluteUrl request.method url).mapError http = .ok () := by
    rw [habsolute]
    rfl
  rw [send, hurl]
  change (liftM ((Externals.absoluteUrl request.method url).mapError http) >>=
    fun _ => _ : ClientM Json).run = _
  rw [hchecked]
  refine congrArg (Program.perform _) (funext fun ticket => ?_)
  refine congrArg (Program.perform _) (funext fun reply => ?_)
  cases reply with
  | error error => rfl
  | ok response =>
    change (liftM (readAnswer response) : ClientM Json).run = .done (readAnswer response)
    cases readAnswer response <;> rfl

/-- A request that cannot be sent fails at once. -/
theorem run_send_of_not_sendable {client : ProxmoxClient} {request : ApiRequest}
    (hrefused : ¬ client.Sendable request) :
    ∃ error, (client.send request).run = .done (.error error) := by
  cases hurl : client.url request with
  | error error =>
    refine ⟨error, ?_⟩
    rw [send, hurl]
    rfl
  | ok url =>
    cases habsolute : Externals.absoluteUrl request.method url with
    | ok _ => exact absurd ⟨url, hurl, habsolute⟩ hrefused
    | error error =>
      refine ⟨http error, ?_⟩
      have hchecked : (Externals.absoluteUrl request.method url).mapError http =
          .error (http error) := by
        rw [habsolute]
        rfl
      rw [send, hurl]
      change (liftM ((Externals.absoluteUrl request.method url).mapError http) >>=
        fun _ => _ : ClientM Json).run = _
      rw [hchecked]
      rfl

/-- Issue a GET. -/
def getJson (client : ProxmoxClient) (pathTemplate : String)
    (params query : List (String × String)) :
    ClientM Json := client.send ⟨.get, pathTemplate, params, query, []⟩

end ProxmoxClient

end ProxmoxMcp
