import DnetEngine.Config.Persist
import DnetEngine.Core.Domain
import DnetEngine.Netstate.Undo
import DnetEngine.Rules.Rule

/-! The requests the service accepts, the class each belongs to, and who may make a request of a
class. -/

namespace DnetEngine.Ipc

open Lib

inductive RequestClass
  | readOnly
  | mutating
  | stream
  | approval
  deriving DecidableEq

inductive IpcError
  | unauthorized (reason : String)
  | invalidRequest (detail : String)
  | tierDowngradeRequiresConsent (tier : FailoverTier)
  | capacityUnavailable
  | notConnected
  | serviceBusy
  | approvalRequired (id what : String)
  | internalError (detail : String)
  deriving DecidableEq

/-- The largest envelope accepted from any source, in bytes. -/
def envelopeMaxBytes : Nat := 262144

/-- Signed documents to import; at least one is given, and none is larger than any signed document
may be. -/
structure FeedImport where
  keys : Option String
  feed : Option String
  given : keys.isSome = true ∨ feed.isSome = true
  small : ∀ text, keys = some text ∨ feed = some text → text.utf8ByteSize ≤ envelopeMaxBytes
  deriving DecidableEq

/-- A new endpoint, as a client asks for it. -/
structure NewEndpoint where
  label : String
  host : String
  credentials : EndpointCredentials
  deriving DecidableEq

def maxLabelChars : Nat := 64
def maxHostChars : Nat := 253

/-- A `because` explains its event: it is not empty, and it does not restate the event's name. -/
def validateBecause (eventName because : String) : Except IpcError Unit :=
  let trimmed := trim because
  if trimmed.isEmpty then .error (.invalidRequest "ConnectionEvent `because` must not be empty")
  else if trimmed.toList.map Char.toLower = (trim eventName).toList.map Char.toLower then
    .error (.invalidRequest "`because` must explain the event, not restate its name")
  else .ok ()

def checkLabel (label : String) : Except IpcError String :=
  let label := trim label
  if label.isEmpty || decide (maxLabelChars < label.length) ||
      !label.toList.all (fun c => decide (0x20 ≤ c.toNat ∧ c.toNat < 0x7f)) then
    .error (.invalidRequest "`label` must be 1 to 64 printable ASCII characters")
  else .ok label

def isMulticast : IpAddr → Bool
  | .v4 addr => addr.groups.head?.any (fun octet => octet &&& 0xf0 == 0xe0)
  | .v6 addr => addr.groups.head?.any (fun group => group &&& 0xff00 == 0xff00)

def checkHost (host : String) : Except IpcError String :=
  let host := trim host
  if decide (maxHostChars < host.utf8ByteSize) || !hostIsAcceptable host then
    .error (.invalidRequest
      "`host` must be an IP address or a host name, with no scheme, port or path")
  else if (parseIpAddr host.toList).any (fun ip => ip.isUnspecified || isMulticast ip) then
    .error (.invalidRequest "`host` is not an address a server can have")
  else .ok host

/-- Check and make a new endpoint; `storable` is the check of what the secret store could not read
back. -/
def NewEndpoint.new (storable : EndpointCredentials → Except String Unit) (label host : String)
    (credentials : EndpointCredentials) : Except IpcError NewEndpoint := do
  let label ← checkLabel label
  let host ← checkHost host
  if credentials.isEmpty then
    .error (.invalidRequest "`credentials` holds no connection method")
  else
    match storable credentials with
    | .error detail => .error (.invalidRequest ("`credentials` " ++ detail))
    | .ok () => .ok ⟨label, host, credentials⟩

inductive ServerKind
  | amd64
  | arm64
  deriving DecidableEq

inductive Request
  | getVersion
  | getState
  | getSession
  | getPaths
  | getStats
  | getComponents
  | listEndpoints
  | listProfiles
  | listRules
  | getDiagnostics
  | listPending
  | connect (acknowledgeTier2 : Bool) (profile : Option ProfileId) (endpoint : Option EndpointId)
  | disconnect
  | addEndpoint (new : NewEndpoint)
  | removeEndpoint (endpoint : EndpointId)
  | setEndpointEnabled (endpoint : EndpointId) (enabled : Bool)
  | addRule (matcher : RuleMatcher) (action : RuleAction)
  | removeRule (rule : RuleId)
  | setProfileParams
  | enableBrutal (profile : ProfileId) (upMbps downMbps warningRevision : Nat)
  | disableBrutal (profile : ProfileId)
  | setEncryptedDnsHandling (block : Bool)
  | importFeed (documents : FeedImport)
  | fetchFeed
  | prepareServer (arch : ServerKind)
  | finishServer (label host report : String)
  | startProvisioning
  | cancelProvisioning
  | approveChange (id : String)
  | rejectChange (id : String)
  | subscribe
  deriving DecidableEq

def Request.requestClass : Request → RequestClass
  | .getVersion | .getState | .getSession | .getPaths | .getStats | .getComponents
  | .listEndpoints | .listProfiles | .listRules | .getDiagnostics | .listPending => .readOnly
  | .subscribe => .stream
  | .connect _ _ _ | .disconnect | .addEndpoint _ | .removeEndpoint _ | .setEndpointEnabled _ _
  | .addRule _ _ | .removeRule _ | .setProfileParams | .enableBrutal _ _ _ _ | .disableBrutal _
  | .setEncryptedDnsHandling _ | .importFeed _ | .fetchFeed | .prepareServer _
  | .finishServer _ _ _ | .startProvisioning | .cancelProvisioning | .rejectChange _ => .mutating
  | .approveChange _ => .approval

/-- A connected client, as its token tells when it connects. -/
structure ClientIdentity where
  sid : String
  sessionId : BitVec 32
  authenticated : Bool
  elevated : Bool
  deriving DecidableEq

structure ConsoleSession where
  sessionId : BitVec 32
  userSid : String
  deriving DecidableEq

def authorize (requested : RequestClass) (client : ClientIdentity)
    (console : Option ConsoleSession) : Except IpcError Unit :=
  if !client.authenticated then .error (.unauthorized "caller is not authenticated")
  else
    match requested with
    | .readOnly | .stream => .ok ()
    | .mutating =>
      match console with
      | none => .error (.unauthorized "no interactive console session is active")
      | some console =>
        if client.sessionId = console.sessionId ∧ client.sid = console.userSid then .ok ()
        else .error (.unauthorized "mutating requests require the interactive console user")
    | .approval =>
      if !client.elevated then
        .error (.unauthorized ("approving a change needs an elevated client: run " ++
          "`dnetctl approve` and answer the Windows prompt"))
      else
        match console with
        | none => .error (.unauthorized "no interactive console session is active")
        | some console =>
          -- The user may be another: an administrator's credentials typed into the prompt.
          if client.sessionId = console.sessionId then .ok ()
          else .error (.unauthorized
            "approving a change is done from the interactive console session")

theorem authorize_approval {client : ClientIdentity} {console : Option ConsoleSession}
    (allowed : authorize .approval client console = .ok ()) :
    client.elevated = true ∧
      ∃ session, console = some session ∧ client.sessionId = session.sessionId := by
  obtain ⟨_, allowed⟩ := refused_ok.mp allowed
  obtain ⟨elevated, allowed⟩ := refused_ok.mp allowed
  cases console with
  | none => cases allowed
  | some session =>
    obtain ⟨same, allowed⟩ := required_ok.mp allowed
    exact ⟨by simpa using elevated, session, rfl, same⟩

end DnetEngine.Ipc
