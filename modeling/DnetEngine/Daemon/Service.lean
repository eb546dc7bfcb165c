import DnetEngine.Daemon.Approval
import DnetEngine.Daemon.Configure

/-! The daemon's service: one request frame from its bytes to its reply. Requests that redirect
traffic are held until an elevated client approves them; everything else is applied at once. What
lies outside (files, the connection, the feed, the clock) is behind `Host`, in whatever monad its
effects live; the store and the waiting changes are passed from frame to frame. -/

namespace DnetEngine.Service

open Lib Ipc Approval Configure

inductive FeedNote
  | discarded (document reason : String)
  | updated (sequence endpointUpdates : Nat)
  | evicted
  | outOfDate
  deriving DecidableEq

inductive FeedRefusal
  | rejected (error : String)
  | trialFailed (detail : String)
  | storage (detail : String)
  deriving DecidableEq

def FeedRefusal.display : FeedRefusal → String
  | .rejected error => error
  | .trialFailed detail =>
    "a profile in the feed would not produce a working configuration (" ++ detail ++
      "); the feed was refused whole"
  | .storage detail =>
    "the feed could not be saved (" ++ detail ++ "); nothing was changed"

inductive SetupError
  | noDownloads
  | noBuild
  | nothing
  | expired
  | script
  | report (detail : String)
  deriving DecidableEq

def SetupError.display : SetupError → String
  | .noDownloads =>
    "setting up a server is not available in this build: it has no list of server downloads"
  | .noBuild => "this release has no server downloads for that kind of server"
  | .nothing => "no server setup is waiting for a result; start again from the first step"
  | .expired => "that setup waited more than six hours; start again from the first step"
  | .script => "the script could not be made"
  | .report detail => "the result cannot be used: " ++ detail

/-- A setup that cannot proceed, as the client is told. -/
def setupRefusal (error : SetupError) : IpcError :=
  match error with
  | .noDownloads | .noBuild | .script => .internalError error.display
  | .nothing | .expired | .report _ => .invalidRequest error.display

/-- The signed profile feed: a document is offered at a time in seconds. -/
structure FeedService (m : Type → Type) where
  offerKeys : String → Nat → m (Except FeedRefusal (List FeedNote))
  offerFeed : String → Nat → m (Except FeedRefusal (List FeedNote))

/-- Setting up a server: what the server printed is checked against what was asked for. -/
structure ServerSetup (m : Type → Type) where
  finish : String → Nat → m (Except SetupError EndpointCredentials)
  complete : m Unit

/-- What the service is built with. -/
structure Host (m : Type → Type) (Bytes : Type) where
  /-- Why the changes of an earlier run could not be undone, if they could not. -/
  recovery : Except String Unit
  configRefusal : Option String
  holdChanges : Bool
  configurator : Option (Configurator m Bytes)
  feed : Option (FeedService m)
  serverSetup : Option (ServerSetup m)
  /-- What the secret store could not read back is not accepted. -/
  storable : EndpointCredentials → Except String Unit
  /-- Nothing is connected or being connected. -/
  isIdle : m Bool
  /-- The connection is built again from the changed store. -/
  reload : DomainState → m Unit
  publishFeedNotes : List FeedNote → m Unit
  unixMillis : m Nat
  freshChangeId : m String
  subscribe : m (Except IpcError Unit)
  versionReply : String
  pendingReply : List Listed → String
  /-- The requests that read, that connect or disconnect, and the beginning of a setup or fetch. -/
  answer : DomainState → Request → m (Except IpcError String)

structure DnetService where
  domain : DomainState
  pending : PendingChanges Request
  deriving DecidableEq

inductive Reply
  | response (result : Except IpcError String)
  | stream

def applied : String := "\x7b\"applied\":true\x7d"

def addedReply (id : EndpointId) : String := "\x7b\"endpoint\":\"" ++ id.display ++ "\"\x7d"

/-- The reply to an added rule; ids of rules and of endpoints are written alike. -/
def ruleAddedReply (id : RuleId) : String :=
  "\x7b\"rule\":\"" ++ (EndpointId.mk id.uuid).display ++ "\"\x7d"

def dnsReply (block : Bool) : Option String → String
  | some consequence =>
    "\x7b\"block\":" ++ toString block ++ ",\"consequence\":\"" ++ consequence ++ "\"\x7d"
  | none => "\x7b\"block\":" ++ toString block ++ "\x7d"

def FeedNote.change : FeedNote → String
  | .updated _ _ => "Updated"
  | .evicted => "Evicted"
  | .outOfDate => "OutOfDate"
  | .discarded _ _ => "Discarded"

def importedReply (notes : List FeedNote) : String :=
  "\x7b\"changes\":[" ++ ",".intercalate (notes.map (fun note => "\"" ++ note.change ++ "\"")) ++
    "],\"imported\":true\x7d"

def notAvailable (what : String) : IpcError :=
  .internalError (what ++ " is not available in this build yet")

/-- `char::is_control`. -/
def isControl (c : Char) : Bool :=
  decide (c.toNat < 0x20) || (decide (0x7f ≤ c.toNat) && decide (c.toNat < 0xa0))

/-- Text from a request, made safe to show in a prompt. -/
def shown (text : String) : String :=
  let clean := text.toList.filter (fun c => !isControl c)
  if 64 < clean.length then String.ofList (clean.take 64) ++ "..." else String.ofList clean

def describeMatcher : RuleMatcher → String
  | .domain name => "traffic to " ++ shown name
  | .domainSuffix name => "traffic to " ++ shown name ++ " and its subdomains"
  | .ipCidr range => "traffic to " ++ range.display
  | .application path => "traffic from " ++ shown path
  | .dnsPort => "name lookups"
  | .encryptedDnsPort => "encrypted name lookups"

/-- If `request` changes where traffic goes, what it would do in words for the person. -/
def redirectsTraffic (state : DomainState) : Request → Option String
  | .addEndpoint new =>
    some ("Adding the server \"" ++ shown new.label ++ "\" at " ++ shown new.host)
  | .finishServer label host _ =>
    some ("Adding the server \"" ++ shown label ++ "\" at " ++ shown host ++
      " made by the setup guide")
  | .setEndpointEnabled endpoint true =>
    -- An unknown server is not held: applying it fails, and changes nothing.
    (state.endpoints.find? (fun known => known.id == endpoint)).map
      (fun found => "Turning on the server \"" ++ shown found.label ++ "\"")
  | .addRule matcher .bypass =>
    some ("Sending " ++ describeMatcher matcher ++ " around the tunnel")
  | .importFeed _ => some "Importing connection-method definitions from a file"
  | .setEndpointEnabled _ false | .addRule _ .tunnel | .addRule _ .capture | .addRule _ .reject
  | .getVersion | .getState | .getSession | .getPaths | .getStats | .getComponents
  | .listEndpoints | .listProfiles | .listRules | .getDiagnostics | .listPending
  | .connect _ _ _ | .disconnect | .removeEndpoint _ | .removeRule _ | .setProfileParams
  | .enableBrutal _ _ _ _ | .disableBrutal _ | .setEncryptedDnsHandling _ | .fetchFeed
  | .prepareServer _ | .startProvisioning | .cancelProvisioning | .approveChange _
  | .rejectChange _ | .subscribe => none

def unknownChange : FindError → IpcError
  | .unknown => .invalidRequest ("no change is waiting under that name; it may have been " ++
      "applied, withdrawn or dropped after ten minutes")
  | .expired => .invalidRequest
      "that change waited more than ten minutes and was dropped; ask for it again"

namespace Host

variable {m : Type → Type} [Monad m] {Bytes Value Payload : Type}

/-- Nothing may change while the changes of an earlier run are not undone or the saved
configuration was refused. -/
def refuseWhileUnsafe (host : Host m Bytes) : Except IpcError Unit :=
  match host.recovery with
  | .error error => .error (.internalError error)
  | .ok () =>
    match host.configRefusal with
    | some reason =>
      .error (.internalError (reason ++ ". DNet Engine will not connect or change anything " ++
        "until the file is corrected or removed, then the service restarted"))
    | none => .ok ()

/-- What must hold before a change: something to save it with, and nothing connected. -/
def beforeChange (host : Host m Bytes) : m (Except IpcError (Configurator m Bytes)) :=
  match host.configurator with
  | none => pure (.error (notAvailable "this configuration change"))
  | some configurator => do
      if ← host.isIdle then pure (.ok configurator)
      else
        pure (.error (.invalidRequest ("disconnect before changing settings; the change would " ++
          "not reach a connection that is already up")))

/-- A change of the configuration: made while idle, and followed by a rebuilt connection. -/
def change (host : Host m Bytes) (state : DomainState)
    (make : Configurator m Bytes → m (Except ConfigureError Value × DomainState))
    (reply : Value → String) : m (Except IpcError String × DomainState) := do
  match ← host.beforeChange with
  | .error error => pure (.error error, state)
  | .ok configurator =>
    match ← make configurator with
    | (.error error, state) => pure (.error error.toIpcError, state)
    | (.ok value, state) =>
      host.reload state
      pure (.ok (reply value), state)

def finishServer (host : Host m Bytes) (state : DomainState) (label address report : String) :
    m (Except IpcError String × DomainState) := do
  match ← host.beforeChange with
  | .error error => pure (.error error, state)
  | .ok configurator =>
    match host.serverSetup with
    | none => pure (.error (notAvailable "setting up a server"), state)
    | some setup =>
      let now ← host.unixMillis
      match ← setup.finish report (now / 1000) with
      | .error error => pure (.error (setupRefusal error), state)
      | .ok credentials =>
        match NewEndpoint.new host.storable label address credentials with
        | .error error => pure (.error error, state)
        | .ok new =>
          match ← configurator.addEndpoint state new with
          | (.error error, state) => pure (.error error.toIpcError, state)
          | (.ok id, state) =>
            setup.complete
            host.reload state
            pure (.ok (addedReply id), state)

def importRefused (what : String) (taken : Bool) (refusal : FeedRefusal) : IpcError :=
  let detail := (if taken then "the keys document was taken, but " else "") ++ what ++
    " was refused: " ++ refusal.display
  match refusal with
  | .storage _ => .internalError detail
  | .rejected _ | .trialFailed _ => .invalidRequest detail

def offerDocument (offer : String → Nat → m (Except FeedRefusal (List FeedNote))) (now : Nat) :
    Option String → m (Except FeedRefusal (List FeedNote))
  | none => pure (.ok [])
  | some document => offer document now

def importFeed (host : Host m Bytes) (documents : FeedImport) : m (Except IpcError String) :=
  match host.feed with
  | none => pure (.error (notAvailable "importing a profile update"))
  | some feed => do
      let now ← host.unixMillis
      match ← offerDocument feed.offerKeys (now / 1000) documents.keys with
      | .error refusal => pure (.error (importRefused "the keys document" false refusal))
      | .ok first =>
        match ← offerDocument feed.offerFeed (now / 1000) documents.feed with
        | .error refusal =>
          -- What the keys did is published before the refusal is reported.
          host.publishFeedNotes first
          pure (.error (importRefused "the feed" documents.keys.isSome refusal))
        | .ok second =>
          host.publishFeedNotes (first ++ second)
          pure (.ok (importedReply (first ++ second)))

/-- Carry a request out, once nothing stands in its way. -/
def perform (host : Host m Bytes) (state : DomainState) (request : Request) :
    m (Except IpcError String × DomainState) :=
  match request with
  | .addEndpoint new => host.change state (·.addEndpoint state new) addedReply
  | .removeEndpoint endpoint =>
    host.change state (·.removeEndpoint state endpoint) (fun _ => applied)
  | .setEndpointEnabled endpoint enabled =>
    host.change state (·.setEndpointEnabled state endpoint enabled) (fun _ => applied)
  | .finishServer label address report => host.finishServer state label address report
  | .addRule matcher action => host.change state (·.addRule state matcher action) ruleAddedReply
  | .removeRule rule => host.change state (·.removeRule state rule) (fun _ => applied)
  | .enableBrutal profile upMbps downMbps _ =>
    host.change state (fun configurator => do
      let now ← host.unixMillis
      configurator.setBrutal state profile (some ⟨upMbps, downMbps⟩) (now / 1000))
      (fun _ => applied)
  | .disableBrutal profile =>
    host.change state (fun configurator => do
      let now ← host.unixMillis
      configurator.setBrutal state profile none (now / 1000)) (fun _ => applied)
  | .setEncryptedDnsHandling block =>
    host.change state (·.setEncryptedDns state block) (dnsReply block)
  | .importFeed documents => do
      let result ← host.importFeed documents
      pure (result, state)
  | .setProfileParams | .startProvisioning | .cancelProvisioning =>
    pure (.error (notAvailable "this configuration change"), state)
  | .listPending | .approveChange _ | .rejectChange _ =>
    pure (.error (.internalError "a request about held changes reached the apply step"), state)
  | .subscribe =>
    pure (.error (.invalidRequest "Subscribe is a streaming request, not a one-shot dispatch"),
      state)
  | .getVersion | .getState | .getSession | .getPaths | .getStats | .getComponents
  | .listEndpoints | .listProfiles | .listRules | .getDiagnostics | .connect _ _ _ | .disconnect
  | .prepareServer _ | .fetchFeed => do
      let result ← host.answer state request
      pure (result, state)

def apply (host : Host m Bytes) (state : DomainState) (request : Request) :
    m (Except IpcError String × DomainState) :=
  match if request.requestClass = .mutating then host.refuseWhileUnsafe else .ok () with
  | .error error => pure (.error error, state)
  | .ok () => host.perform state request

/-- Hold `request`, and say so as the refusal it is: nothing was applied. -/
def holdChange (host : Host m Bytes) (service : DnetService) (request : Request) (what : String) :
    m (Except IpcError String × DnetService) :=
  match host.refuseWhileUnsafe with
  | .error error => pure (.error error, service)
  | .ok () => do
      let now ← host.unixMillis
      let newId ← host.freshChangeId
      match service.pending.hold request what now newId with
      | (.ok id, pending) => pure (.error (.approvalRequired id what), { service with pending })
      | (.error .full, pending) =>
        pure (.error (.invalidRequest ("too many changes are waiting for approval; approve or " ++
          "withdraw one first (`dnetctl pending`)")), { service with pending })

/-- Apply the change held under `id`. One that fails stays held, so it can be tried again. -/
def approveChange (host : Host m Bytes) (service : DnetService) (id : String) :
    m (Except IpcError String × DnetService) := do
  let now ← host.unixMillis
  match service.pending.find id now with
  | (.error error, pending) => pure (.error (unknownChange error), { service with pending })
  | (.ok held, pending) =>
    match ← host.apply service.domain held.request with
    | (.error error, domain) => pure (.error error, ⟨domain, pending⟩)
    | (.ok reply, domain) => pure (.ok reply, ⟨domain, (pending.remove id).2⟩)

def rejectChange (host : Host m Bytes) (service : DnetService) (id : String) :
    m (Except IpcError String × DnetService) := do
  let now ← host.unixMillis
  match service.pending.find id now with
  | (.error error, pending) => pure (.error (unknownChange error), { service with pending })
  | (.ok _, pending) =>
    pure (.ok applied, { service with pending := (pending.remove id).2 })

/-- What the service does with a request the caller may make. -/
def dispatch (host : Host m Bytes) (service : DnetService) (request : Request) :
    m (Except IpcError String × DnetService) :=
  match request with
  | .listPending => do
      let now ← host.unixMillis
      let (listed, pending) := service.pending.list now
      pure (.ok (host.pendingReply listed), { service with pending })
  | .rejectChange id => host.rejectChange service id
  | .approveChange id => host.approveChange service id
  | request =>
    match if host.holdChanges then redirectsTraffic service.domain request else none with
    | some what => host.holdChange service request what
    | none => do
        let (result, domain) ← host.apply service.domain request
        pure (result, { service with domain })

def dispatchRequest (host : Host m Bytes) (decode : Payload → Except IpcError Request)
    (service : DnetService) (payload : Payload) (identity : ClientIdentity)
    (console : Option ConsoleSession) : m (Reply × DnetService) :=
  match decode payload with
  | .error error => pure (.response (.error error), service)
  | .ok request =>
    match authorize request.requestClass identity console with
    | .error error => pure (.response (.error error), service)
    | .ok () =>
      match request with
      | .subscribe => do
          match ← host.subscribe with
          | .ok () => pure (.stream, service)
          | .error error => pure (.response (.error error), service)
      | .getVersion => pure (.response (.ok host.versionReply), service)
      | request => do
          let (result, service) ← host.dispatch service request
          pure (.response result, service)

end Host

end DnetEngine.Service
