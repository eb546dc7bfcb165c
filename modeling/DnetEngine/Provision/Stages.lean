import DnetEngine.Config.SecretStore
import DnetEngine.Lib.Mortal
import DnetEngine.Provision.Ledger

/-! The provisioning job: its stages in order, what each does when it goes wrong, and the cleanup
from the ledger. Every call to the provider and to the ledger is an effect, before which the process
may be killed; the world holds the ledger and what exists at the provider. -/

namespace DnetEngine.Provision

open Lib Mortal

inductive ProviderError
  | unauthorized
  | quotaExceeded (text : String)
  | transient (text : String)
  | rejected (text : String)
  deriving DecidableEq

def ProviderError.display : ProviderError → String
  | .unauthorized => "the provider no longer accepts the credential"
  | .quotaExceeded text => "the free allowance is used up: " ++ text
  | .transient text => "the provider could not be reached or is busy: " ++ text
  | .rejected text => "the provider refused the request: " ++ text

section Credential

/-- Who a credential belongs to. -/
inductive Subject
  | root
  | dedicatedUser
  deriving DecidableEq

/-- Whether the provider still honours a credential. -/
inductive Standing
  | valid
  | invalid
  | expired
  | revoked
  deriving DecidableEq

structure Inspection where
  subject : Subject
  standing : Standing
  granted : List String
  deriving DecidableEq

inductive CredentialProblem
  | invalid
  | expired
  | revoked
  | rootCredential
  | missingPermissions (missing : List String)
  deriving DecidableEq

def validate (inspection : Inspection) (required : List String) :
    Except CredentialProblem (List String) :=
  match inspection.standing with
  | .invalid => .error .invalid
  | .expired => .error .expired
  | .revoked => .error .revoked
  | .valid =>
    -- A root credential holds all permissions and must still be refused.
    if inspection.subject = .root then .error .rootCredential
    else
      let missing := required.filter (fun needed => !inspection.granted.contains needed)
      if missing ≠ [] then .error (.missingPermissions missing)
      else
        let extra := inspection.granted.filter (fun granted => !required.contains granted)
        .ok (extra.mergeSort (fun one two => decide (one ≤ two))).dedup

end Credential

section Capacity

structure Alternative where
  region : String
  addedRttMs : Nat
  deriving DecidableEq

inductive Capacity
  | available
  | unavailable (alternatives : List Alternative)
  deriving DecidableEq

def maxAlternatives : Nat := 5

/-- The alternatives to offer, nearest first, each region once and never the chosen one. -/
def rank (alternatives : List Alternative) (chosenRegion : String) : List Alternative :=
  let best := alternatives.foldl (fun best alternative =>
    if alternative.region = chosenRegion then best
    else if best.any (fun known => known.region == alternative.region) then
      updateFirst (fun known => known.region == alternative.region)
        (fun known => { known with addedRttMs := min known.addedRttMs alternative.addedRttMs }) best
    else best ++ [alternative]) []
  (best.mergeSort (fun one two => decide (one.addedRttMs < two.addedRttMs ∨
    one.addedRttMs = two.addedRttMs ∧ one.region ≤ two.region))).take maxAlternatives

end Capacity

structure Unremovable where
  kind : ResourceKind
  token : String
  providerId : Option String
  region : String
  reason : String
  deriving DecidableEq

structure Removed where
  kind : ResourceKind
  token : String
  region : String
  deriving DecidableEq

structure CleanupReport where
  removed : List Removed := []
  unremovable : List Unremovable := []
  deriving DecidableEq

def CleanupReport.isComplete (report : CleanupReport) : Bool := report.unremovable.isEmpty

inductive Stage
  | credentialValidation
  | capacityCheck
  | instanceCreate
  | networkConfigure
  | serverBootstrap
  | keepaliveInstall
  | reachabilityVerify
  | done
  deriving DecidableEq

/-- Progress, for whoever follows the job. -/
inductive Progress
  | stageStarted (stage : Stage)
  | stageFinished (stage : Stage)
  | overPrivilegedAcknowledged (extra : Nat)
  | cleanupStarted
  | cleanupFinished (complete : Bool)
  deriving DecidableEq

structure Ports where
  amneziawgUdp : BitVec 16
  hysteria2Udp : BitVec 16
  realityTcp : BitVec 16
  deriving DecidableEq

/-- What a job is asked to do. `setup` is what only the scripts for the server read. -/
structure JobParams (Setup : Type) where
  jobId : String
  region : String
  shape : String
  label : String
  ports : Ports
  acknowledgedOverPrivilege : Bool
  setup : Setup

structure InstanceInfo where
  providerId : String
  publicIp : Ipv4Addr
  deriving DecidableEq

structure NetworkInfo where
  providerId : String
  deriving DecidableEq

inductive DeleteOutcome
  | deleted
  | alreadyGone
  deriving DecidableEq

inductive VerifyFailure
  | nothingTried
  | noneReachable (tried : List ProfileKind)
  deriving DecidableEq

def requireOne (results : List (ProfileKind × Bool)) : Except VerifyFailure (List ProfileKind) :=
  if results = [] then .error .nothingTried
  else
    let working := (results.filter Prod.snd).map Prod.fst
    if working = [] then .error (.noneReachable (results.map Prod.fst)) else .ok working

inductive FailureReason
  | invalidRequest (what : String)
  | credential (problem : CredentialProblem)
  | allowanceUsed (text : String)
  | ledgerUnavailable
  | provider (text : String)
  | bootstrap (text : String)
  | keepaliveMissing
  | notReachable (failure : VerifyFailure)
  deriving DecidableEq

structure Provisioned (Credentials : Type) where
  endpoint : StoredEndpoint
  credentials : Credentials
  working : List ProfileKind

inductive Outcome (Credentials : Type)
  | provisioned (result : Provisioned Credentials)
  | needsAcknowledgement (permissions : List String)
  | capacityUnavailable (alternatives : List Alternative)
  | cancelled (cleanup : CleanupReport)
  | failed (stage : Stage) (reason : FailureReason) (cleanup : CleanupReport)

inductive Call
  | inspectCredential (answer : Except ProviderError Inspection)
  | checkCapacity (region shape : String)
  | createInstance (token region shape : String)
  | openPorts (token region : String)
  | bootstrap (script : String)
  | installKeepalive (script : String)
  | keepaliveInstalled
  | find (kind : ResourceKind) (token region : String)
  | delete (kind : ResourceKind) (providerId region : String)

/-- A create call: whether it made the resource, whether its intent had been recorded in this run, and
in which state the ledger had its token. -/
structure Create where
  token : String
  made : Bool
  recorded : Bool
  state : Option EntryState

/-- The ledger and the provider. Resources go by the token they were created under. -/
structure World where
  entries : Entries := []
  existing : List String := []
  /-- The ids the provider has given out, each with the token of the resource it stands for. -/
  answered : List (String × String) := []
  calls : List Call := []
  events : List Progress := []
  /-- The tokens whose intent was recorded in this run, and those of the resources it made. -/
  recorded : List String := []
  made : List String := []
  creates : List Create := []
  /-- The ledger and what existed, after every effect so far. -/
  moments : List (Entries × List String) := []

/-- What becomes of an effect; each reads the answer that is its own. -/
structure Fate (Secret : Type) where
  cancelled : Bool := false
  written : Bool := true
  inspection : Except ProviderError Inspection := .error .unauthorized
  capacity : Except ProviderError Capacity := .ok .available
  /-- Whether a create call makes the resource, whatever it answers. -/
  makes : Bool := true
  machine : Except ProviderError InstanceInfo := .error .unauthorized
  network : Except ProviderError NetworkInfo := .error .unauthorized
  secret : Option Secret := none
  output : Except ProviderError String := .error .unauthorized
  installed : Except ProviderError Unit := .ok ()
  running : Except ProviderError Bool := .ok true
  reached : List (ProfileKind × Bool) := []
  endpointId : EndpointId := ⟨0⟩
  /-- The id under which a resource that exists is found. -/
  found : Except ProviderError String := .error .unauthorized
  deletion : Except ProviderError DeleteOutcome := .ok .deleted
  /-- Whether a deletion that fails has removed the resource all the same. -/
  takes : Bool := false

/-- The scripts for the server and the reading of their report, which other modules make. -/
structure Kit (Setup Secret Credentials : Type) where
  script : JobParams Setup → (keys obfuscation session : Secret) → Except String String
  report : JobParams Setup → (keys obfuscation session : Secret) → (output : String) →
    Except String Credentials
  amneziawgPort : Credentials → Option (BitVec 16)
  keepalive : Setup → String

/-- What of a provider is the same in every call, and the removal of the credential from its text. -/
structure Account where
  name : String
  requiredPermissions : List String
  clean : String → String

section Effects

variable {Setup Secret Credentials : Type}

abbrev Job (Secret : Type) := Mortal (Fate Secret) World

variable {Value : Type}

def World.noted (world : World) : World :=
  { world with moments := world.moments ++ [(world.entries, world.existing)] }

def deed (effect : Fate Secret → World → Value × World) : Job Secret Value :=
  act fun fate world => ((effect fate world).1, (effect fate world).2.noted)

/-- A call to the provider that changes nothing there. -/
def ask (call : Fate Secret → Call) (answer : Fate Secret → Value) : Job Secret Value :=
  deed fun fate world => (answer fate, { world with calls := world.calls ++ [call fate] })

def emit (event : Progress) : Job Secret Unit :=
  change fun world => { world with events := world.events ++ [event] }

def World.write (world : World) (event : Event) : World :=
  { world with
    entries := apply world.entries event
    recorded := match event with
      | .intent _ token _ => token :: world.recorded
      | _ => world.recorded }

def record (event : Event) : Job Secret (Except LedgerError Unit) :=
  deed fun fate world =>
    match check world.entries event with
    | .error error => (.error error, world)
    | .ok () =>
      if fate.written then (.ok (), world.write event)
      else (.error (.write "the storage failed"), world)

def stateOf (entries : Entries) (token : String) : Option EntryState :=
  (entries.find? (fun entry => entry.token == token)).map LedgerEntry.state

def World.create (world : World) (call : Call) (token : String) (makes : Bool)
    (id : Option String) : World :=
  { world with
    existing := if makes then token :: world.existing else world.existing
    answered := (id.map (·, token)).toList ++ world.answered
    calls := world.calls ++ [call]
    made := if makes then token :: world.made else world.made
    creates := ⟨token, makes, decide (token ∈ world.recorded), stateOf world.entries token⟩ ::
      world.creates }

def createInstance (token region shape : String) : Job Secret (Except ProviderError InstanceInfo) :=
  deed fun fate world => (fate.machine, world.create (.createInstance token region shape) token
    fate.makes (fate.machine.toOption.map InstanceInfo.providerId))

def openPorts (token region : String) : Job Secret (Except ProviderError NetworkInfo) :=
  deed fun fate world => (fate.network, world.create (.openPorts token region) token fate.makes
    (fate.network.toOption.map NetworkInfo.providerId))

/-- The provider answers truthfully whether anything was created under the token. -/
def find (kind : ResourceKind) (token region : String) :
    Job Secret (Except ProviderError (Option String)) :=
  deed fun fate world =>
    let asked := { world with calls := world.calls ++ [.find kind token region] }
    match fate.found with
    | .error error => (.error error, asked)
    | .ok id =>
      if token ∈ world.existing then
        (.ok (some id), { asked with answered := (id, token) :: world.answered })
      else (.ok none, asked)

/-- What an id stands for is gone. -/
def World.lose (world : World) (id : String) : World :=
  { world with existing := world.existing.filter (fun token => !world.answered.contains (id, token)) }

def delete (kind : ResourceKind) (id region : String) :
    Job Secret (Except ProviderError DeleteOutcome) :=
  deed fun fate world =>
    let asked := { world with calls := world.calls ++ [.delete kind id region] }
    match fate.deletion with
    | .ok outcome => (.ok outcome, asked.lose id)
    | .error error => (.error error, if fate.takes then asked.lose id else asked)

variable (account : Account)

section Cleanup

def deleteEntry (entry : LedgerEntry) (id : String) : Job Secret (Except String Unit) := do
  let answer ← delete entry.kind id entry.region
  match answer with
  | .ok _ => pure (.ok ())
  | .error error => pure (.error (account.clean error.display))

/-- `Ok` when the resource is gone; the reason when it may not be. -/
def removeOne (entry : LedgerEntry) : Job Secret (Except String Unit) :=
  match entry.providerId with
  | some id => deleteEntry account entry id
  | none => do
      match ← find entry.kind entry.token entry.region with
      | .ok (some id) => deleteEntry account entry id
      | .ok none => pure (.ok ())
      | .error error => pure (.error (account.clean error.display))

def unremovable (entry : LedgerEntry) (reason : String) : Unremovable :=
  ⟨entry.kind, entry.token, entry.providerId, entry.region, reason⟩

def removeEach : List LedgerEntry → List Unremovable →
    Job Secret (Except LedgerError (List Unremovable))
  | [], left => pure (.ok left)
  | entry :: rest, left => do
      match ← removeOne account entry with
      | .error reason => removeEach rest (left ++ [unremovable entry reason])
      | .ok () =>
        match ← record (.removed entry.token) with
        | .error error => pure (.error error)
        | .ok () => removeEach rest left

def isOutstanding (entry : LedgerEntry) : Bool := decide (entry.state ≠ .removed)

/-- Remove everything the ledger records as not yet gone. -/
def cleanup : Job Secret (Except LedgerError CleanupReport) := do
  let entries ← look World.entries
  match ← removeEach account (entries.reverse.filter isOutstanding) [] with
  | .error error => pure (.error error)
  | .ok left =>
    let after ← look World.entries
    pure (.ok ⟨(after.filter (fun entry => !isOutstanding entry)).map
      (fun entry => ⟨entry.kind, entry.token, entry.region⟩), left⟩)

/-- If the ledger itself cannot be written, everything not recorded as gone is reported as there. -/
def orStillThere : Except LedgerError CleanupReport → Job Secret CleanupReport
  | .ok report => pure report
  | .error _ =>
    look fun world => ⟨[], (world.entries.filter isOutstanding).map (fun entry =>
      unremovable entry "the record of this resource could not be updated")⟩

def cleanUp : Job Secret CleanupReport := do
  let entries ← look World.entries
  if entries.any isOutstanding then
    emit .cleanupStarted
    let done ← cleanup account
    let report ← orStillThere done
    emit (.cleanupFinished report.isComplete)
    pure report
  else pure {}

end Cleanup

abbrev Step (Secret Credentials : Type) := ExceptT (Outcome Credentials) (Job Secret)

def stop (ends : CleanupReport → Outcome Credentials) : Step Secret Credentials Value :=
  ExceptT.mk (do
    let report ← cleanUp account
    pure (.error (ends report)))

def fail (stage : Stage) (reason : FailureReason) : Step Secret Credentials Value :=
  stop account (fun report => .failed stage reason report)

def failProvider (stage : Stage) (error : ProviderError) : Step Secret Credentials Value :=
  fail account stage (.provider (account.clean error.display))

def tell (event : Progress) : Step Secret Credentials Unit := ExceptT.lift (emit event)

/-- Announce a stage, or stop here if the person has cancelled. -/
def begin (stage : Stage) : Step Secret Credentials Unit := do
  let cancelled ← ExceptT.lift (deed fun fate world => (fate.cancelled, world))
  if cancelled then stop account .cancelled else tell (.stageStarted stage)

def orFailWith {Error : Type} (stage : Stage) (reason : Error → FailureReason)
    (result : Except Error Value) : Step Secret Credentials Value :=
  match result with
  | .ok value => pure value
  | .error error => fail account stage (reason error)

def orFail (stage : Stage) (reason : FailureReason) (result : Except LedgerError Unit) :
    Step Secret Credentials Unit :=
  orFailWith account stage (fun _ => reason) result

def orFailProvider (stage : Stage) (result : Except ProviderError Value) :
    Step Secret Credentials Value :=
  orFailWith account stage (fun error => .provider (account.clean error.display)) result

def instanceToken (jobId : String) : String := "dnet-" ++ jobId ++ "-instance"

def networkToken (jobId : String) : String := "dnet-" ++ jobId ++ "-network"

def isBlank (text : String) : Bool := text.toList.all isWhitespace

def checkParams (params : JobParams Setup) : Except String Unit :=
  if ¬(1 ≤ params.jobId.utf8ByteSize ∧ params.jobId.utf8ByteSize ≤ 40) ∨
      validToken (instanceToken params.jobId) = false then .error "the job name"
  else if isBlank params.region || isBlank params.shape then .error "the region or the machine size"
  else .ok ()

variable (kit : Kit Setup Secret Credentials) (params : JobParams Setup)

def inspected (answer : Except ProviderError Inspection) : Step Secret Credentials Inspection :=
  match answer with
  | .ok inspection => pure inspection
  | .error .unauthorized => fail account .credentialValidation (.credential .invalid)
  | .error error => failProvider account .credentialValidation error

def acknowledge (overPrivileged : List String) : Step Secret Credentials Unit :=
  if overPrivileged = [] then pure ()
  else if params.acknowledgedOverPrivilege then
    tell (.overPrivilegedAcknowledged overPrivileged.length)
  else throw (.needsAcknowledgement overPrivileged)

def validateCredential : Step Secret Credentials Unit := do
  begin account .credentialValidation
  let answer ← ExceptT.lift (ask (fun fate => .inspectCredential fate.inspection) Fate.inspection)
  let inspection ← inspected account answer
  let overPrivileged ← orFailWith account .credentialValidation .credential
    (validate inspection account.requiredPermissions)
  acknowledge params overPrivileged
  tell (.stageFinished .credentialValidation)

def roomFound : Capacity → Step Secret Credentials Unit
  | .available => tell (.stageFinished .capacityCheck)
  | .unavailable alternatives => throw (.capacityUnavailable (rank alternatives params.region))

def checkCapacity : Step Secret Credentials Unit := do
  begin account .capacityCheck
  let answer ← ExceptT.lift (ask (fun _ => .checkCapacity params.region params.shape) Fate.capacity)
  let capacity ← orFailProvider account .capacityCheck answer
  roomFound params capacity

def instanceMade (answer : Except ProviderError InstanceInfo) :
    Step Secret Credentials InstanceInfo :=
  match answer with
  | .ok machine => pure machine
  | .error (.quotaExceeded text) =>
    fail account .instanceCreate (.allowanceUsed (account.clean text))
  | .error error => failProvider account .instanceCreate error

-- The intent is written first, and if it cannot be, nothing is created.
def makeInstance : Step Secret Credentials InstanceInfo := do
  begin account .instanceCreate
  let token := instanceToken params.jobId
  let intended ← ExceptT.lift (record (.intent .machine token params.region))
  orFail account .instanceCreate .ledgerUnavailable intended
  let answer ← ExceptT.lift (createInstance token params.region params.shape)
  let machine ← instanceMade account answer
  let noted ← ExceptT.lift (record (.created token machine.providerId))
  orFail account .instanceCreate .ledgerUnavailable noted
  tell (.stageFinished .instanceCreate)
  pure machine

def configureNetwork : Step Secret Credentials NetworkInfo := do
  begin account .networkConfigure
  let token := networkToken params.jobId
  let intended ← ExceptT.lift (record (.intent .networkRule token params.region))
  orFail account .networkConfigure .ledgerUnavailable intended
  let answer ← ExceptT.lift (openPorts token params.region)
  let rules ← orFailProvider account .networkConfigure answer
  let noted ← ExceptT.lift (record (.created token rules.providerId))
  orFail account .networkConfigure .ledgerUnavailable noted
  tell (.stageFinished .networkConfigure)
  pure rules

/-- Randomness for one of the keys. -/
def draw (without : String) : Step Secret Credentials Secret := do
  let secret ← ExceptT.lift (deed fun fate world => (fate.secret, world))
  orFailWith account .serverBootstrap .bootstrap (orError without secret)

def bootstrapServer : Step Secret Credentials Credentials := do
  begin account .serverBootstrap
  let keys ← draw account "no randomness was available for the keys"
  let obfuscation ← draw account "no randomness was available for the parameters"
  let session ← draw account "no randomness was available for the keys"
  let script ← orFailWith account .serverBootstrap .bootstrap
    (kit.script params keys obfuscation session)
  let answer ← ExceptT.lift (ask (fun _ => .bootstrap script) Fate.output)
  let output ← orFailProvider account .serverBootstrap answer
  let credentials ← orFailWith account .serverBootstrap .bootstrap
    (kit.report params keys obfuscation session output)
  tell (.stageFinished .serverBootstrap)
  pure credentials

def keepaliveFound : Except ProviderError Bool → Step Secret Credentials Unit
  | .ok true => tell (.stageFinished .keepaliveInstall)
  | .ok false | .error _ => fail account .keepaliveInstall .keepaliveMissing

def installKeepalive : Step Secret Credentials Unit := do
  begin account .keepaliveInstall
  let answer ← ExceptT.lift
    (ask (fun _ => .installKeepalive (kit.keepalive params.setup)) Fate.installed)
  orFailProvider account .keepaliveInstall answer
  let running ← ExceptT.lift (ask (fun _ => .keepaliveInstalled) Fate.running)
  keepaliveFound account running

def verifyReachability : Step Secret Credentials (List ProfileKind) := do
  begin account .reachabilityVerify
  let results ← ExceptT.lift (deed fun fate world => (fate.reached, world))
  let working ← orFailWith account .reachabilityVerify .notReachable (requireOne results)
  tell (.stageFinished .reachabilityVerify)
  pure working

/-- The endpoint's record, or what of the request is not valid. -/
def newEndpoint (id : EndpointId) (machine : InstanceInfo) (rules : NetworkInfo)
    (credentials : Credentials) : Except String StoredEndpoint := do
  let port := (kit.amneziawgPort credentials).getD params.ports.amneziawgUdp
  let address ← (EndpointAddress.new (String.ofList (printIpv4 machine.publicIp)) port).mapError
    (fun _ => "the server's address")
  (StoredEndpoint.new id (trim params.label) address
    (.provisioned account.name params.region [machine.providerId, rules.providerId])
    (SecretKey.forEndpoint id).credentialRef).mapError (fun _ => "the label")

def finish (machine : InstanceInfo) (rules : NetworkInfo) (credentials : Credentials)
    (working : List ProfileKind) : Step Secret Credentials (Provisioned Credentials) := do
  let id ← ExceptT.lift (deed fun fate world => (fate.endpointId, world))
  let endpoint ← orFailWith account .done .invalidRequest
    (newEndpoint account kit params id machine rules credentials)
  tell (.stageStarted .done)
  tell (.stageFinished .done)
  pure ⟨endpoint, credentials, working⟩

def stages : Step Secret Credentials (Provisioned Credentials) := do
  orFailWith account .credentialValidation .invalidRequest (checkParams params)
  validateCredential account params
  checkCapacity account params
  let machine ← makeInstance account params
  let rules ← configureNetwork account params
  let credentials ← bootstrapServer account kit params
  installKeepalive account kit params
  let working ← verifyReachability account
  finish account kit params machine rules credentials working

/-- Drive one job to its end. -/
def run : Job Secret (Outcome Credentials) := do
  match ← (stages account kit params).run with
  | .ok provisioned => pure (.provisioned provisioned)
  | .error outcome => pure outcome

end Effects

end DnetEngine.Provision
