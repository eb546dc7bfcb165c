import DnetEngine.Core.Endpoints
import DnetEngine.Lib.Json
import DnetEngine.Rules.Builtin

/-! Endpoints and connection profiles as the store keeps them. -/

namespace DnetEngine

open Lib

/-- The name under which the secret store keeps an endpoint's credentials. -/
structure CredentialRef where
  storeKey : String
  deriving DecidableEq

inductive EndpointOrigin
  | provisioned (provider region : String) (resourceIds : List String)
  | manual
  deriving DecidableEq

def maxLabelLen : Nat := 64

structure StoredEndpoint extends Endpoint where
  address : EndpointAddress
  origin : EndpointOrigin
  credentials : CredentialRef
  deriving DecidableEq

namespace StoredEndpoint

def new (id : EndpointId) (label : String) (address : EndpointAddress) (origin : EndpointOrigin)
    (credentials : CredentialRef) : Except DomainError StoredEndpoint :=
  if label.length = 0 ∨ maxLabelLen < label.length then .error (.invalidLabel label.length)
  else .ok { id, label, address, origin, credentials }

def hasCloudResources (endpoint : StoredEndpoint) : Bool :=
  match endpoint.origin with
  | .provisioned _ _ resourceIds => !resourceIds.isEmpty
  | .manual => false

end StoredEndpoint

inductive SurvivalMeasurement
  | survived
  | broke
  | notMeasured
  deriving DecidableEq

def FailoverTier.fromMeasurement : SurvivalMeasurement → FailoverTier
  | .survived => .tier1
  | .notMeasured | .broke => .tier2

/-- What was measured of each kind; nothing has been yet. -/
def recordedSurvival : ProfileKind → SurvivalMeasurement
  | .amneziaWg | .hysteria2 | .vlessReality => .notMeasured

structure BandwidthPair where
  upMbps : Nat
  downMbps : Nat
  deriving DecidableEq

structure BrutalAcknowledgement where
  warningRevision : Nat
  acknowledgedAtUnix : Nat
  deriving DecidableEq

structure BrutalOptIn where
  bandwidth : BandwidthPair
  acknowledgement : BrutalAcknowledgement
  deriving DecidableEq

/-- The parameters of a profile, by key. -/
@[ext]
structure ProfileParams where
  entries : List (String × String)
  distinct : (entries.map Prod.fst).Nodup
  deriving DecidableEq

namespace ProfileParams

def empty : ProfileParams := ⟨[], List.nodup_nil⟩

def set (params : ProfileParams) (key value : String) : ProfileParams :=
  ⟨insertMember key value params.entries, Json.nodup_insertMember params.distinct⟩

end ProfileParams

/-- A profile as the store keeps it: the parameters, and Brutal where it is turned on. -/
structure StoredProfile extends ConnectionProfile where
  params : ProfileParams
  brutal : Option BrutalOptIn
  deriving DecidableEq

namespace StoredProfile

def new (id : ProfileId) (kind : ProfileKind) (params : ProfileParams) : StoredProfile :=
  { id, kind, tier := .fromMeasurement (recordedSurvival kind), viability := .untested, params,
    brutal := none }

def enableBrutal (profile : StoredProfile) (bandwidth : BandwidthPair)
    (acknowledgement : BrutalAcknowledgement) : Except DomainError StoredProfile :=
  if profile.kind ≠ .hysteria2 then .error .brutalRequiresHysteria2
  else if acknowledgement.warningRevision ≠ brutalWarningRevision then
    .error .brutalNotAcknowledged
  else .ok { profile with brutal := some ⟨bandwidth, acknowledgement⟩ }

def disableBrutal (profile : StoredProfile) : StoredProfile := { profile with brutal := none }

/-- Brutal on with its acknowledgement, or off; the text of an error names no value of the
request. -/
def setBrutal (profile : StoredProfile)
    (setting : Option (BandwidthPair × BrutalAcknowledgement)) : Except String StoredProfile :=
  match setting with
  | none => .ok profile.disableBrutal
  | some (bandwidth, acknowledgement) =>
    (profile.enableBrutal bandwidth acknowledgement).mapError (fun error =>
      if error = .brutalRequiresHysteria2 then
        "Brutal congestion control applies only to the Hysteria 2 connection method"
      else "the warning about Brutal congestion control has not been accepted")

end StoredProfile

end DnetEngine
