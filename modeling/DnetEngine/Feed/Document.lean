import DnetEngine.Feed.Envelope
import DnetEngine.Core.Transport

/-! The feed document: what it proposes for the profiles of this build, and the bounds of every
parameter. -/

namespace DnetEngine.Feed

open Lib

def maxProfiles : Nat := 16
def maxTargetCandidates : Nat := 8
def maxNameLen : Nat := 253

def jcMin : Nat := 1
def jcMax : Nat := 16
def junkSizeMax : Nat := 1280
def s1Max : Nat := 1132
def s2Max : Nat := 1188
def initResponseSizeDifference : Nat := 56
def headerMin : Nat := 5
def headerMax : Nat := 2^31 - 1

def inRange (field : String) (value min max : Nat) : Except FeedError Unit :=
  if min ≤ value ∧ value ≤ max then .ok () else .error (invalid field "is out of bounds")

/-- Check a value that is proposed. -/
def inRangeIfSet (field : String) (value : Option Nat) (min max : Nat) : Except FeedError Unit :=
  match value with
  | none => .ok ()
  | some value => inRange field value min max

def checkPaddingSizesDiffer (s1 s2 : Nat) : Except FeedError Unit :=
  if s1 + initResponseSizeDifference ≤ u32Max ∧ s1 + initResponseSizeDifference = s2 then
    .error (invalid "s2"
      "must not equal s1 + 56 (padded initiation and response would match in size)")
  else .ok ()

def checkDistinctHeaders (headers : List Nat) : Except FeedError Unit :=
  if headers.Nodup then .ok () else .error (invalid "h1..h4" "must be pairwise distinct")

def awgClient (json : JunkPacketProposal) : Except FeedError JunkPacketProposal := do
  inRangeIfSet "jc" json.jc jcMin jcMax
  inRangeIfSet "jmin" json.jmin 0 junkSizeMax
  inRangeIfSet "jmax" json.jmax 0 junkSizeMax
  match json.jmin, json.jmax with
  | some jmin, some jmax =>
    if jmax ≤ jmin then .error (invalid "jmin" "must be less than jmax") else .ok json
  | some _, none | none, some _ | none, none => .ok json

def awgEndpoint (json : AmneziaWgHeaderProposal) : Except FeedError AmneziaWgHeaderProposal := do
  inRangeIfSet "s1" json.s1 0 s1Max
  inRangeIfSet "s2" json.s2 0 s2Max
  (match json.s1, json.s2 with
    | some s1, some s2 => checkPaddingSizesDiffer s1 s2
    | some _, none | none, some _ | none, none => .ok ())
  inRangeIfSet "h1" json.h1 headerMin headerMax
  inRangeIfSet "h2" json.h2 headerMin headerMax
  inRangeIfSet "h3" json.h3 headerMin headerMax
  inRangeIfSet "h4" json.h4 headerMin headerMax
  checkDistinctHeaders ([json.h1, json.h2, json.h3, json.h4].filterMap id)
  .ok json

def hy2Endpoint (json : Hysteria2EndpointProposal) :
    Except FeedError Hysteria2EndpointProposal :=
  match json.obfs with
  | none | some .salamander => .ok json
  | some (.gecko minPacketSize maxPacketSize) =>
    if !geckoPacketSizesValid minPacketSize maxPacketSize then
      .error (invalid "obfs.min_packet_size" "Gecko sizes must satisfy 256 <= min <= max <= 1400")
    else .ok json

def addCandidate (validated : List String) (name : String) : Except FeedError (List String) := do
  let name ← (validateTargetDomain name).mapError (invalid "target_domain_candidates")
  if validated.contains name then .error (invalid "target_domain_candidates" "lists a name twice")
  else .ok (validated ++ [name])

def realityEndpoint (json : RealityEndpointProposal) : Except FeedError RealityEndpointProposal :=
  match json.targetDomainCandidates with
  | none => .ok {}
  | some candidates =>
    if candidates.isEmpty || decide (maxTargetCandidates < candidates.length) then
      .error (invalid "target_domain_candidates" "must list 1 to 8 names")
    else do
      let validated ← candidates.foldlM addCandidate []
      .ok { targetDomainCandidates := some validated }

inductive ProposedParams
  | amneziaWg (client : JunkPacketProposal) (endpoint : AmneziaWgHeaderProposal)
  | hysteria2 (client : Hysteria2ClientProposal) (endpoint : Hysteria2EndpointProposal)
  | vlessReality (client : RealityClientProposal) (endpoint : RealityEndpointProposal)
  deriving DecidableEq

namespace ProposedParams

def kind : ProposedParams → ProfileKind
  | .amneziaWg _ _ => .amneziaWg
  | .hysteria2 _ _ => .hysteria2
  | .vlessReality _ _ => .vlessReality

/-- Nothing is proposed. -/
def isEmpty : ProposedParams → Bool
  | .amneziaWg client endpoint => client == {} && endpoint == {}
  | .hysteria2 client endpoint => client == {} && endpoint == {}
  | .vlessReality client endpoint => client == {} && endpoint == {}

end ProposedParams

structure ProfileProposal where
  profileId : ProfileId
  params : ProposedParams
  deriving DecidableEq

/-- A section that is checked if it is there, and proposes nothing if it is not. -/
def checkedSection {Section : Type} (default : Section)
    (check : Section → Except FeedError Section) : Option Section → Except FeedError Section
  | none => .ok default
  | some json => check json

/-- The profile an entry is for, and what it proposes once every value is checked. -/
def checkParams : ProfileEntryJson → Except FeedError (String × ProposedParams)
  | .amneziaWg profileId client endpoint => do
      let client ← checkedSection {} awgClient client
      let endpoint ← checkedSection {} awgEndpoint endpoint
      .ok (profileId, .amneziaWg client endpoint)
  | .hysteria2 profileId client endpoint => do
      let endpoint ← checkedSection {} hy2Endpoint endpoint
      .ok (profileId, .hysteria2 (client.getD {}) endpoint)
  | .vlessReality profileId client endpoint => do
      let endpoint ← checkedSection {} realityEndpoint endpoint
      .ok (profileId, .vlessReality (client.getD {}) endpoint)

def parseEntry (entry : ProfileEntryJson) : Except FeedError ProfileProposal := do
  let (profileId, params) ← checkParams entry
  if maxNameLen < profileId.utf8ByteSize then .error (invalid "profile_id" "is too long")
  else
    match bundledKind profileId with
    | none => .error (.unknownProfile profileId)
    | some defined =>
      if defined ≠ params.kind then .error (.kindMismatch profileId)
      else if params.isEmpty then .error (.emptyProposal profileId)
      else .ok ⟨⟨profileId⟩, params⟩

structure FeedDocument where
  keysVersion : Nat
  sequence : Nat
  issuedAt : Nat
  expiresAt : Nat
  profiles : List ProfileProposal
  deriving DecidableEq

namespace FeedDocument

def addEntry (profiles : List ProfileProposal) (entry : ProfileEntryJson) :
    Except FeedError (List ProfileProposal) := do
  let proposal ← parseEntry entry
  if profiles.any (fun other => other.profileId == proposal.profileId) then
    .error (.duplicateProfile proposal.profileId.name)
  else .ok (profiles ++ [proposal])

variable {VerifyingKey : Type} (crates : Crates VerifyingKey)

/-- Parse a payload whose signatures were verified, and check it but for the clock. -/
def parse (payload : Bytes) : Except FeedError FeedDocument := do
  let json ← (crates.feedFromSlice payload).mapError (.malformedPayload .feed)
  lifetime json.issuedAt json.expiresAt feedMaxLifetimeSecs "feed lifetime"
  if json.profiles.isEmpty || decide (maxProfiles < json.profiles.length) then
    .error (invalid "profiles" "must list 1 to 16 entries")
  else
    let profiles ← json.profiles.foldlM addEntry []
    .ok {
      keysVersion := json.keysVersion
      sequence := json.sequence
      issuedAt := json.issuedAt
      expiresAt := json.expiresAt
      profiles }

def checkCurrent (document : FeedDocument) (now : Nat) : Except FeedError Unit :=
  checkIssuedAndExpiry .feed document.issuedAt document.expiresAt now

end FeedDocument

/-- The parameters a feed sets for the client alone; by default it says nothing. -/
structure ClientDefinitions where
  hysteria2 : Hysteria2ClientProposal := {}
  reality : RealityClientProposal := {}
  sequence : Option Nat := none
  deriving DecidableEq

/-- One more proposal. The junk packets of AmneziaWG are kept with the endpoint and not applied. -/
def ClientDefinitions.propose (definitions : ClientDefinitions) (proposal : ProfileProposal) :
    ClientDefinitions :=
  match proposal.params with
  | .hysteria2 client _ => { definitions with hysteria2 := client }
  | .vlessReality client _ => { definitions with reality := client }
  | .amneziaWg _ _ => definitions

def ClientDefinitions.fromFeed (document : FeedDocument) : ClientDefinitions :=
  document.profiles.foldl ClientDefinitions.propose { sequence := some document.sequence }

def proposesEndpointChange : ProposedParams → Bool
  | .amneziaWg _ endpoint => endpoint != {}
  | .hysteria2 _ endpoint => endpoint != {}
  | .vlessReality _ endpoint => endpoint != {}

/-- The proposals that wait for the person to apply them to their endpoint. -/
def stagedEndpointUpdates (document : FeedDocument) : List ProfileProposal :=
  document.profiles.filter (fun proposal => proposesEndpointChange proposal.params)

end DnetEngine.Feed
