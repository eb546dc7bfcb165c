import DnetEngine.Config.SecretStore
import DnetEngine.Lib.Derived
import DnetEngine.Rules.EncryptedDns

/-! The saved configuration: endpoints, the settings of profiles, the choice about encrypted DNS and the
person's rules. The file is read as hostile: one bad entry refuses the whole of it. -/

namespace DnetEngine

open Lib

inductive PersistError
  | storage (detail : String)
  | tooLarge
  | malformed (detail : String)
  | unsupportedVersion (found : Nat)
  | invalid (detail : String)
  deriving DecidableEq

structure ProfileSettings where
  id : ProfileId
  params : ProfileParams
  brutal : Option (BandwidthPair × BrutalAcknowledgement)
  deriving DecidableEq

/-- A configuration read back from the file. Its rules were made anew, each as a person's; the notes are
what the person is told of settings that no longer apply. -/
structure LoadedConfig where
  endpoints : List StoredEndpoint
  profiles : List ProfileSettings
  encryptedDns : Option ConsentState
  rules : List RoutingRule
  notes : List String
  restored : ∀ rule ∈ rules,
    RoutingRule.restoredUser rule.id rule.matcher rule.action rule.precedence = .ok rule
  deriving DecidableEq

/-- Whether an endpoint can be reached at `host`: an IP address or a host name. -/
def hostIsAcceptable (host : String) : Bool :=
  (parseIpAddr host.toList).isSome || isDnsHostname host

namespace ConsentState

/-- What is not recognised gives the protective default. -/
def fromStored (policy : String) (disclosed : Nat) : ConsentState where
  policy := if policy = "allow" then .allow else .block
  disclosed := if disclosed ≠ 0 then some disclosed else none

end ConsentState

namespace Persist

def formatVersion : Nat := 1
def maxConfigLen : Nat := 256 * 1024
def maxEndpoints : Nat := 64
def maxParams : Nat := 64
def maxParamKeyLen : Nat := 64
def maxParamValueLen : Nat := 512
def maxResourceIds : Nat := 32
def maxTextLen : Nat := 256
def maxUserRules : Nat := 128

section Wire

structure RuleWire where
  id : String
  kind : String
  value : String
  action : String
  precedence : Nat

def ruleNames : List String := ["id", "kind", "value", "action", "precedence"]

def RuleWire.read (tree : Json) : Option RuleWire := do
  guard (tree.isRecord true ruleNames)
  return {
    id := ← (tree.field ruleNames "id").bind Json.asStr
    kind := ← (tree.field ruleNames "kind").bind Json.asStr
    value := ← (tree.field ruleNames "value").bind Json.asStr
    action := ← (tree.field ruleNames "action").bind Json.asStr
    precedence := ← (tree.field ruleNames "precedence").bind (Json.asNat 32) }

structure ConsentWire where
  policy : String
  disclosedVersion : Nat

def consentNames : List String := ["policy", "disclosed_version"]

def ConsentWire.read (tree : Json) : Option ConsentWire := do
  guard (tree.isRecord true consentNames)
  return {
    policy := ← (tree.field consentNames "policy").bind Json.asStr
    disclosedVersion := ← (tree.field consentNames "disclosed_version").bind (Json.asNat 32) }

structure OriginWire where
  kind : String
  provider : Option String
  region : Option String
  resourceIds : Option (List String)

def originNames : List String := ["kind", "provider", "region", "resource_ids"]

def OriginWire.read (tree : Json) : Option OriginWire := do
  guard (tree.isRecord true originNames)
  return {
    kind := ← (tree.field originNames "kind").bind Json.asStr
    provider := ← Json.optional Json.asStr (tree.field originNames "provider")
    region := ← Json.optional Json.asStr (tree.field originNames "region")
    resourceIds := ← Json.optional (Json.readItems Json.asStr)
      (tree.field originNames "resource_ids") }

structure EndpointWire where
  id : String
  label : String
  host : String
  port : BitVec 16
  origin : OriginWire
  credential : String
  enabled : Bool

def endpointNames : List String := ["id", "label", "host", "port", "origin", "credential", "enabled"]

def EndpointWire.read (tree : Json) : Option EndpointWire := do
  guard (tree.isRecord true endpointNames)
  return {
    id := ← (tree.field endpointNames "id").bind Json.asStr
    label := ← (tree.field endpointNames "label").bind Json.asStr
    host := ← (tree.field endpointNames "host").bind Json.asStr
    port := ← (tree.field endpointNames "port").bind (Json.asUnsigned 16)
    origin := ← (tree.field endpointNames "origin").bind OriginWire.read
    credential := ← (tree.field endpointNames "credential").bind Json.asStr
    enabled := ← (tree.field endpointNames "enabled").bind Json.asBool }

structure BrutalWire where
  upMbps : Nat
  downMbps : Nat
  warningRevision : Nat
  acknowledgedAtUnix : Nat

def brutalNames : List String :=
  ["up_mbps", "down_mbps", "warning_revision", "acknowledged_at_unix"]

def BrutalWire.read (tree : Json) : Option BrutalWire := do
  guard (tree.isRecord true brutalNames)
  return {
    upMbps := ← (tree.field brutalNames "up_mbps").bind (Json.asNat 32)
    downMbps := ← (tree.field brutalNames "down_mbps").bind (Json.asNat 32)
    warningRevision := ← (tree.field brutalNames "warning_revision").bind (Json.asNat 32)
    acknowledgedAtUnix := ← (tree.field brutalNames "acknowledged_at_unix").bind (Json.asNat 64) }

/-- A map; of the values given for one key the last counts. -/
def readParams : Json → Option ProfileParams
  | .object members => members.foldlM
      (fun params member => member.2.asStr.map (params.set member.1)) .empty
  | _ => none

structure ProfileWire where
  id : String
  params : ProfileParams
  brutal : Option BrutalWire

def profileNames : List String := ["id", "params", "brutal"]

def ProfileWire.read (tree : Json) : Option ProfileWire := do
  guard (tree.isRecord true profileNames)
  return {
    id := ← (tree.field profileNames "id").bind Json.asStr
    params := ← (tree.field profileNames "params").bind readParams
    brutal := ← Json.nullable BrutalWire.read profileNames "brutal" tree }

structure ConfigWire where
  version : Nat
  endpoints : List EndpointWire
  profiles : List ProfileWire
  encryptedDns : Option ConsentWire
  rules : List RuleWire

def configNames : List String := ["version", "endpoints", "profiles", "encrypted_dns", "rules"]

def ConfigWire.read (tree : Json) : Option ConfigWire := do
  guard (tree.isRecord true configNames)
  return {
    version := ← (tree.field configNames "version").bind (Json.asNat 32)
    endpoints := ← (tree.field configNames "endpoints").bind (Json.readItems EndpointWire.read)
    profiles := ← (tree.field configNames "profiles").bind (Json.readItems ProfileWire.read)
    encryptedDns := ← Json.optional ConsentWire.read (tree.field configNames "encrypted_dns")
    -- Left out of files written before there were rules, and where there are none.
    rules := ← (tree.field configNames "rules").elim (some []) (Json.readItems RuleWire.read) }

/-- Only the version, whatever else there is. -/
def readVersion (tree : Json) : Option Nat := do
  guard (tree.isRecord false ["version"])
  (tree.field ["version"] "version").bind (Json.asNat 32)

end Wire

section Decode

-- The text of an error, which no result depends on.
variable (display : DomainError → String)

/-- An id that is fit to be repeated in an error. -/
def shown (id : String) : String :=
  if decide (1 ≤ id.utf8ByteSize ∧ id.utf8ByteSize ≤ 64) &&
      id.toList.all (fun c => c.isLower || c.isDigit || c == '-') then id
  else "(not a valid id)"

def isPrintable (c : Char) : Bool := decide (0x20 ≤ c.toNat ∧ c.toNat < 0x7f)

/-- Text that ends up in a log line, a label or a file name. -/
def plainText (value what : String) : Except PersistError Unit :=
  if value.isEmpty || decide (maxTextLen < value.utf8ByteSize) || !value.toList.all isPrintable then
    .error (.invalid (what ++ " must be 1 to 256 printable ASCII characters"))
  else .ok ()

def atEndpoint (index : Nat) (what : String) : String :=
  "endpoint " ++ toString index ++ ": " ++ what

def decodeOrigin (index : Nat) (origin : OriginWire) : Except PersistError EndpointOrigin :=
  match origin.kind, origin.provider, origin.region, origin.resourceIds with
  | "manual", none, none, none => .ok .manual
  | "provisioned", some provider, some region, some resourceIds => do
      plainText provider (atEndpoint index "the provider")
      plainText region (atEndpoint index "the region")
      if maxResourceIds < resourceIds.length then
        .error (.invalid (atEndpoint index "too many cloud resource ids"))
      else
        resourceIds.forM (fun id => plainText id (atEndpoint index "a cloud resource id"))
        return .provisioned provider region resourceIds
  | _, _, _, _ =>
    .error (.invalid (atEndpoint index "the origin is not 'manual' or a complete 'provisioned'"))

def decodeEndpoint (index : Nat) (e : EndpointWire) : Except PersistError StoredEndpoint := do
  let uuid ← orError (.invalid (atEndpoint index "the id is not a UUID")) (parseUuid e.id.toList)
  plainText e.label (atEndpoint index "the label")
  if !hostIsAcceptable e.host then
    .error (.invalid (atEndpoint index "the host is neither an IP address nor a host name"))
  else
    let address ← (EndpointAddress.new e.host e.port).mapError
      (fun error => .invalid (atEndpoint index (display error)))
    -- A key the secret store accepts, so that the file cannot make it name a path of its choosing.
    let reference : CredentialRef := ⟨e.credential⟩
    let _ ← (SecretKey.parse reference).mapError (fun error => .invalid (atEndpoint index error))
    let origin ← decodeOrigin index e.origin
    let endpoint ← (StoredEndpoint.new ⟨uuid⟩ e.label address origin reference).mapError
      (fun error => .invalid (atEndpoint index (display error)))
    return { endpoint with enabled := e.enabled }

def decodeNextEndpoint (index : Nat) (read : List StoredEndpoint) (e : EndpointWire) :
    Except PersistError StoredEndpoint := do
  let endpoint ← decodeEndpoint display index e
  if read.any (fun other => other.id == endpoint.id) then
    .error (.invalid (atEndpoint index "its id is used twice"))
  else if read.any (fun other => other.label == endpoint.label) then
    .error (.invalid (atEndpoint index "its label is used twice"))
  else .ok endpoint

def decodeEndpoints (endpoints : List EndpointWire) : Except PersistError (List StoredEndpoint) :=
  if maxEndpoints < endpoints.length then .error (.invalid "more than 64 endpoints")
  else makeEach (decodeNextEndpoint display) 0 [] endpoints

def paramAllowed (key value : String) : Bool :=
  !key.isEmpty && decide (key.utf8ByteSize ≤ maxParamKeyLen) &&
    key.toList.all (fun c => c.isLower || c.isDigit || ['_', '-', '.'].contains c) &&
    (decide (value.utf8ByteSize ≤ maxParamValueLen) && value.toList.all isPrintable)

def decodeParam (id : String) (read : ProfileParams) (entry : String × String) :
    Except PersistError ProfileParams :=
  if !paramAllowed entry.1 entry.2 then
    .error (.invalid ("profile '" ++ shown id ++ "': a parameter name or value is not allowed"))
  else .ok (read.set entry.1 entry.2)

def decodeParams (id : String) (params : ProfileParams) : Except PersistError ProfileParams :=
  if maxParams < params.entries.length then
    .error (.invalid ("profile '" ++ shown id ++ "': too many parameters"))
  else params.entries.foldlM (decodeParam id) .empty

/-- The setting for Brutal, and what is said where it no longer applies: an acknowledgement of another
warning does not count. -/
def decodeBrutal (id : String) (kind : ProfileKind) : Option BrutalWire →
    Except PersistError (Option (BandwidthPair × BrutalAcknowledgement) × List String)
  | none => .ok (none, [])
  | some b =>
    if kind ≠ .hysteria2 then
      .error (.invalid ("profile '" ++ shown id ++ "': only Hysteria 2 has a Brutal setting"))
    else if b.upMbps = 0 ∨ b.downMbps = 0 ∨ maxBrutalMbps < b.upMbps ∨ maxBrutalMbps < b.downMbps then
      .error (.invalid ("profile '" ++ shown id ++ "': the Brutal bandwidth is not a plausible pair"))
    else if b.warningRevision ≠ brutalWarningRevision then
      .ok (none, ["profile '" ++ shown id ++ "': Brutal congestion control was turned off because " ++
        "the warning it was accepted under has changed; enable it again to accept the new one"])
    else
      .ok (some (⟨b.upMbps, b.downMbps⟩, ⟨b.warningRevision, b.acknowledgedAtUnix⟩), [])

def decodeProfile (p : ProfileWire) : Except PersistError (ProfileSettings × List String) := do
  let kind ← orError (.invalid ("profile '" ++ shown p.id ++ "' is not one this build defines"))
    (bundledKind p.id)
  let params ← decodeParams p.id p.params
  let (brutal, notes) ← decodeBrutal p.id kind p.brutal
  return (⟨⟨p.id⟩, params, brutal⟩, notes)

def decodeNextProfile (_index : Nat) (read : List (ProfileSettings × List String)) (p : ProfileWire) :
    Except PersistError (ProfileSettings × List String) :=
  if read.any (fun other => other.1.id.name == p.id) then
    .error (.invalid ("profile '" ++ shown p.id ++ "' appears twice"))
  else decodeProfile p

/-- The choice about encrypted DNS. One that is not known is read as the protective default, and the
person is told. -/
def decodeConsent : Option ConsentWire → Option ConsentState × List String
  | none => (none, [])
  | some c =>
    (some (.fromStored c.policy c.disclosedVersion),
      if c.policy = "block" ∨ c.policy = "allow" then []
      else ["the saved encrypted-DNS setting was not recognised, so the default (blocked) applies"])

def atRule (index : Nat) (why : String) : PersistError :=
  .invalid ("rule " ++ toString index ++ ": " ++ why)

/-- A UUID in any of its forms: hyphenated, bare, in braces or as a URN. -/
def parseAnyUuid (text : List Char) : Option (BitVec 128) :=
  if text.length = 32 then (hexNumber 0 text).map (BitVec.ofNat 128)
  else if text.head? = some '{' ∧ text.getLast? = some '}' then parseUuid text.tail.dropLast
  else if "urn:uuid:".toList.isPrefixOf text then parseUuid (text.drop 9)
  else parseUuid text

def decodeMatcher (index : Nat) (kind value : String) : Except PersistError RuleMatcher :=
  match kind with
  | "domain" => .ok (.domain value)
  | "domain_suffix" => .ok (.domainSuffix value)
  | "ip_cidr" =>
    ((IpCidr.parse value).mapError
      (fun _ => atRule index "its address range is not valid")).map .ipCidr
  | "application" =>
    ((plainText value "a program path").mapError
      (fun _ => atRule index "its program path is not allowed")).map (fun _ => .application value)
  | _ => .error (atRule index "it is not a kind of rule a person can add")

def decodeAction (index : Nat) : String → Except PersistError RuleAction
  | "tunnel" => .ok .tunnel
  | "bypass" => .ok .bypass
  | _ => .error (atRule index "it is not an action a person's rule can have")

def decodeRule (index : Nat) (r : RuleWire) : Except PersistError RoutingRule := do
  let uuid ← orError (atRule index "its id is not an id") (parseAnyUuid r.id.toList)
  let matcher ← decodeMatcher index r.kind r.value
  let action ← decodeAction index r.action
  if r.precedence < userRulesStart then
    .error (atRule index "it would outrank the built-in rules")
  else
    (RoutingRule.restoredUser ⟨uuid⟩ matcher action r.precedence).mapError
      (fun _ => atRule index "it is not a rule that can be applied")

def decodeNextRule (index : Nat) (read : List RoutingRule) (r : RuleWire) :
    Except PersistError RoutingRule := do
  let rule ← decodeRule index r
  if read.any (fun other => other.id == rule.id) then
    .error (atRule index "its id is used twice")
  else if read.any (fun other => other.precedence == rule.precedence) then
    .error (atRule index "its precedence is used twice")
  else .ok rule

def decodeRules (rules : List RuleWire) : Except PersistError (List RoutingRule) :=
  if maxUserRules < rules.length then .error (.invalid "more than 128 rules")
  else makeEach decodeNextRule 0 [] rules

theorem decodeRules_restored {wires : List RuleWire} {rules : List RoutingRule}
    (decoded : decodeRules wires = .ok rules) :
    ∀ rule ∈ rules,
      RoutingRule.restoredUser rule.id rule.matcher rule.action rule.precedence = .ok rule := by
  obtain ⟨_, decoded⟩ := refused_ok.mp decoded
  refine makeEach_all (fun index read r rule made => ?_) decoded (List.forall_mem_nil _)
  obtain ⟨_, first, rest⟩ := bind_ok.mp made
  obtain ⟨_, rest⟩ := refused_ok.mp rest
  obtain ⟨_, rest⟩ := refused_ok.mp rest
  cases rest
  obtain ⟨_, _, first⟩ := bind_ok.mp first
  obtain ⟨_, _, first⟩ := bind_ok.mp first
  obtain ⟨_, _, first⟩ := bind_ok.mp first
  obtain ⟨_, first⟩ := refused_ok.mp first
  have restored := mapError_ok first
  have same := ((RoutingRule.build_ok _ _ _ _ _ _).mp (refused_ok.mp restored).2).1
  subst same
  exact restored

section File

variable {Bytes : Type} (serde : SerdeJson Bytes)

def readForm {Form : Type} (expected : String) (read : Json → Option Form) (bytes : Bytes) :
    Except PersistError Form :=
  orError (.malformed (serde.problem expected bytes)) ((serde.parse bytes).toOption.bind read)

def decodeConfig (wire : ConfigWire) : Except PersistError LoadedConfig := do
  let endpoints ← decodeEndpoints display wire.endpoints
  let profiles ← makeEach decodeNextProfile 0 [] wire.profiles
  let consent := decodeConsent wire.encryptedDns
  match decoded : decodeRules wire.rules with
  | .error error => .error error
  | .ok rules => .ok {
      endpoints
      profiles := profiles.map Prod.fst
      encryptedDns := consent.1
      rules
      notes := profiles.flatMap Prod.snd ++ consent.2
      restored := decodeRules_restored decoded }

def decode (bytes : Bytes) : Except PersistError LoadedConfig := do
  if maxConfigLen < serde.len bytes then .error .tooLarge
  else
    let version ← readForm serde "VersionProbe" readVersion bytes
    if version ≠ formatVersion then .error (.unsupportedVersion version)
    else
      let wire ← readForm serde "Wire" ConfigWire.read bytes
      decodeConfig display wire

end File

end Decode

end Persist

end DnetEngine
