import DnetEngine.Config.StoredCredentials
import DnetEngine.Ipc.Protocol
import DnetEngine.Rules.EncryptedDns
import Mathlib.Data.List.DropRight

/-! The wire form of a request, which a client writes and the service reads. The reader takes the writer
for hostile: it checks every field, and brings what it accepts into one form. -/

namespace DnetEngine.Ipc

open Lib

def invalid (detail : String) : IpcError := .invalidRequest detail

section Fields

/-- A member that is given; `null` is as good as absent. -/
def optionalField (value : Json) (key : String) : Option Json :=
  match value.get key with
  | none | some .null => none
  | some present => some present

def optionalString (value : Json) (key : String) : Except IpcError (Option String) :=
  match optionalField value key with
  | none => .ok none
  | some (.string text) => .ok (some text)
  | some _ => .error (invalid ("`" ++ key ++ "` must be a string"))

def optionalFlag (value : Json) (key : String) : Except IpcError Bool :=
  match optionalField value key with
  | none => .ok false
  | some (.bool flag) => .ok flag
  | some _ => .error (invalid ("`" ++ key ++ "` must be true or false"))

/-- A field a request cannot do without. -/
def field (value : Json) (key : String) : Except IpcError Json :=
  orError (invalid ("`" ++ key ++ "` is required")) (optionalField value key)

def fieldStr (value : Json) (key : String) : Except IpcError String := do
  let given ← field value key
  orError (invalid ("`" ++ key ++ "` must be a string")) given.asStr

def fieldBool (value : Json) (key : String) : Except IpcError Bool := do
  let given ← field value key
  orError (invalid ("`" ++ key ++ "` must be true or false")) given.asBool

/-- A bandwidth for Brutal, in Mbit/s. Zero on either side would half-enable it. -/
def fieldMbps (value : Json) (key : String) : Except IpcError Nat := do
  let given ← field value key
  orError (invalid ("`" ++ key ++ "` must be a whole number of Mbit/s from 1 to 1000000"))
    (given.asU64.filter (fun n => decide (1 ≤ n ∧ n ≤ maxBrutalMbps)))

def fieldWarningRevision (value : Json) : Except IpcError Nat := do
  let given ← field value "warning_revision"
  orError
    (invalid ("`warning_revision` is not the warning in force; show the current warning and send " ++
      "the revision that was shown"))
    (given.asU64.filter (fun n => decide (n = brutalWarningRevision)))

/-- A request that changes the configuration carries exactly the fields it names. -/
def onlyFields (value : Json) (allowed : List String) : Except IpcError Unit :=
  match value with
  | .object members =>
    if members.any (fun member => !allowed.contains member.1) then
      let takes := allowed.filter (fun key => key != "request")
      .error (invalid ("unknown field; this request takes only: " ++ ", ".intercalate takes))
    else .ok ()
  | .null | .bool _ | .number _ | .float _ | .string _ | .array _ => .ok ()

end Fields

section Values

def maxProfileIdLen : Nat := 64

def isLowerOrDigit (c : Char) : Bool := (decide ('a' ≤ c) && decide (c ≤ 'z')) || c.isDigit

def parseProfileId (raw : String) : Except IpcError ProfileId :=
  let chars := raw.toList
  if !chars.isEmpty && decide (raw.utf8ByteSize ≤ maxProfileIdLen) &&
      chars.all (fun c => isLowerOrDigit c || c == '-') && chars.head? != some '-' &&
      chars.getLast? != some '-' then
    .ok ⟨raw⟩
  else
    .error (invalid ("`profile` must be 1 to 64 lowercase letters, digits or hyphens, not starting " ++
      "or ending with a hyphen"))

/-- Of the forms of a UUID only the hyphenated one has 36 characters. -/
def parseEndpointId (raw : String) : Except IpcError EndpointId :=
  (orError (invalid "`endpoint` must be a UUID in its hyphenated form")
    (parseUuid raw.toList)).map EndpointId.mk

def parseRuleId (raw : String) : Except IpcError RuleId :=
  (orError (invalid "`rule` must be a UUID in its hyphenated form")
    (parseUuid raw.toList)).map RuleId.mk

def changeIdMax : Nat := 32

/-- What names a held change: it can be typed and carries nothing else. -/
def parseChangeId (text : String) : Except IpcError String :=
  if !text.toList.isEmpty && decide (text.utf8ByteSize ≤ changeIdMax) &&
      text.toList.all isLowerOrDigit then
    .ok text
  else
    .error (invalid "`id` must be 1 to 32 lower-case letters and digits, as shown with the change")

/-- `char::is_control`. -/
def isControl (c : Char) : Bool :=
  decide (c.toNat ≤ 0x1f) || (decide (0x7f ≤ c.toNat) && decide (c.toNat ≤ 0x9f))

def inRange (low high : Nat) (c : Char) : Bool := decide (low ≤ c.toNat) && decide (c.toNat ≤ high)

/-- Characters that must not reach a screen: controls, and those that reorder or hide text. -/
def isHostile (c : Char) : Bool :=
  isControl c || inRange 0x202a 0x202e c || inRange 0x2066 0x2069 c || c.toNat == 0x200e ||
    c.toNat == 0x200f || c.toNat == 0x061c || inRange 0x200b 0x200d c || c.toNat == 0xfeff ||
    c.toNat == 0x2028 || c.toNat == 0x2029 || c.toNat == 0x00ad || inRange 0x2060 0x2064 c ||
    inRange 0xe0000 0xe007f c

def maxReportChars : Nat := 32 * 1024

/-- The text a person pastes back from their server. -/
def checkReport (report : String) : Except IpcError Unit :=
  let bad (c : Char) : Bool := isHostile c && !(['\n', '\r', '\t'].contains c)
  if (trim report).isEmpty || decide (maxReportChars < report.length) || report.toList.any bad then
    .error (invalid ("`report` must be the text the server printed, up to 32768 characters, with no " ++
      "control characters"))
  else .ok ()

def ServerKind.asStr : ServerKind → String
  | .amd64 => "amd64"
  | .arm64 => "arm64"

def ServerKind.parse : String → Option ServerKind
  | "amd64" => some .amd64
  | "arm64" => some .arm64
  | _ => none

def maxProgramPath : Nat := 260

def programPath (value : String) : Except IpcError String :=
  let printable := value.toList.all (fun c =>
    !isControl c && !(inRange 0x202a 0x202e c || inRange 0x2066 0x2069 c))
  if (trim value).isEmpty || decide (maxProgramPath < value.length) || !printable then
    .error (invalid "`value` must be a program path of 1 to 260 printable characters")
  else .ok value

def personalMatcher (kind value : String) : Except IpcError RuleMatcher :=
  match kind with
  | "domain" => .ok (.domain value)
  | "domain_suffix" => .ok (.domainSuffix value)
  | "ip_cidr" =>
    ((IpCidr.parse value).mapError
      (fun _ => invalid "`value` must be an address range such as 198.51.100.0/24")).map .ipCidr
  | "application" => (programPath value).map .application
  | _ => .error (invalid "`kind` must be domain, domain_suffix, ip_cidr or application")

def personalAction : String → Except IpcError RuleAction
  | "tunnel" => .ok .tunnel
  | "bypass" => .ok .bypass
  | _ => .error (invalid "`action` must be tunnel or bypass")

/-- A rule a person can make, if the rules themselves would take it. Whether they would depends neither
on the id nor on the precedence, which the service gives later. -/
def personalRule (kind value action : String) : Except IpcError (RuleMatcher × RuleAction) := do
  let matcher ← personalMatcher kind value
  let action ← personalAction action
  let _ ← (RoutingRule.user ⟨0⟩ matcher action userRulesStart).mapError
    (fun _ => invalid "`value` is not a pattern this kind of rule can match")
  return (matcher, action)

/-- What a rule matches, as the `kind` and the `value` of the wire. -/
def ruleWire : RuleMatcher → String × String
  | .domain domain => ("domain", domain)
  | .domainSuffix domain => ("domain_suffix", domain)
  | .ipCidr range => ("ip_cidr", range.display)
  | .application path => ("application", path)
  | .dnsPort => ("dns_port", "53")
  | .encryptedDnsPort => ("encrypted_dns_port", "853")

def actionWire : RuleAction → String
  | .tunnel => "tunnel"
  | .bypass => "bypass"
  | .capture => "capture"
  | .reject => "reject"

/-- A document that is larger than any signed one. -/
def oversized (text : Option String) : Bool :=
  text.any (fun text => decide (envelopeMaxBytes < text.utf8ByteSize))

def FeedImport.new (keys feed : Option String) : Except IpcError FeedImport :=
  if absent : keys = none ∧ feed = none then .error (invalid "give `keys`, `feed`, or both")
  else if largeKeys : oversized keys then
    .error (invalid "`keys` is larger than 262144 bytes, which no signed document is")
  else if largeFeed : oversized feed then
    .error (invalid "`feed` is larger than 262144 bytes, which no signed document is")
  else
    .ok {
      keys, feed
      given := by
        rw [not_and_or] at absent
        simpa [Option.isSome_iff_ne_none] using absent
      small := by
        rintro text (rfl | rfl)
        · simpa [oversized] using largeKeys
        · simpa [oversized] using largeFeed }

end Values

section Codec

variable {Text : Type} (serde : SerdeJson Text)

-- A text as `format!("{:?}")` prints it.
variable (quoted : String → String)

def decodeConnect (value : Json) : Except IpcError Request := do
  let acknowledgeTier2 ← optionalFlag value "acknowledge_tier2"
  let profile ← optionalString value "profile"
  let profile ← profile.mapM parseProfileId
  let endpoint ← optionalString value "endpoint"
  let endpoint ← endpoint.mapM parseEndpointId
  return .connect acknowledgeTier2 profile endpoint

/-- Whether the secret store will take the credentials. -/
def storable (credentials : EndpointCredentials) : Except String Unit :=
  ((credentials.toPlaintextJson serde).mapError CredentialsError.display).map (fun _ => ())

/-- The credentials of a request are in the strict form the service stores them in. -/
def decodeCredentials (value : Json) : Except IpcError EndpointCredentials := do
  let given ← field value "credentials"
  if !given.isObject then .error (invalid "`credentials` must be an object")
  else
    (EndpointCredentials.fromPlaintextJson serde (serde.toText given)).mapError
      (fun error => invalid ("`credentials`: " ++ error.display))

def decodeAddEndpoint (value : Json) : Except IpcError Request := do
  onlyFields value ["request", "label", "host", "credentials"]
  let credentials ← decodeCredentials serde value
  let label ← fieldStr value "label"
  let host ← fieldStr value "host"
  let new ← NewEndpoint.new (storable serde) label host credentials
  return .addEndpoint new

def decodeRemoveEndpoint (value : Json) : Except IpcError Request := do
  onlyFields value ["request", "endpoint"]
  let endpoint ← fieldStr value "endpoint"
  let endpoint ← parseEndpointId endpoint
  return .removeEndpoint endpoint

def decodeSetEndpointEnabled (value : Json) : Except IpcError Request := do
  onlyFields value ["request", "endpoint", "enabled"]
  let endpoint ← fieldStr value "endpoint"
  let endpoint ← parseEndpointId endpoint
  let enabled ← fieldBool value "enabled"
  return .setEndpointEnabled endpoint enabled

def decodeAddRule (value : Json) : Except IpcError Request := do
  onlyFields value ["request", "kind", "value", "action"]
  let kind ← fieldStr value "kind"
  let pattern ← fieldStr value "value"
  let action ← fieldStr value "action"
  let (matcher, action) ← personalRule kind pattern action
  return .addRule matcher action

def decodeRemoveRule (value : Json) : Except IpcError Request := do
  onlyFields value ["request", "rule"]
  let rule ← fieldStr value "rule"
  let rule ← parseRuleId rule
  return .removeRule rule

def decodeEnableBrutal (value : Json) : Except IpcError Request := do
  onlyFields value ["request", "profile", "up_mbps", "down_mbps", "warning_revision"]
  let profile ← fieldStr value "profile"
  let profile ← parseProfileId profile
  let upMbps ← fieldMbps value "up_mbps"
  let downMbps ← fieldMbps value "down_mbps"
  let warningRevision ← fieldWarningRevision value
  return .enableBrutal profile upMbps downMbps warningRevision

def decodeDisableBrutal (value : Json) : Except IpcError Request := do
  onlyFields value ["request", "profile"]
  let profile ← fieldStr value "profile"
  let profile ← parseProfileId profile
  return .disableBrutal profile

def decodeSetEncryptedDnsHandling (value : Json) : Except IpcError Request := do
  onlyFields value ["request", "block"]
  let block ← fieldBool value "block"
  return .setEncryptedDnsHandling block

def decodeImportFeed (value : Json) : Except IpcError Request := do
  onlyFields value ["request", "keys", "feed"]
  let keys ← optionalString value "keys"
  let feed ← optionalString value "feed"
  let documents ← FeedImport.new keys feed
  return .importFeed documents

def decodeFetchFeed (value : Json) : Except IpcError Request := do
  onlyFields value ["request"]
  return .fetchFeed

def decodePrepareServer (value : Json) : Except IpcError Request := do
  onlyFields value ["request", "arch"]
  let arch ← fieldStr value "arch"
  let arch ← orError (invalid "`arch` must be `amd64` or `arm64`") (ServerKind.parse arch)
  return .prepareServer arch

def decodeFinishServer (value : Json) : Except IpcError Request := do
  onlyFields value ["request", "label", "host", "report"]
  let label ← fieldStr value "label"
  let label ← checkLabel label
  let host ← fieldStr value "host"
  let host ← checkHost host
  let report ← fieldStr value "report"
  checkReport report
  return .finishServer label host report

/-- A held change that is named. -/
def decodeChange (make : String → Request) (value : Json) : Except IpcError Request := do
  onlyFields value ["request", "id"]
  let id ← fieldStr value "id"
  let id ← parseChangeId id
  return make id

/-- The request of a name. An unknown one is refused. -/
def decodeNamed (name : String) (value : Json) : Except IpcError Request :=
  match name with
  | "GetVersion" => .ok .getVersion
  | "GetState" => .ok .getState
  | "GetSession" => .ok .getSession
  | "GetPaths" => .ok .getPaths
  | "GetStats" => .ok .getStats
  | "GetComponents" => .ok .getComponents
  | "ListEndpoints" => .ok .listEndpoints
  | "ListProfiles" => .ok .listProfiles
  | "ListRules" => .ok .listRules
  | "GetDiagnostics" => .ok .getDiagnostics
  | "ListPending" => .ok .listPending
  | "Connect" => decodeConnect value
  | "Disconnect" => .ok .disconnect
  | "AddEndpoint" => decodeAddEndpoint serde value
  | "RemoveEndpoint" => decodeRemoveEndpoint value
  | "SetEndpointEnabled" => decodeSetEndpointEnabled value
  | "AddRule" => decodeAddRule value
  | "RemoveRule" => decodeRemoveRule value
  | "SetProfileParams" => .ok .setProfileParams
  | "EnableBrutal" => decodeEnableBrutal value
  | "DisableBrutal" => decodeDisableBrutal value
  | "SetEncryptedDnsHandling" => decodeSetEncryptedDnsHandling value
  | "ImportFeed" => decodeImportFeed value
  | "FetchFeed" => decodeFetchFeed value
  | "PrepareServer" => decodePrepareServer value
  | "FinishServer" => decodeFinishServer value
  | "StartProvisioning" => .ok .startProvisioning
  | "CancelProvisioning" => .ok .cancelProvisioning
  | "ApproveChange" => decodeChange .approveChange value
  | "RejectChange" => decodeChange .rejectChange value
  | "Subscribe" => .ok .subscribe
  | other => .error (invalid ("unknown request " ++ quoted other))

def decodeRequest (wire : Text) : Except IpcError Request := do
  let value ← (serde.fromStr wire).mapError invalid
  let name ← orError (invalid "missing `request`") ((value.get "request").bind Json.asStr)
  decodeNamed serde quoted name value

def Request.name : Request → String
  | .getVersion => "GetVersion"
  | .getState => "GetState"
  | .getSession => "GetSession"
  | .getPaths => "GetPaths"
  | .getStats => "GetStats"
  | .getComponents => "GetComponents"
  | .listEndpoints => "ListEndpoints"
  | .listProfiles => "ListProfiles"
  | .listRules => "ListRules"
  | .getDiagnostics => "GetDiagnostics"
  | .listPending => "ListPending"
  | .connect _ _ _ => "Connect"
  | .disconnect => "Disconnect"
  | .addEndpoint _ => "AddEndpoint"
  | .removeEndpoint _ => "RemoveEndpoint"
  | .setEndpointEnabled _ _ => "SetEndpointEnabled"
  | .addRule _ _ => "AddRule"
  | .removeRule _ => "RemoveRule"
  | .setProfileParams => "SetProfileParams"
  | .enableBrutal _ _ _ _ => "EnableBrutal"
  | .disableBrutal _ => "DisableBrutal"
  | .setEncryptedDnsHandling _ => "SetEncryptedDnsHandling"
  | .importFeed _ => "ImportFeed"
  | .fetchFeed => "FetchFeed"
  | .prepareServer _ => "PrepareServer"
  | .finishServer _ _ _ => "FinishServer"
  | .startProvisioning => "StartProvisioning"
  | .cancelProvisioning => "CancelProvisioning"
  | .approveChange _ => "ApproveChange"
  | .rejectChange _ => "RejectChange"
  | .subscribe => "Subscribe"

/-- The members that a request has besides its name. There are none where the credentials could not be
stored, which the writer takes for impossible. -/
def Request.members : Request → Option (List (String × Option Json))
  | .connect acknowledgeTier2 profile endpoint => some [
      ("acknowledge_tier2", some (.bool acknowledgeTier2)),
      ("profile", some (profile.elim .null (fun id => .string id.name))),
      ("endpoint", some (endpoint.elim .null (fun id => .string id.display)))]
  | .addEndpoint new => do
      let credentials ← (new.credentials.toPlaintextJson serde).toOption
      let value ← (serde.fromStr credentials).toOption
      return [("label", some (.string new.label)), ("host", some (.string new.host)),
        ("credentials", some value)]
  | .removeEndpoint endpoint => some [("endpoint", some (.string endpoint.display))]
  | .setEndpointEnabled endpoint enabled => some [("endpoint", some (.string endpoint.display)),
      ("enabled", some (.bool enabled))]
  | .setEncryptedDnsHandling block => some [("block", some (.bool block))]
  | .prepareServer arch => some [("arch", some (.string arch.asStr))]
  | .finishServer label host report => some [("label", some (.string label)),
      ("host", some (.string host)), ("report", some (.string report))]
  | .enableBrutal profile upMbps downMbps warningRevision => some [
      ("profile", some (.string profile.name)), ("up_mbps", some (.number upMbps)),
      ("down_mbps", some (.number downMbps)), ("warning_revision", some (.number warningRevision))]
  | .addRule matcher action => some [("kind", some (.string (ruleWire matcher).1)),
      ("value", some (.string (ruleWire matcher).2)), ("action", some (.string (actionWire action)))]
  | .removeRule rule => some [("rule", some (.string (displayUuid rule.uuid)))]
  | .approveChange id | .rejectChange id => some [("id", some (.string id))]
  | .disableBrutal profile => some [("profile", some (.string profile.name))]
  | .importFeed documents => some [("keys", documents.keys.map Json.string),
      ("feed", documents.feed.map Json.string)]
  | .getVersion | .getState | .getSession | .getPaths | .getStats | .getComponents | .listEndpoints
  | .listProfiles | .listRules | .getDiagnostics | .listPending | .disconnect | .setProfileParams
  | .fetchFeed | .startProvisioning | .cancelProvisioning | .subscribe => some []

/-- The wire form of a request, the client's half. -/
def encodeRequest (request : Request) : Option Text :=
  (request.members serde).map fun members =>
    serde.toText (.record (("request", some (.string request.name)) :: members))

end Codec

end DnetEngine.Ipc
