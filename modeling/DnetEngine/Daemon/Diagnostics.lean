import DnetEngine.Core.PathMonitor
import DnetEngine.Core.Stored
import DnetEngine.Daemon.Handle
import DnetEngine.Lib.JsonText
import DnetEngine.Lib.LetterCase
import DnetEngine.Rules.EncryptedDns

/-! The diagnostic bundle: what it is made from, the removal of what the person did not opt in to, and
the second look at the finished text. -/

namespace DnetEngine.Diagnostics

open Lib Orchestrator

def bundleVersion : Nat := 1

def productVersion : String := "0.1.0"

def protocolVersion : Nat := 1

def maxListed : Nat := 64

structure Options where
  endpointAddresses : Bool := false
  rulePatterns : Bool := false
  networkNames : Bool := false

structure PathView where
  kind : PathKind
  name : Option String
  role : PathRole
  measured : Bool
  band : Option QualityBand
  rtt : Option Duration
  jitter : Option Duration
  loss : Option Float

structure PathsSnapshot where
  paths : List PathView
  degradation : Option Degradation

structure StatsSummary where
  connectedFor : Duration
  networkChanges : Nat
  changesThatDropConnections : Nat
  methodSwitches : Nat
  endpointSwitches : Nat
  degradedPeriods : Nat
  longestDegraded : Duration

structure Facts where
  generatedUnixMs : Nat
  state : StateSnapshot
  profiles : List ConnectionProfile
  endpoints : List StoredEndpoint
  rules : List RoutingRule
  encryptedDns : Policy
  paths : Option PathsSnapshot
  stats : Option StatsSummary
  recoveryOk : Bool
  configRefused : Bool
  connectingAvailable : Bool

section Names

def statusName : ConnectionStatus → String
  | .disconnected => "Disconnected"
  | .probing => "Probing"
  | .connected => "Connected"
  | .failed => "Failed"

def tierName : FailoverTier → String
  | .tier1 => "Tier1"
  | .tier2 => "Tier2"

def coreName : CoreBinding → String
  | .primaryCore => "PrimaryCore"
  | .amneziaWgCore => "AmneziaWgCore"

def healthName : HealthState → String
  | .unknown => "Unknown"
  | .healthy => "Healthy"
  | .degraded => "Degraded"
  | .unreachable => "Unreachable"

def actionName : RuleAction → String
  | .tunnel => "Tunnel"
  | .bypass => "Bypass"
  | .capture => "Capture"
  | .reject => "Reject"

def reliabilityName : Reliability → String
  | .deterministic => "Deterministic"
  | .bestEffort => "BestEffort"

def pathKindName : PathKind → String
  | .wifi => "Wifi"
  | .cellular => "Cellular"
  | .ethernet => "Ethernet"
  | .other => "Other"

def roleName : PathRole → String
  | .carrying => "Carrying"
  | .standby => "Standby"
  | .unusable => "Unusable"

def bandName : QualityBand → String
  | .unusable => "Unusable"
  | .poor => "Poor"
  | .good => "Good"

def noMoveName : NoMove → String
  | .onlyPath => "OnlyPath"
  | .noBetterPath => "NoBetterPath"
  | .proving => "Proving"
  | .dwell => "Dwell"
  | .budget => "Budget"

def warningName : Warning → String
  | .tier2ProfileActive => "Tier2ProfileActive"
  | .brutalEnabled => "BrutalEnabled"
  | .encryptedDnsOverridden => "EncryptedDnsOverridden"

def posture : RoutingPosture → String
  | .failClosed => "FailClosed"
  | .tunnelled tier => "Tunnelled(" ++ tierName tier ++ ")"

def matcherKind : RuleMatcher → String
  | .domain _ => "Domain"
  | .domainSuffix _ => "DomainSuffix"
  | .ipCidr _ => "IpCidr"
  | .application _ => "Application"
  | .dnsPort => "DnsPort"
  | .encryptedDnsPort => "EncryptedDnsPort"

def addrText (addr : IpAddr) : String := String.ofList (printIpAddr addr)

/-- A matcher as `{:?}` shows it; `quoted` shows a string. -/
def matcherText (quoted : String → String) : RuleMatcher → String
  | .domain pattern => "Domain(" ++ quoted pattern ++ ")"
  | .domainSuffix pattern => "DomainSuffix(" ++ quoted pattern ++ ")"
  | .ipCidr range => "IpCidr(IpCidr \x7b addr: " ++ addrText range.addr ++ ", prefix_len: " ++
      toString range.prefixLen ++ " \x7d)"
  | .application path => "Application(" ++ quoted path ++ ")"
  | .dnsPort => "DnsPort"
  | .encryptedDnsPort => "EncryptedDnsPort"

end Names

section Build

def count (n : Nat) : Json := .number n

def orNull (value : Option Json) : Json := value.getD .null

def cut (list : List Json) : Json :=
  if list.length ≤ maxListed then .array list
  else .array (list.take maxListed ++ [.object [("left_out", count (list.length - maxListed))]])

/-- A double; what is not finite is no number of JSON. -/
def double (x : Float) : Json := if x.isFinite then .float x.toBits else .null

def millis (duration : Duration) : Json :=
  double ((duration.asSecsF64 * 10000.0).round / 10.0)

def failure : Option FailureCause → Json
  | none => .null
  | some (.configurationInvalid detail) =>
    .object [("cause", .string "ConfigurationInvalid"), ("detail", .string detail)]
  | some (.coreFailedPersistently core) =>
    .object [("cause", .string "CoreFailedPersistently"), ("core", .string (coreName core))]
  | some .noEndpointReachable => .object [("cause", .string "NoEndpointReachable")]
  | some .allProfilesBlocked => .object [("cause", .string "AllProfilesBlocked")]
  | some .captivePortalUnsatisfied => .object [("cause", .string "CaptivePortalUnsatisfied")]
  | some .insufficientPrivilege => .object [("cause", .string "InsufficientPrivilege")]
  | some .noUsablePath => .object [("cause", .string "NoUsablePath")]

def addressText (address : EndpointAddress) : String :=
  address.host ++ ":" ++ toString address.port.toNat

def endpoint (options : Options) (e : StoredEndpoint) : Json :=
  let (origin, resources) := match e.origin with
    | .manual => ("Manual", 0)
    | .provisioned _ _ resourceIds => ("Provisioned", resourceIds.length)
  .object ([("id", .string (displayUuid e.id.uuid)), ("enabled", .bool e.enabled),
      ("health", .string (healthName e.health.state)), ("origin", .string origin),
      ("cloud_resources", count resources)] ++
    if options.endpointAddresses then
      [("address", .string (addressText e.address)), ("label", .string e.label)]
    else [])

def rule (quoted : String → String) (options : Options) (r : RoutingRule) : Json :=
  .object ([("precedence", count r.precedence), ("action", .string (actionName r.action)),
      ("reliability", .string (reliabilityName r.reliability)), ("builtin", .bool r.builtin),
      ("matches", .string (matcherKind r.matcher))] ++
    if options.rulePatterns && !r.builtin then
      [("pattern", .string (matcherText quoted r.matcher))]
    else [])

def path (options : Options) (p : PathView) : Json :=
  .object ([("kind", .string (pathKindName p.kind)), ("role", .string (roleName p.role)),
      ("measured", .bool p.measured)] ++
    -- An unmeasured network claims nothing.
    (if p.measured then
      [("quality", orNull (p.band.map fun band => .string (bandName band))),
        ("rtt_ms", orNull (p.rtt.map millis)), ("jitter_ms", orNull (p.jitter.map millis)),
        ("loss", orNull (p.loss.map double))]
    else []) ++
    if options.networkNames then [("name", orNull (p.name.map Json.string))] else [])

def paths (options : Options) (snapshot : PathsSnapshot) : Json :=
  .object [("paths", cut (snapshot.paths.map (path options))),
    ("degraded", orNull (snapshot.degradation.map fun d =>
      .object [("quality", .string (bandName d.band)), ("staying", .string (noMoveName d.staying))]))]

def asSecs (duration : Duration) : Nat := duration / 1000000000

def stats (s : StatsSummary) : Json :=
  .object [("connected_for_secs", count (asSecs s.connectedFor)),
    ("network_changes", count s.networkChanges),
    ("changes_that_drop_connections", count s.changesThatDropConnections),
    ("method_switches", count s.methodSwitches), ("endpoint_switches", count s.endpointSwitches),
    ("degraded_periods", count s.degradedPeriods),
    ("longest_degraded_secs", count (asSecs s.longestDegraded))]

/-- How many rules have each action; an action no rule has is left out. -/
def byAction (rules : List RoutingRule) : Json :=
  .object (([.bypass, .capture, .reject, .tunnel] : List RuleAction).filterMap fun action =>
    let number := (rules.filter fun r => r.action == action).length
    if number = 0 then none else some (actionName action, count number))

def ruleCounts (rules : List RoutingRule) : Json :=
  .object [("total", count rules.length),
    ("builtin", count (rules.filter RoutingRule.builtin).length),
    ("user", count (rules.filter fun r => !r.builtin).length),
    ("best_effort", count (rules.filter fun r => decide (r.reliability = .bestEffort)).length),
    ("by_action", byAction rules)]

def connection (state : StateSnapshot) : Json :=
  .object [("status", .string (statusName state.status)), ("posture", .string (posture state.posture)),
    ("active_profile", orNull (state.activeProfile.map fun p =>
      .object [("id", .string p.id), ("kind", .string p.kind), ("tier", .string (tierName p.tier))])),
    ("active_endpoint", orNull (state.activeEndpoint.map fun e =>
      .object [("id", .string (displayUuid e.id.uuid))])),
    ("failure", failure state.failure),
    ("warnings", .array (state.warnings.map fun w => .string (warningName w)))]

def profile (p : ConnectionProfile) : Json :=
  .object [("id", .string p.id.name), ("kind", .string (kindName p.kind)),
    ("tier", .string (tierName p.tier))]

def build (quoted : String → String) (facts : Facts) (options : Options) : Json :=
  .object [("bundle_version", count bundleVersion), ("generated_unix_ms", count facts.generatedUnixMs),
    ("product_version", .string productVersion), ("protocol_version", count protocolVersion),
    ("service", .object [("recovery", .string (if facts.recoveryOk then "ok" else "failed")),
      ("configuration", .string (if facts.configRefused then "refused" else "ok")),
      ("connecting_available", .bool facts.connectingAvailable)]),
    ("connection", connection facts.state), ("profiles", cut (facts.profiles.map profile)),
    ("endpoints", cut (facts.endpoints.map (endpoint options))),
    ("rules", .object [("counts", ruleCounts facts.rules),
      ("list", cut (facts.rules.map (rule quoted options)))]),
    ("encrypted_dns", .string (match facts.encryptedDns with
      | .block => "blocked"
      | .allow => "allowed")),
    ("networks", orNull (facts.paths.map (paths options))),
    ("session", orNull (facts.stats.map stats))]

end Build

section Redaction

def endpointValues (e : StoredEndpoint) : List String :=
  [e.address.host, addressText e.address, e.label]

def matcherValues : RuleMatcher → List String
  | .domain pattern | .domainSuffix pattern | .application pattern => [pattern]
  | .ipCidr range => [range.display, addrText range.addr]
  | .dnsPort | .encryptedDnsPort => []

/-- Longest first, and among equally long ones by their text. -/
def goesBefore (one two : String) : Bool :=
  decide (two.utf8ByteSize < one.utf8ByteSize) ||
    (decide (one.utf8ByteSize = two.utf8ByteSize) && decide (one ≤ two))

/-- What must not appear in a bundle: everything sensitive, minus what the person opted in to. -/
def sensitiveValues (facts : Facts) (options : Options) : List String :=
  let values :=
    (if options.endpointAddresses then [] else facts.endpoints.flatMap endpointValues) ++
    (if options.rulePatterns then []
      else (facts.rules.filter fun r => !r.builtin).flatMap fun r => matcherValues r.matcher) ++
    (if options.networkNames then []
      else (facts.paths.map fun snapshot => snapshot.paths.filterMap PathView.name).getD [])
  ((values.filter fun value => decide (3 ≤ value.length)).mergeSort goesBefore).destutter (· ≠ ·)

def isAscii (text : Text) : Bool := text.all fun c => decide (c.toNat < 128)

def hits (text value : Text) : Bool :=
  if isAscii value then (value.map Char.toLower).isPrefixOf (text.map Char.toLower)
  else value.isPrefixOf text

def removed : Text := "<removed>".toList

/-- The text with every occurrence of a value replaced; `skip` is what is left of one that was. -/
def scrubFrom (values : List Text) : (skip : Nat) → Text → Text
  | _, [] => []
  | skip + 1, _ :: rest => scrubFrom values skip rest
  | 0, c :: rest =>
    match values.find? (hits (c :: rest)) with
    | some value => removed ++ scrubFrom values (value.length - 1) rest
    | none => c :: scrubFrom values 0 rest

def scrub (values : List String) (text : String) : String :=
  String.ofList (scrubFrom (values.map String.toList) 0 text.toList)

mutual

/-- Every string value is scrubbed; keys are not. -/
def redact (values : List String) : Json → Json
  | .string text => .string (scrub values text)
  | .array items => .array (redactItems values items)
  | .object members => .object (redactMembers values members)
  | .null => .null
  | .bool flag => .bool flag
  | .number n => .number n
  | .float bits => .float bits

def redactItems (values : List String) : List Json → List Json
  | [] => []
  | item :: rest => redact values item :: redactItems values rest

def redactMembers (values : List String) : List (String × Json) → List (String × Json)
  | [] => []
  | (name, value) :: rest => (name, redact values value) :: redactMembers values rest

end

def refusal : Json :=
  .object [("bundle_version", count bundleVersion),
    ("error", .string "the diagnostic bundle could not be made safely")]

variable (printer : JsonPrinter) (tables : CaseTables) (quoted : String → String)

def redacted (facts : Facts) (options : Options) : Json :=
  redact (sensitiveValues facts options) (build quoted facts options)

def secondLook (values : List String) (text : Text) : Bool :=
  values.any fun value => containsText (tables.toLowercase value.toList) (tables.toLowercase text)

/-- The bundle that is sent: a leak that the second look finds is a defect of the redaction, and better
refused than sent. -/
def rendered (facts : Facts) (options : Options) : Json :=
  if secondLook tables (sensitiveValues facts options)
      (printer.toText (redacted quoted facts options)) then refusal
  else redacted quoted facts options

def render (facts : Facts) (options : Options) : Text :=
  printer.toText (rendered printer tables quoted facts options)

end Redaction

section Naming

def Names (bundle : Json) (value : String) : Prop :=
  ∃ text ∈ bundle.strings, ContainsIgnoringCase value.toList text.toList

/-- The value may be in a text without its lower case being in that of the text's JSON: a character of
it is escaped there, or is lowered by what stands around it. -/
def Veiled (value : String) : Prop :=
  (∃ c ∈ value.toList, escapeChar c ≠ [c]) ∨ capitalSigma ∈ value.toList

variable (printer : JsonPrinter) (tables : CaseTables) (quoted : String → String) (facts : Facts)
  (options : Options)

def NamesNothing : Prop :=
  rendered printer tables quoted facts options = refusal ∨
    ∀ value ∈ sensitiveValues facts options,
      ¬ Names (rendered printer tables quoted facts options) value

/-- A character that JSON leaves as it is stays so in the other case. -/
theorem escapeChar_sameLower {c d : Char} (same : c.toLower = d.toLower) (plain : escapeChar c = [c]) :
    escapeChar d = [d] := by
  rcases toLower_eq same with rfl | ⟨_, _, low, high, _, slash⟩
  · exact plain
  · rcases escapeChar_cases d with ⟨letter, listed, _⟩ | ⟨control, _⟩ | ⟨_, _, _, isPlain⟩
    · have listedRange : ∀ pair ∈ shortEscapes, pair.1.toNat < 65 ∨ pair.1.toNat = 92 := by decide
      have range : d.toNat < 65 ∨ d.toNat = 92 := listedRange _ listed
      omega
    · omega
    · exact isPlain

theorem escape_plain {text : Text} (plain : ∀ c ∈ text, escapeChar c = [c]) : escape text = text := by
  induction text with
  | nil => rfl
  | cons c _ ih =>
    rw [escape, List.flatMap_cons, plain c List.mem_cons_self]
    exact congrArg (c :: ·) (ih fun other member => plain other (List.mem_cons_of_mem _ member))

theorem secondLook_of_names {bundle : Json} {values : List String} {value : String}
    (listed : value ∈ values) (visible : ¬ Veiled value) (named : Names bundle value) :
    secondLook tables values (printer.toText bundle) = true := by
  obtain ⟨text, member, contains⟩ := named
  obtain ⟨found, ⟨before, after, inside⟩, same⟩ := List.infix_map_iff.mp contains
  have plain : ∀ c ∈ value.toList, escapeChar c = [c] := by
    intro c inValue
    by_contra escaped
    exact visible (.inl ⟨c, inValue, escaped⟩)
  have foundPlain : ∀ c ∈ found, escapeChar c = [c] :=
    forall_of_sameLower (fun c d => escapeChar_sameLower) same plain
  have noSigma : ∀ c ∈ value.toList, c ≠ capitalSigma := by
    rintro c inValue rfl
    exact visible (.inr inValue)
  have foundNoSigma : ∀ c ∈ found, c ≠ capitalSigma := by
    apply forall_of_sameLower ?_ same noSigma
    rintro c d lowered other rfl
    rcases toLower_eq lowered with equal | ⟨_, _, _, high, _⟩
    · exact other equal
    · revert high
      decide
  -- The occurrence stands in the text as it is.
  have escaped : found <:+: printString text := by
    rw [printString, ← inside]
    refine ⟨'"' :: escape before, escape after ++ ['"'], ?_⟩
    have same := escape_plain foundPlain
    rw [escape] at same
    simp [same, escape]
  have inText := escaped.trans (printer.toText_string bundle text member)
  have lowered := tables.infix_toLowercase (fun member => foundNoSigma _ member rfl) inText
  rw [← tables.flatMap_lower same,
    ← tables.toLowercase_plain fun member => noSigma _ member rfl] at lowered
  exact List.any_eq_true.mpr ⟨value, listed, containsText_iff.mpr lowered⟩

theorem redacted_ne_refusal : redacted quoted facts options ≠ refusal := by
  intro same
  simp [redacted, build, redact, redactMembers, refusal] at same

/-- The names of the bundle's parts, which the redaction leaves. -/
def bundleKeys : List String :=
  ["bundle_version", "generated_unix_ms", "product_version", "protocol_version", "service",
    "connection", "profiles", "endpoints", "rules", "encrypted_dns", "networks", "session"]

theorem redactMembers_names {values : List String} {members : List (String × Json)} {name : String}
    (listed : name ∈ members.map Prod.fst) :
    name ∈ Json.stringsOfMembers (redactMembers values members) := by
  induction members with
  | nil => cases listed
  | cons first rest ih =>
    rw [redactMembers, Json.stringsOfMembers, List.mem_cons, List.mem_append]
    rcases List.mem_cons.mp listed with same | later
    · exact .inl same
    · exact .inr (.inr (ih later))

section Concrete

/-- The letters of ASCII alone. -/
def asciiTables : CaseTables := ⟨fun c => [c.toLower], Char.isAlpha, fun _ => false, fun _ _ => rfl⟩

def cafeRule : RoutingRule :=
  ⟨⟨0⟩, .application "C:\\Café\\x.exe", .tunnel, 200, false⟩

/-- A person's rule for a program, and a failure whose text has the program's path in another case. -/
def cafeFacts : Facts where
  generatedUnixMs := 0
  state := { status := .failed
             failure := some (.configurationInvalid "not found: c:\\café\\x.exe") }
  profiles := []
  endpoints := []
  rules := [cafeRule]
  encryptedDns := .block
  paths := none
  stats := none
  recoveryOk := true
  configRefused := false
  connectingAvailable := true

/-- A person's rule for a site with the name of one of the bundle's parts. -/
def sessionFacts : Facts :=
  { cafeFacts with rules := [⟨⟨0⟩, .domain "session", .tunnel, 200, false⟩] }

end Concrete

end Naming

end DnetEngine.Diagnostics
