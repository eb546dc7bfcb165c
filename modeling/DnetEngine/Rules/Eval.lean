import DnetEngine.Rules.Rule

/-! Which rule applies to a connection. -/

namespace DnetEngine

open Lib

inductive Transport
  | tcp
  | udp
  deriving DecidableEq

/-- A named destination is routed by its name alone. -/
inductive Destination
  | named (name : String)
  | address (ip : IpAddr)
  deriving DecidableEq

/-- One connection, as far as a rule can see it. -/
structure Flow where
  destination : Destination
  port : BitVec 16
  transport : Transport
  application : Option String
  deriving DecidableEq

structure Decision where
  action : RuleAction
  rule : Option RuleId
  reliability : Option Reliability
  deriving DecidableEq

def defaultAction : RuleAction := .tunnel

def dnsPort : BitVec 16 := 53

def encryptedDnsPort : BitVec 16 := 853

/-- An IPv4-mapped address as the IPv4 address it is. -/
def canonical : IpAddr → IpAddr
  | .v6 v6 =>
    match toIpv4Mapped v6 with
    | some v4 => .v4 v4
    | none => .v6 v6
  | .v4 v4 => .v4 v4

def contains (cidr : IpCidr) (ip : IpAddr) : Bool :=
  let hostBits := hostBits (canonical ip)
  match IpCidr.parse (String.ofList (IpCidr.text (canonical ip) hostBits)) with
  | .ok host => cidr.overlaps host && decide (cidr.prefixLen ≤ hostBits)
  | .error _ => false

section Evaluation

-- `str::to_lowercase`, whose Unicode tables no result depends on.
variable (lowercase : String → String)

/-- An image path made comparable. -/
def normalizeApplication (path : String) : String :=
  let slashed := path.toList.map (fun c => if c = '/' then '\\' else c)
  let verbatim := "\\\\?\\".toList
  let stripped := if verbatim.isPrefixOf slashed then slashed.drop verbatim.length else slashed
  lowercase (String.ofList (stripped.rdropWhile (· == '\\')))

def matchesFlow (rule : RoutingRule) (flow : Flow) : Bool :=
  match rule.matcher with
  | .dnsPort => flow.port == dnsPort
  | .encryptedDnsPort => flow.port == encryptedDnsPort
  | .domain pattern =>
    match flow.destination, normalizeDomain pattern with
    | .named name, some pattern => (normalizeDomain name).any (fun name => name == pattern)
    | .named _, none | .address _, _ => false
  | .domainSuffix pattern =>
    match flow.destination, normalizeDomain pattern with
    | .named name, some pattern => (normalizeDomain name).any (fun name => under name pattern)
    | .named _, none | .address _, _ => false
  | .ipCidr cidr =>
    match flow.destination with
    | .address ip => contains cidr ip
    | .named _ => false
  | .application path =>
    flow.application.any (fun app =>
      normalizeApplication lowercase app == normalizeApplication lowercase path)

/-- The rules in the order they are tried: lowest precedence first, ties in the order given. -/
def inOrder (rules : List RoutingRule) : List RoutingRule :=
  sortByKey RoutingRule.precedence rules

def evaluate (rules : List RoutingRule) (flow : Flow) : Decision :=
  match (inOrder rules).find? (fun rule => matchesFlow lowercase rule flow) with
  | none => { action := defaultAction, rule := none, reliability := none }
  | some rule =>
    { action := rule.action, rule := some rule.id, reliability := some rule.reliability }

theorem evaluate_action (rules : List RoutingRule) (flow : Flow) :
    (evaluate lowercase rules flow).action =
      (((inOrder rules).find? (fun rule => matchesFlow lowercase rule flow)).map
        RoutingRule.action).getD defaultAction := by
  unfold evaluate
  cases (inOrder rules).find? (fun rule => matchesFlow lowercase rule flow) <;> rfl

theorem evaluate_lowest (rules : List RoutingRule) (flow : Flow) (rule : RoutingRule)
    (distinct : (rules.map RoutingRule.precedence).Nodup) (member : rule ∈ rules)
    (hit : matchesFlow lowercase rule flow = true)
    (lowest : ∀ other ∈ rules, matchesFlow lowercase other flow = true →
      rule.precedence ≤ other.precedence) :
    (evaluate lowercase rules flow).action = rule.action := by
  have found := (find?_sortByKey RoutingRule.precedence
    (fun rule => matchesFlow lowercase rule flow) rules distinct rule).mpr ⟨member, hit, lowest⟩
  rw [evaluate_action, inOrder, found]
  rfl

theorem evaluate_dns (rules : List RoutingRule) (flow : Flow)
    (valid : validateRuleSet rules = .ok ())
    (protection : validateDnsLeakProtection rules = .ok ()) (port : flow.port = dnsPort) :
    (evaluate lowercase rules flow).action = .capture := by
  obtain ⟨capture, member, captures, lowest⟩ := validateDnsLeakProtection_ok rules protection
  simp only [RoutingRule.isDnsCapture, Bool.and_eq_true, beq_iff_eq] at captures
  have hit : matchesFlow lowercase capture flow = true := by
    simp only [matchesFlow, captures.1, port, BEq.rfl]
  rw [evaluate_lowest lowercase rules flow capture ((validateRuleSet_ok rules).mp valid) member hit
    (fun other present _ => lowest other present), captures.2]

theorem matchesFlow_domain {name : String} (normal : Normalised name) (rule : RoutingRule)
    (flow : Flow) (destination : flow.destination = .named name) (pattern : String)
    (matcher : rule.matcher = .domain pattern) :
    matchesFlow lowercase rule flow = (normalizeDomain pattern == some name) := by
  simp only [matchesFlow, matcher, destination]
  cases normalizeDomain pattern with
  | none => rfl
  | some =>
    have same : normalizeDomain name = some name := normal
    simp only [same, Option.any_some]
    rw [Bool.eq_iff_iff, beq_iff_eq, beq_iff_eq, Option.some_inj]
    exact eq_comm

theorem matchesFlow_domainSuffix {name : String} (normal : Normalised name) (rule : RoutingRule)
    (flow : Flow) (destination : flow.destination = .named name) (pattern : String)
    (matcher : rule.matcher = .domainSuffix pattern) :
    matchesFlow lowercase rule flow = (normalizeDomain pattern).any (under name) := by
  simp only [matchesFlow, matcher, destination]
  cases normalizeDomain pattern with
  | none => rfl
  | some =>
    have same : normalizeDomain name = some name := normal
    simp only [same, Option.any_some]

end Evaluation

theorem contains_eq (cidr : IpCidr) (ip : IpAddr) : contains cidr ip = cidr.holds (canonical ip) := by
  simp only [contains, IpCidr.parse_host, IpCidr.overlaps_host]
  by_cases held : cidr.holds (canonical ip) = true
  · have bound : cidr.prefixLen ≤ hostBits (canonical ip) := by
      obtain ⟨block, prefixLen, bound⟩ := cidr
      cases block with
      | v4 =>
        cases plain : canonical ip with
        | v4 => exact bound
        | v6 => simp [IpCidr.holds, plain] at held
      | v6 =>
        cases plain : canonical ip with
        | v4 => simp [IpCidr.holds, plain] at held
        | v6 => exact bound
    simp [bound]
  · simp [held]

end DnetEngine
