import DnetEngine.Rules.Eval
import Mathlib.Data.List.Find

/-! The rule sections of the primary core's configuration, as they are generated from a rule set
and as the core reads them. -/

namespace DnetEngine

open Lib

def proxyTag : String := "proxy"
def directTag : String := "direct"
def fakeipDns : String := "fakeip"
def localDns : String := "local"

/-- One route rule. A condition that is left empty asks nothing. -/
structure RouteRule where
  domain : List String := []
  domainSuffix : List String := []
  ipCidr : List String := []
  processPath : List String := []
  port : List (BitVec 16) := []
  action : String
  outbound : Option String
  deriving DecidableEq

structure DnsRule where
  domain : List String := []
  domainSuffix : List String := []
  queryType : List String := []
  invert : Bool := false
  action : String
  server : Option String
  deriving DecidableEq

/-- A domain pattern in the form a connection arrives in. -/
def written (pattern : String) : String := (normalizeDomain pattern).getD pattern

def byPrecedence (rules : List RoutingRule) : List RoutingRule :=
  sortByKey RoutingRule.precedence rules

def routeAction : RuleAction → String × Option String
  | .capture => ("hijack-dns", none)
  | .reject => ("reject", none)
  | .bypass => ("route", some directTag)
  | .tunnel => ("route", some proxyTag)

def routeEntry (rule : RoutingRule) : RouteRule :=
  let (action, outbound) := routeAction rule.action
  match rule.matcher with
  | .domain d => { action, outbound, domain := [written d] }
  | .domainSuffix d => { action, outbound, domainSuffix := [written d] }
  | .ipCidr c => { action, outbound, ipCidr := [c.display] }
  | .application p => { action, outbound, processPath := [p] }
  | .dnsPort => { action, outbound, port := [dnsPort] }
  | .encryptedDnsPort => { action, outbound, port := [encryptedDnsPort] }

def routeRules (rules : List RoutingRule) : List RouteRule := (byPrecedence rules).map routeEntry

/-- A refused name gets no answer; a bypassed one is answered by the local resolver. -/
def dnsAction (action : RuleAction) : String × Option String :=
  if action = .reject then ("reject", none) else ("route", some localDns)

def dnsEntry (rule : RoutingRule) : Option DnsRule :=
  let (action, server) := dnsAction rule.action
  match rule.matcher with
  | .domain d => some { domain := [written d], action, server }
  | .domainSuffix d => some { domainSuffix := [written d], action, server }
  | .ipCidr _ | .application _ | .dnsPort | .encryptedDnsPort => none

/-- Only bypassed and refused names have an entry of their own. -/
def decidesLookup (rule : RoutingRule) : Bool :=
  match rule.action with
  | .bypass | .reject => true
  | .tunnel | .capture => false

def addressQueries : List String := ["A", "AAAA"]

def fakeipEntry : DnsRule :=
  { queryType := addressQueries, action := "route", server := some fakeipDns }

/-- The other query types go to the resolver behind the tunnel, or are refused where there is
none. -/
def remainingEntry : Option String → DnsRule
  | some server =>
    { queryType := addressQueries, invert := true, action := "route", server := some server }
  | none => { queryType := addressQueries, invert := true, action := "reject", server := none }

def dnsRules (rules : List RoutingRule) (tunnelResolver : Option String) : List DnsRule :=
  ((byPrecedence rules).filter decidesLookup).filterMap dnsEntry ++
    [fakeipEntry, remainingEntry tunnelResolver]

section Reading

/-- A condition holds if it asks nothing or one of its values is met. -/
def anyOf {Value : Type} (wanted : List Value) (test : Value → Bool) : Bool :=
  wanted.isEmpty || wanted.any test

/-- The name itself or a name that ends in it after a dot. -/
def inSuffix (name suffix : String) : Bool :=
  name == suffix || ('.' :: suffix.toList).isSuffixOf name.toList

def Destination.name? : Destination → Option String
  | .named name => some name
  | .address _ => none

def inBlock (destination : Destination) (cidr : String) : Bool :=
  match destination, IpCidr.parse cidr with
  | .address ip, .ok cidr => cidr.holds ip
  | .address _, .error _ | .named _, _ => false

def RouteRule.holds (rule : RouteRule) (flow : Flow) : Bool :=
  anyOf rule.domain (fun d => flow.destination.name? == some d) &&
  anyOf rule.domainSuffix (fun s => flow.destination.name?.any (fun n => inSuffix n s)) &&
  anyOf rule.ipCidr (inBlock flow.destination) &&
  anyOf rule.processPath (fun p => flow.application == some p) &&
  anyOf rule.port (fun port => flow.port == port)

/-- What the core does where a rule holds. -/
def RouteRule.decision (rule : RouteRule) : RuleAction :=
  if rule.action = "hijack-dns" then .capture
  else if rule.action = "reject" then .reject
  else if rule.outbound = some directTag then .bypass
  else .tunnel

/-- The first rule that holds decides, and the final outbound is the tunnel. -/
def coreDecision (rules : List RouteRule) (flow : Flow) : RuleAction :=
  match rules.find? (fun rule => rule.holds flow) with
  | some rule => rule.decision
  | none => .tunnel

def DnsRule.holds (rule : DnsRule) (name queryType : String) : Bool :=
  (anyOf rule.domain (fun d => name == d) && anyOf rule.domainSuffix (inSuffix name) &&
    anyOf rule.queryType (fun wanted => queryType == wanted)) != rule.invert

def answering (chain : List DnsRule) (name queryType : String) : Option DnsRule :=
  chain.find? (fun rule => rule.holds name queryType)

end Reading

@[simp] theorem anyOf_nil {Value : Type} (test : Value → Bool) : anyOf [] test = true := rfl

@[simp] theorem anyOf_singleton {Value : Type} (value : Value) (test : Value → Bool) :
    anyOf [value] test = test value := by
  simp [anyOf]

theorem inSuffix_eq_under (name suffix : String) : inSuffix name suffix = under name suffix := by
  rw [Bool.eq_iff_iff, under_iff, inSuffix, Bool.or_eq_true, beq_iff_eq,
    List.isSuffixOf_iff_suffix]
  apply or_congr_right
  constructor
  · rintro ⟨head, whole⟩
    exact ⟨head, whole.symm⟩
  · rintro ⟨head, whole⟩
    exact ⟨head, whole.symm⟩

/-- A normalised name is a pattern as written just when it is the pattern normalised: what cannot
be a name is written as it is and matches nothing. -/
theorem eq_written {name : String} (normal : Normalised name) (pattern : String) :
    (name == written pattern) = (normalizeDomain pattern == some name) := by
  unfold written
  cases form : normalizeDomain pattern with
  | some =>
    rw [Bool.eq_iff_iff, beq_iff_eq, beq_iff_eq, Option.some_inj]
    exact eq_comm
  | none =>
    have different : name ≠ pattern := by
      intro same
      rw [← same, normal] at form
      cases form
    rw [Option.getD_none, beq_eq_false_iff_ne.mpr different]
    rfl

theorem inSuffix_written {name : String} (normal : Normalised name) (pattern : String) :
    inSuffix name (written pattern) = (normalizeDomain pattern).any (under name) := by
  rw [inSuffix_eq_under]
  unfold written
  cases form : normalizeDomain pattern with
  | some => rfl
  | none =>
    have unnormal : ¬ Normalised pattern := by
      intro clean
      rw [clean] at form
      cases form
    rw [Option.any_none, Bool.eq_false_iff]
    intro beneath
    rcases (under_iff name pattern).mp beneath with rfl | ⟨head, whole⟩
    · exact unnormal normal
    · exact unnormal (normalised_suffix normal whole)

end DnetEngine
