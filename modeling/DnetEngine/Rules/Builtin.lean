import DnetEngine.Rules.Eval

/-! The product's own rules, and the rule set a tunnel to an endpoint is made from. -/

namespace DnetEngine

open Lib

structure EndpointAddress where
  host : String
  port : BitVec 16
  hostNamed : host.toList.all isWhitespace = false
  portSet : port ≠ 0
  deriving DecidableEq

def EndpointAddress.new (host : String) (port : BitVec 16) : Except DomainError EndpointAddress :=
  if hostNamed : host.toList.all isWhitespace = false then
    if portSet : port = 0 then .error .zeroPort
    else .ok { host, port, hostNamed, portSet }
  else .error .emptyHost

def localBypassCidrs : List String :=
  ["10.0.0.0/8", "172.16.0.0/12", "192.168.0.0/16", "169.254.0.0/16", "224.0.0.0/4", "fe80::/10",
    "ff00::/8"]

def captivePortalProbeSuffixes : List String := ["msftconnecttest.com", "msftncsi.com"]

def amneziawgOriginHost : String := "10.66.0.1"
def sessionOriginHost : String := "10.9.0.254"

def tunnelOriginHosts : List String := [amneziawgOriginHost, sessionOriginHost]

/-- Where the encrypted-DNS block begins, after every built-in bypass. -/
def firstPrecedence : Nat := 100

/-- The bypass of an endpoint given by address goes by address: a name never matches raw traffic. -/
def endpointMatcher (addr : EndpointAddress) : RuleMatcher :=
  match parseIpAddr addr.host.toList with
  | some ip =>
    .ipCidr (expect (IpCidr.parse (String.ofList (IpCidr.text ip (hostBits ip))))
      (by rw [IpCidr.parse_host]; rfl))
  | none => .domain addr.host

/-- The built-in matchers after DNS capture, in the order they are tried. -/
def orderedBuiltins (activeEndpoint : Option EndpointAddress) : List (RuleMatcher × RuleAction) :=
  (activeEndpoint.map (fun e => (endpointMatcher e, RuleAction.bypass))).toList ++
  tunnelOriginHosts.pmap
    (fun host valid => (.ipCidr (expect (IpCidr.parse (host ++ "/32")) valid), .tunnel))
    (by decide) ++
  localBypassCidrs.pmap
    (fun c valid => (.ipCidr (expect (IpCidr.parse c) valid), .bypass)) (by decide) ++
  captivePortalProbeSuffixes.map (fun s => (.domainSuffix s, .bypass))

/-- The built-in rules for the active endpoint; the `n`-th gets the id `fresh n`. An error is the
panic of the source, where a rule it expects to be valid is refused. -/
def builtinRules (fresh : Nat → RuleId) (activeEndpoint : Option EndpointAddress) :
    Except DomainError (List RoutingRule) := do
  let capture ← RoutingRule.builtinRule (fresh 0) .dnsPort .capture 0
  let others ← ((orderedBuiltins activeEndpoint).zipIdx 1).mapM (fun ((matcher, action), precedence) =>
    RoutingRule.builtinRule (fresh precedence) matcher action precedence)
  .ok (capture :: others)

def describe (rule : RoutingRule) : String :=
  match rule.matcher with
  | .encryptedDnsPort => "encrypted DNS block (port 853)"
  | .dnsPort => "DNS capture (port 53)"
  | .ipCidr c => "bypass " ++ c.display
  | .domain d => "bypass " ++ d
  | .domainSuffix d => "bypass *." ++ d
  | .application p => "application " ++ p

/-- Refuse a rule set that has lost a built-in rule. -/
def validateBuiltinRulesPresent (fresh : Nat → RuleId) (rules : List RoutingRule)
    (activeEndpoint : Option EndpointAddress) : Except DomainError Unit := do
  let required ← builtinRules fresh activeEndpoint
  let present (expected : RoutingRule) : Bool := rules.any (fun r =>
    r.builtin && r.matcher == expected.matcher && r.action == expected.action)
  match required.find? (fun expected => !present expected) with
  | some missing => .error (.builtinRuleMissing (describe missing))
  | none => .ok ()

/-- A built-in rule moves down to make room for the endpoint's bypass. -/
def makeRoom (rule : RoutingRule) : RoutingRule :=
  if rule.builtin && !rule.isDnsCapture &&
      decide (1 ≤ rule.precedence ∧ rule.precedence < firstPrecedence) then
    rule.renumbered (rule.precedence + 1)
  else rule

/-- The rule set a tunnel to `endpoint` is made from: `rules` and the bypass of the endpoint, which
gets the id `fresh 0`. -/
def withActiveEndpoint (fresh : Nat → RuleId) (rules : List RoutingRule)
    (endpoint : EndpointAddress) : Except DomainError (List RoutingRule) :=
  let matcher := endpointMatcher endpoint
  if rules.any (fun r => r.builtin && r.action == .bypass && r.matcher == matcher) then .ok rules
  else
    let moved := rules.map makeRoom
    if moved.any (fun r => r.builtin && r.action == .bypass &&
        decide (firstPrecedence ≤ r.precedence)) then
      .error (.precedenceCollision firstPrecedence)
    else do
      let bypass ← RoutingRule.builtinRule (fresh 0) matcher .bypass 1
      let out := moved ++ [bypass]
      validateRuleSet out
      validateDnsLeakProtection out
      validateBuiltinRulesPresent (fun n => fresh (n + 1)) out (some endpoint)
      .ok out

theorem precedences_of_built (fresh : Nat → RuleId)
    (ordered : List ((RuleMatcher × RuleAction) × Nat)) (rules : List RoutingRule)
    (built : List.Forall₂ (fun item rule =>
      RoutingRule.builtinRule (fresh item.2) item.1.1 item.1.2 item.2 = .ok rule) ordered rules) :
    rules.map RoutingRule.precedence = ordered.map Prod.snd := by
  induction built with
  | nil => rfl
  | cons first _ ih =>
    rw [List.map_cons, List.map_cons, ih, ((RoutingRule.build_ok _ _ _ _ _ _).mp first).1]

variable {fresh : Nat → RuleId} {activeEndpoint : Option EndpointAddress} {rules : List RoutingRule}

theorem builtinRules_precedences (made : builtinRules fresh activeEndpoint = .ok rules) :
    rules.map RoutingRule.precedence =
      List.range' 0 ((orderedBuiltins activeEndpoint).length + 1) := by
  obtain ⟨capture, first, rest⟩ := bind_ok.mp made
  obtain ⟨others, later, whole⟩ := bind_ok.mp rest
  cases whole
  have numbered := precedences_of_built fresh _ others (mapM_ok _ _ _ later)
  rw [List.map_cons, numbered, List.zipIdx_map_snd, ((RoutingRule.build_ok _ _ _ _ _ _).mp first).1]
  rfl

theorem orderedBuiltins_not_reject (activeEndpoint : Option EndpointAddress) :
    ∀ item ∈ orderedBuiltins activeEndpoint, item.2 ≠ .reject := by
  intro item member
  unfold orderedBuiltins at member
  simp only [List.mem_append, Option.mem_toList, Option.map_eq_some_iff, List.mem_pmap,
    List.mem_map] at member
  rcases member with ((⟨_, _, rfl⟩ | ⟨_, _, rfl⟩) | ⟨_, _, rfl⟩) | ⟨_, _, rfl⟩ <;> nofun

theorem mem_builtinRules (made : builtinRules fresh activeEndpoint = .ok rules) :
    ∀ rule ∈ rules, rule.builtin = true ∧ rule.action ≠ .reject := by
  obtain ⟨capture, first, rest⟩ := bind_ok.mp made
  obtain ⟨others, later, whole⟩ := bind_ok.mp rest
  cases whole
  intro rule member
  rcases List.mem_cons.mp member with rfl | member
  · rw [((RoutingRule.build_ok _ _ _ _ _ _).mp first).1]
    exact ⟨rfl, nofun⟩
  · obtain ⟨item, listed, built⟩ := mem_of_forall₂ (mapM_ok _ _ _ later) member
    rw [((RoutingRule.build_ok _ _ _ _ _ _).mp built).1]
    exact ⟨rfl, orderedBuiltins_not_reject _ _ (List.fst_mem_of_mem_zipIdx listed)⟩

theorem withActiveEndpoint_ok {result : List RoutingRule} {endpoint : EndpointAddress}
    (made : withActiveEndpoint fresh rules endpoint = .ok result) :
    (result = rules ∧ ∃ rule ∈ rules, rule.builtin = true ∧ rule.action = .bypass ∧
        rule.matcher = endpointMatcher endpoint) ∨
      ∃ bypass, RoutingRule.builtinRule (fresh 0) (endpointMatcher endpoint) .bypass 1 = .ok bypass ∧
        result = rules.map makeRoom ++ [bypass] ∧ validateRuleSet result = .ok () ∧
        validateDnsLeakProtection result = .ok () := by
  unfold withActiveEndpoint at made
  dsimp only at made
  split at made
  next held =>
    simp only [List.any_eq_true, Bool.and_eq_true, beq_iff_eq, and_assoc] at held
    cases made
    exact Or.inl ⟨rfl, held⟩
  next =>
    obtain ⟨_, made⟩ := refused_ok.mp made
    obtain ⟨bypass, built, rest⟩ := bind_ok.mp made
    obtain ⟨_, valid, rest⟩ := bind_ok.mp rest
    obtain ⟨_, protection, rest⟩ := bind_ok.mp rest
    obtain ⟨_, _, rest⟩ := bind_ok.mp rest
    cases rest
    exact Or.inr ⟨bypass, built, rfl, valid, protection⟩

/-- Traffic to port 53 is always captured, also once the rules are those of a tunnel. -/
theorem dns_always_captured (lowercase : String → String) (rules : List RoutingRule) (flow : Flow)
    (valid : validateRuleSet rules = .ok ())
    (protection : validateDnsLeakProtection rules = .ok ()) (port : flow.port = dnsPort) :
    (evaluate lowercase rules flow).action = .capture ∧
      ∀ (fresh : Nat → RuleId) (endpoint : EndpointAddress) (result : List RoutingRule),
        withActiveEndpoint fresh rules endpoint = .ok result →
          (evaluate lowercase result flow).action = .capture := by
  refine ⟨evaluate_dns lowercase rules flow valid protection port, ?_⟩
  intro fresh endpoint result made
  rcases withActiveEndpoint_ok made with ⟨rfl, _⟩ | ⟨_, _, _, validResult, protectionResult⟩
  · exact evaluate_dns lowercase result flow valid protection port
  · exact evaluate_dns lowercase result flow validResult protectionResult port

theorem dns_always_captured_connected :
    let fresh : Nat → RuleId := fun n => ⟨BitVec.ofNat 128 n⟩
    let flow : Flow := ⟨.named "one.example", 53, .udp, none⟩
    ∃ (rules result : List RoutingRule) (endpoint : EndpointAddress),
      builtinRules fresh none = .ok rules ∧
        withActiveEndpoint fresh rules endpoint = .ok result ∧ result ≠ rules ∧
        (evaluate id rules flow).action = .capture ∧
        (evaluate id result flow).action = .capture := by
  intro fresh flow
  let rules := expect (builtinRules fresh none) (by decide)
  let endpoint := expect (EndpointAddress.new "203.0.113.9" 8443) (by decide)
  let result := expect (withActiveEndpoint fresh rules endpoint) (by decide)
  have made : withActiveEndpoint fresh rules endpoint = .ok result := by decide
  have captured := dns_always_captured id rules flow (by decide) (by decide) rfl
  exact ⟨rules, result, endpoint, by decide, made, by decide, captured.1,
    captured.2 fresh endpoint result made⟩

end DnetEngine
