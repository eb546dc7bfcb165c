import DnetEngine.Config.Primary

/-! The core enforces the decision that the product explains. -/

namespace DnetEngine

open Lib

/-- An address that is not an IPv4 address written as an IPv6 one. -/
def Unmapped : IpAddr → Prop
  | .v4 _ => True
  | .v6 addr => toIpv4Mapped addr = none

/-- A destination the core and the product see in the same form. -/
def Plain : Destination → Prop
  | .named name => Normalised name
  | .address ip => Unmapped ip

instance : (ip : IpAddr) → Decidable (Unmapped ip)
  | .v4 _ => inferInstanceAs (Decidable True)
  | .v6 addr => inferInstanceAs (Decidable (toIpv4Mapped addr = none))

instance : (destination : Destination) → Decidable (Plain destination)
  | .named name => inferInstanceAs (Decidable (Normalised name))
  | .address ip => inferInstanceAs (Decidable (Unmapped ip))

theorem canonical_of_unmapped {ip : IpAddr} (plain : Unmapped ip) : canonical ip = ip := by
  cases ip with
  | v4 => rfl
  | v6 addr =>
    have unmapped : toIpv4Mapped addr = none := plain
    simp only [canonical, unmapped]

theorem inBlock_display (cidr : IpCidr) {ip : IpAddr} (plain : Unmapped ip) :
    inBlock (.address ip) cidr.display = contains cidr ip := by
  simp only [inBlock, IpCidr.parse_display, contains_eq, canonical_of_unmapped plain]

theorem decision_routeEntry (rule : RoutingRule) : (routeEntry rule).decision = rule.action := by
  obtain ⟨id, matcher, action, precedence, builtin⟩ := rule
  cases matcher <;> cases action <;> rfl

theorem holds_routeEntry (lowercase : String → String) (rule : RoutingRule) (flow : Flow)
    (unbound : ∀ path, rule.matcher ≠ .application path) (plain : Plain flow.destination) :
    (routeEntry rule).holds flow = matchesFlow lowercase rule flow := by
  cases matcher : rule.matcher with
  | domain pattern =>
    simp only [RouteRule.holds, routeEntry, matcher, anyOf_nil, anyOf_singleton, Bool.and_true]
    cases destination : flow.destination with
    | named =>
      rw [destination] at plain
      rw [matchesFlow_domain lowercase plain rule flow destination pattern matcher,
        ← eq_written plain]
      rfl
    | address => simp [matchesFlow, matcher, destination, Destination.name?]
  | domainSuffix pattern =>
    simp only [RouteRule.holds, routeEntry, matcher, anyOf_nil, anyOf_singleton, Bool.and_true]
    cases destination : flow.destination with
    | named =>
      rw [destination] at plain
      rw [matchesFlow_domainSuffix lowercase plain rule flow destination pattern matcher,
        ← inSuffix_written plain]
      rfl
    | address => simp [matchesFlow, matcher, destination, Destination.name?]
  | ipCidr cidr =>
    simp only [RouteRule.holds, routeEntry, matcher, anyOf_nil, anyOf_singleton, Bool.and_true, matchesFlow]
    cases destination : flow.destination with
    | named => rfl
    | address =>
      rw [destination] at plain
      exact inBlock_display cidr plain
  | application path => exact absurd matcher (unbound path)
  | dnsPort | encryptedDnsPort => simp [RouteRule.holds, routeEntry, matcher, matchesFlow]

/-- The first route rule that holds does what the evaluator says, for every rule set without
application rules and every connection. -/
theorem route_rules_enforce_evaluate (lowercase : String → String) (rules : List RoutingRule)
    (flow : Flow) (unbound : ∀ rule ∈ rules, ∀ path, rule.matcher ≠ .application path)
    (plain : Plain flow.destination) :
    coreDecision (routeRules rules) flow = (evaluate lowercase rules flow).action := by
  have sameFirst : (byPrecedence rules).find? (fun rule => (routeEntry rule).holds flow) =
      (inOrder rules).find? (fun rule => matchesFlow lowercase rule flow) := by
    apply List.find?_congr
    intro rule member
    have listed : rule ∈ rules := (mem_sortByKey RoutingRule.precedence rules rule).mp member
    exact holds_routeEntry lowercase rule flow (unbound rule listed) plain
  have first : (routeRules rules).find? (fun entry => entry.holds flow) =
      ((inOrder rules).find? (fun rule => matchesFlow lowercase rule flow)).map routeEntry := by
    rw [routeRules, List.find?_map, ← sameFirst]
    rfl
  rw [evaluate_action, coreDecision, first]
  cases (inOrder rules).find? (fun rule => matchesFlow lowercase rule flow) with
  | none => rfl
  | some rule => exact decision_routeEntry rule

theorem route_rules_enforce_evaluate_bypassed :
    let id (n : Nat) : RuleId := ⟨BitVec.ofNat 128 n⟩
    let range := expect (IpCidr.parse "10.0.0.0/8") (by decide)
    let rules : List RoutingRule :=
      [⟨id 2, .ipCidr range, .reject, 7, true⟩, ⟨id 1, .domainSuffix "Example.COM.", .bypass, 3, false⟩,
        ⟨id 0, .dnsPort, .capture, 0, true⟩]
    let named : Flow := ⟨.named "www.example.com", 443, .tcp, none⟩
    let direct : Flow := ⟨.address (.v4 (Ipv4Addr.ofOctets 10 1 2 3)), 443, .tcp, none⟩
    coreDecision (routeRules rules) named = .bypass ∧
      (evaluate String.toLower rules named).action = .bypass ∧
      coreDecision (routeRules rules) direct = (evaluate String.toLower rules direct).action := by
  intro id range rules named direct
  have agree := route_rules_enforce_evaluate String.toLower rules
  have unbound : ∀ rule ∈ rules, ∀ path, rule.matcher ≠ .application path := by
    simp [rules]
  have core : coreDecision (routeRules rules) named = .bypass := by decide
  refine ⟨core, ?_, agree direct unbound (by decide)⟩
  exact core

end DnetEngine
