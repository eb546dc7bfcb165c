import DnetEngine.Rules.Personal
import DnetEngine.Rules.Shadow

/-! The rule set of a tunnel beside the one it is made from: every rule keeps its place among the
others, nothing is decided otherwise but about the endpoint, and the endpoint is reached around the
tunnel. -/

namespace DnetEngine

open Lib

section Moved

variable {lowercase : String → String} {rules : List RoutingRule}

theorem makeRoom_eq (rule : RoutingRule) :
    makeRoom rule = rule.renumbered (makeRoom rule).precedence := by
  unfold makeRoom
  split <;> rfl

theorem makeRoom_bounds (rule : RoutingRule) :
    rule.precedence ≤ (makeRoom rule).precedence ∧
      (makeRoom rule).precedence ≤ rule.precedence + 1 := by
  unfold makeRoom
  split <;> simp [RoutingRule.renumbered]

theorem makeRoom_of_fixed {rule : RoutingRule}
    (fixed : rule.builtin = false ∨ firstPrecedence ≤ rule.precedence) : makeRoom rule = rule := by
  unfold makeRoom
  rcases fixed with own | beyond
  · simp [own]
  · have outside : ¬ (1 ≤ rule.precedence ∧ rule.precedence < firstPrecedence) := by omega
    simp [outside]

/-- Where no two rules meet, making room keeps their order. -/
theorem makeRoom_order (distinct : ((rules.map makeRoom).map RoutingRule.precedence).Nodup)
    {first second : RoutingRule} (firstIn : first ∈ rules) (secondIn : second ∈ rules)
    (ahead : first.precedence < second.precedence) :
    (makeRoom first).precedence < (makeRoom second).precedence := by
  have low := (makeRoom_bounds first).2
  have high := (makeRoom_bounds second).1
  rcases Nat.lt_or_ge (makeRoom first).precedence (makeRoom second).precedence with less | more
  · exact less
  · rw [List.map_map] at distinct
    have met : (makeRoom first).precedence = (makeRoom second).precedence := by omega
    have same := List.inj_on_of_nodup_map distinct firstIn secondIn met
    rw [same] at ahead
    omega

theorem matchesFlow_makeRoom (rule : RoutingRule) (flow : Flow) :
    matchesFlow lowercase (makeRoom rule) flow = matchesFlow lowercase rule flow := by
  rw [makeRoom_eq]
  rfl

theorem evaluate_unmatched {flow : Flow}
    (missed : ∀ rule ∈ rules, matchesFlow lowercase rule flow = false) :
    evaluate lowercase rules flow = { action := defaultAction, rule := none, reliability := none } := by
  rw [evaluate, inOrder, (find?_sortByKey_eq_none RoutingRule.precedence _ rules).mpr missed]

/-- Rules added that do not match, and room made for them, change no decision. -/
theorem evaluate_moved {added : List RoutingRule} {flow : Flow}
    (distinct : (rules.map RoutingRule.precedence).Nodup)
    (distinctAfter : ((rules.map makeRoom ++ added).map RoutingRule.precedence).Nodup)
    (missed : ∀ rule ∈ added, matchesFlow lowercase rule flow = false) :
    evaluate lowercase (rules.map makeRoom ++ added) flow = evaluate lowercase rules flow := by
  by_cases hit : ∃ rule ∈ rules, matchesFlow lowercase rule flow = true
  · obtain ⟨rule, member, matched⟩ := hit
    obtain ⟨first, decides⟩ := exists_decides member matched
    have decidesAfter : Decides lowercase (rules.map makeRoom ++ added) flow (makeRoom first) := by
      refine ⟨List.mem_append_left _ (List.mem_map_of_mem decides.member), ?_, ?_⟩
      · rw [matchesFlow_makeRoom]
        exact decides.hit
      · intro other inside otherHit
        rcases List.mem_append.mp inside with moved | new
        · obtain ⟨old, oldIn, rfl⟩ := List.mem_map.mp moved
          rw [matchesFlow_makeRoom] at otherHit
          rcases (decides.lowest old oldIn otherHit).lt_or_eq with ahead | same
          · rw [List.map_append] at distinctAfter
            exact (makeRoom_order (List.nodup_append.mp distinctAfter).1 decides.member oldIn
              ahead).le
          · rw [List.inj_on_of_nodup_map distinct decides.member oldIn same]
        · rw [missed other new] at otherHit
          cases otherHit
    rw [decision_of_decides decidesAfter distinctAfter, decision_of_decides decides distinct,
      makeRoom_eq]
    rfl
  · have unmatched (rule : RoutingRule) (member : rule ∈ rules) :
        matchesFlow lowercase rule flow = false :=
      Bool.eq_false_of_not_eq_true fun matched => hit ⟨rule, member, matched⟩
    have unmatchedAfter : ∀ rule ∈ rules.map makeRoom ++ added,
        matchesFlow lowercase rule flow = false := by
      intro rule inside
      rcases List.mem_append.mp inside with moved | new
      · obtain ⟨old, oldIn, rfl⟩ := List.mem_map.mp moved
        rw [matchesFlow_makeRoom]
        exact unmatched old oldIn
      · exact missed rule new
    rw [evaluate_unmatched unmatched, evaluate_unmatched unmatchedAfter]

end Moved

def HoldsBypass (rules : List RoutingRule) (endpoint : EndpointAddress) : Prop :=
  ∃ rule ∈ rules, rule.builtin = true ∧ rule.action = .bypass ∧
    rule.matcher = endpointMatcher endpoint

instance (rules : List RoutingRule) (endpoint : EndpointAddress) :
    Decidable (HoldsBypass rules endpoint) :=
  inferInstanceAs (Decidable (∃ rule ∈ rules, _))

variable {rules : List RoutingRule} {endpoint : EndpointAddress}

theorem withActiveEndpoint_of_held (held : HoldsBypass rules endpoint) (fresh : Nat → RuleId) :
    withActiveEndpoint fresh rules endpoint = .ok rules := by
  obtain ⟨rule, member, builtin, action, matcher⟩ := held
  rw [withActiveEndpoint, if_pos]
  rw [List.any_eq_true]
  exact ⟨rule, member, by simp [builtin, action, matcher]⟩

/-- The rules of a tunnel are those held already, or room has been made for a bypass. -/
inductive Activated (rules : List RoutingRule) (endpoint : EndpointAddress) :
    List RoutingRule → Prop
  | held (holds : HoldsBypass rules endpoint) : Activated rules endpoint rules
  | moved {bypass : RoutingRule} (free : ¬ HoldsBypass rules endpoint)
      (marked : bypass.builtin = true ∧ bypass.action = .bypass ∧ bypass.precedence = 1)
      (matcher : bypass.matcher = endpointMatcher endpoint)
      (accepted : RoutingRule.checkMatcher true (endpointMatcher endpoint) = .ok ())
      (valid : validateRuleSet (rules.map makeRoom ++ [bypass]) = .ok ())
      (protection : validateDnsLeakProtection (rules.map makeRoom ++ [bypass]) = .ok ()) :
      Activated rules endpoint (rules.map makeRoom ++ [bypass])

theorem activated_of_made {fresh : Nat → RuleId} {out : List RoutingRule}
    (made : withActiveEndpoint fresh rules endpoint = .ok out) :
    Activated rules endpoint out := by
  by_cases holds : HoldsBypass rules endpoint
  · rw [withActiveEndpoint_of_held holds] at made
    cases made
    exact .held holds
  · rcases withActiveEndpoint_ok made with ⟨_, rule, member, held⟩ | ⟨bypass, built, same, checks⟩
    · exact absurd ⟨rule, member, held⟩ holds
    · obtain ⟨shape, _, accepted, _⟩ := (RoutingRule.build_ok _ _ _ _ _ _).mp built
      rw [same] at checks ⊢
      subst shape
      exact .moved holds ⟨rfl, rfl, rfl⟩ rfl accepted checks.1 checks.2

/-- A tunnel's rules are the ones it is made from in the same order, with the endpoint's bypass;
the rules of a person and those from where the block begins keep their numbers. What the bypass does
not match is decided as before, and to do it again changes nothing. -/
theorem withActiveEndpoint_frame (lowercase : String → String) (fresh : Nat → RuleId)
    (rules out : List RoutingRule) (endpoint : EndpointAddress)
    (valid : validateRuleSet rules = .ok ())
    (made : withActiveEndpoint fresh rules endpoint = .ok out) :
    (∃ placed : RoutingRule → Nat,
        (∀ rule ∈ rules, rule.renumbered (placed rule) ∈ out) ∧
        (∀ first ∈ rules, ∀ second ∈ rules, first.precedence < second.precedence →
          placed first < placed second) ∧
        (∀ rule ∈ rules, rule.builtin = false ∨ firstPrecedence ≤ rule.precedence →
          placed rule = rule.precedence) ∧
        ∀ rule ∈ out, (∃ old ∈ rules, rule = old.renumbered (placed old)) ∨
          rule.builtin = true ∧ rule.action = .bypass ∧ rule.matcher = endpointMatcher endpoint) ∧
      (∀ (bypass : RoutingRule) (flow : Flow), bypass.matcher = endpointMatcher endpoint →
        matchesFlow lowercase bypass flow = false →
        evaluate lowercase out flow = evaluate lowercase rules flow) ∧
      ∀ again : Nat → RuleId, withActiveEndpoint again out endpoint = .ok out := by
  have distinct := (validateRuleSet_ok rules).mp valid
  cases activated_of_made made with
  | held holds =>
    refine ⟨⟨RoutingRule.precedence, ?_, ?_, ?_, ?_⟩, fun _ _ _ _ => rfl,
      withActiveEndpoint_of_held holds⟩
    · exact fun rule member => member
    · exact fun _ _ _ _ ahead => ahead
    · exact fun _ _ _ => rfl
    · exact fun rule member => Or.inl ⟨rule, member, rfl⟩
  | @moved bypass _ marked matcher _ validAfter =>
    have distinctAfter := (validateRuleSet_ok _).mp validAfter
    refine ⟨⟨fun rule => (makeRoom rule).precedence, ?_, ?_, ?_, ?_⟩, ?_, ?_⟩
    · intro rule member
      rw [← makeRoom_eq]
      exact List.mem_append_left _ (List.mem_map_of_mem member)
    · intro first firstIn second secondIn ahead
      rw [List.map_append] at distinctAfter
      exact makeRoom_order (List.nodup_append.mp distinctAfter).1 firstIn secondIn ahead
    · intro rule _ fixed
      exact congrArg RoutingRule.precedence (makeRoom_of_fixed fixed)
    · intro rule member
      rcases List.mem_append.mp member with kept | new
      · obtain ⟨old, oldIn, rfl⟩ := List.mem_map.mp kept
        exact Or.inl ⟨old, oldIn, makeRoom_eq old⟩
      · rw [List.mem_singleton.mp new]
        exact Or.inr ⟨marked.1, marked.2.1, matcher⟩
    · intro other flow same missed
      apply evaluate_moved distinct distinctAfter
      intro rule new
      rw [List.mem_singleton.mp new]
      unfold matchesFlow at missed ⊢
      rw [matcher, ← same]
      exact missed
    · exact withActiveEndpoint_of_held
        ⟨bypass, List.mem_append_right _ List.mem_cons_self, marked.1, marked.2.1, matcher⟩

theorem withActiveEndpoint_frame_connected :
    let rules := expect (builtinRules ruleIdOf none) (by decide)
    let endpoint := expect (EndpointAddress.new "203.0.113.9" 8443) (by decide)
    let flow : Flow := ⟨.named "one.example", 443, .tcp, none⟩
    ∃ out, withActiveEndpoint ruleIdOf rules endpoint = .ok out ∧ out ≠ rules ∧
      evaluate id out flow = evaluate id rules flow ∧
      withActiveEndpoint ruleIdOf out endpoint = .ok out := by
  intro rules endpoint flow
  let out := expect (withActiveEndpoint ruleIdOf rules endpoint) (by decide +kernel)
  have made : withActiveEndpoint ruleIdOf rules endpoint = .ok out := expect_ok _ _
  have frame := withActiveEndpoint_frame id ruleIdOf rules out endpoint (by decide +kernel) made
  exact ⟨out, made, by decide +kernel,
    frame.2.1 ⟨⟨0⟩, endpointMatcher endpoint, .bypass, 1, true⟩ flow rfl (by decide +kernel),
    frame.2.2 ruleIdOf⟩

/-- Where packets to the endpoint go. -/
def endpointDestination (endpoint : EndpointAddress) : Destination :=
  match parseIpAddr endpoint.host.toList with
  | some ip => .address ip
  | none => .named endpoint.host

/-- The endpoint is not given by an address of version 4 written in version 6. -/
def WrittenPlainly (endpoint : EndpointAddress) : Prop :=
  ∀ ip, parseIpAddr endpoint.host.toList = some ip → canonical ip = ip

theorem endpointMatcher_address {ip : IpAddr} (parsed : parseIpAddr endpoint.host.toList = some ip)
    :
    endpointMatcher endpoint = .ipCidr (IpCidr.host ip) := by
  unfold endpointMatcher
  split
  next other same =>
    rw [parsed, Option.some_inj] at same
    subst same
    congr 1
    apply Except.ok.inj
    rw [← expect_ok, IpCidr.parse_host]
  next none_ =>
    rw [parsed] at none_
    cases none_

theorem endpointMatcher_name (named : parseIpAddr endpoint.host.toList = none) :
    endpointMatcher endpoint = .domain endpoint.host := by
  unfold endpointMatcher
  split
  next other same =>
    rw [named] at same
    cases same
  next => rfl

theorem holds_canonical_iff (ip : IpAddr) :
    (IpCidr.host ip).holds (canonical ip) = true ↔ canonical ip = ip := by
  constructor
  · intro held
    cases ip with
    | v4 => rfl
    | v6 v6 =>
      cases mapping : toIpv4Mapped v6 with
      | none => rw [canonical, mapping]
      | some mapped =>
        have plain : canonical (.v6 v6) = .v4 mapped := by rw [canonical, mapping]
        rw [plain] at held
        cases held
  · intro same
    rw [same]
    exact (IpCidr.host ip).holds_addr

/-- The bypass matches the packets to the endpoint, unless its address is one of version 4 written
in version 6: the matcher keeps it so, and the packets are matched by the plain one. -/
theorem matchesFlow_bypass_iff (lowercase : String → String) {bypass : RoutingRule} {flow : Flow}
    (matcher : bypass.matcher = endpointMatcher endpoint)
    (accepted : RoutingRule.checkMatcher true (endpointMatcher endpoint) = .ok ())
    (toward : flow.destination = endpointDestination endpoint) :
    matchesFlow lowercase bypass flow = true ↔ WrittenPlainly endpoint := by
  cases parsed : parseIpAddr endpoint.host.toList with
  | some ip =>
    have plain : WrittenPlainly endpoint ↔ canonical ip = ip := by
      simp [WrittenPlainly, parsed]
    rw [endpointDestination, parsed] at toward
    rw [matchesFlow_cidr_iff (matcher.trans (endpointMatcher_address parsed)), plain,
      ← holds_canonical_iff]
    simp [toward]
  | none =>
    have named := endpointMatcher_name parsed
    rw [endpointDestination, parsed] at toward
    rw [named] at accepted
    rw [matchesFlow_domain_iff (matcher.trans named)]
    simp only [WrittenPlainly, parsed, reduceCtorEq, IsEmpty.forall_iff, implies_true, iff_true]
    cases clean : normalizeDomain endpoint.host with
    | none => simp [RoutingRule.checkMatcher, checkDomainPattern, clean] at accepted
    | some name => exact ⟨endpoint.host, name, toward, rfl, clean⟩

theorem bypass_decides {lowercase : String → String} {flow : Flow} {bypass : RoutingRule}
    (first : bypass.precedence = 1) (member : bypass ∈ rules) (action : bypass.action = .bypass)
    (hit : matchesFlow lowercase bypass flow = true) (valid : validateRuleSet rules = .ok ())
    (protection : validateDnsLeakProtection rules = .ok ()) (port : flow.port ≠ dnsPort) :
    Decides lowercase rules flow bypass := by
  have distinct := (validateRuleSet_ok rules).mp valid
  obtain ⟨capture, captureIn, captures, lowest⟩ := validateDnsLeakProtection_ok rules protection
  simp only [RoutingRule.isDnsCapture, Bool.and_eq_true, beq_iff_eq] at captures
  have different : capture.precedence ≠ bypass.precedence := by
    intro same
    rw [List.inj_on_of_nodup_map distinct captureIn member same, action] at captures
    cases captures.2
  have below := lowest bypass member
  refine ⟨member, hit, ?_⟩
  intro other inside otherHit
  by_contra ahead
  -- Only the capture has a lower number, and it matches no other port.
  have same := List.inj_on_of_nodup_map distinct inside captureIn (by omega)
  rw [same, matchesFlow, captures.1] at otherHit
  exact port (eq_of_beq otherHit)

/-- Packets to the endpoint go around the tunnel just when a bypass of it that matches them is added,
or the rules it is made from send them around already. -/
theorem endpoint_bypassed_iff (lowercase : String → String) (fresh : Nat → RuleId)
    (rules out : List RoutingRule) (endpoint : EndpointAddress) (flow : Flow)
    (valid : validateRuleSet rules = .ok ())
    (made : withActiveEndpoint fresh rules endpoint = .ok out)
    (toward : flow.destination = endpointDestination endpoint) (port : flow.port ≠ dnsPort) :
    (evaluate lowercase out flow).action = .bypass ↔
      (¬ HoldsBypass rules endpoint ∧ WrittenPlainly endpoint) ∨
        (evaluate lowercase rules flow).action = .bypass := by
  have distinct := (validateRuleSet_ok rules).mp valid
  cases activated_of_made made with
  | held holds => simp [holds]
  | @moved bypass free marked matcher accepted validAfter protection =>
    have distinctAfter := (validateRuleSet_ok _).mp validAfter
    have matched := matchesFlow_bypass_iff lowercase matcher accepted toward
    by_cases plain : WrittenPlainly endpoint
    · have decides := bypass_decides marked.2.2 (List.mem_append_right _ List.mem_cons_self)
        marked.2.1 (matched.mpr plain) validAfter protection port
      rw [decides.evaluate distinctAfter]
      simp [marked.2.1, free, plain]
    · have same : evaluate lowercase (rules.map makeRoom ++ [bypass]) flow =
          evaluate lowercase rules flow := by
        apply evaluate_moved distinct distinctAfter
        intro rule new
        rw [List.mem_singleton.mp new]
        exact Bool.eq_false_of_not_eq_true (fun hit => plain (matched.mp hit))
      rw [same]
      simp [plain]

/-- Only DNS capture comes before the first built-in bypass. -/
def OnlyCaptureAhead (rules : List RoutingRule) : Prop :=
  ∀ rule ∈ rules, (∀ bypass ∈ rules, bypass.builtin = true → bypass.action = .bypass →
    rule.precedence < bypass.precedence) → rule.isDnsCapture = true

instance (rules : List RoutingRule) : Decidable (OnlyCaptureAhead rules) :=
  inferInstanceAs (Decidable (∀ rule ∈ rules, _))

/-- The built-in rules, those that tunnel moved behind the bypasses. -/
def bypassesFirst : List RoutingRule :=
  (expect (builtinRules ruleIdOf none) (by decide)).map (fun rule =>
    if rule.action = .tunnel then rule.renumbered (rule.precedence + 20) else rule)

theorem endpoint_bypassed_plain :
    let endpoint := expect (EndpointAddress.new "203.0.113.9" 8443) (by decide)
    let flow : Flow := ⟨.address (.v4 (Ipv4Addr.ofOctets 203 0 113 9)), 8443, .udp, none⟩
    ∃ out, withActiveEndpoint ruleIdOf bypassesFirst endpoint = .ok out ∧
      OnlyCaptureAhead bypassesFirst ∧ (evaluate id out flow).action = .bypass := by
  intro endpoint flow
  let out := expect (withActiveEndpoint ruleIdOf bypassesFirst endpoint) (by decide +kernel)
  have made : withActiveEndpoint ruleIdOf bypassesFirst endpoint = .ok out := expect_ok _ _
  have toward : flow.destination = endpointDestination endpoint := by decide +kernel
  have plain : WrittenPlainly endpoint := by
    intro ip parsed
    rw [endpointDestination, parsed] at toward
    cases toward
    rfl
  exact ⟨out, made, by decide +kernel,
    (endpoint_bypassed_iff id ruleIdOf bypassesFirst out endpoint flow (by decide +kernel) made
      toward (by decide)).mpr (Or.inl ⟨by decide +kernel, plain⟩)⟩

/-- The packets to an endpoint given as `::ffff:203.0.113.9` go into the tunnel. -/
theorem mapped_endpoint_tunnelled :
    let endpoint := expect (EndpointAddress.new "::ffff:203.0.113.9" 8443) (by decide)
    let ip : IpAddr := .v6 ⟨[0, 0, 0, 0, 0, 0xffff, 0xcb00, 0x7109], rfl⟩
    validateRuleSet bypassesFirst = .ok () ∧ OnlyCaptureAhead bypassesFirst ∧
      parseIpAddr endpoint.host.toList = some ip ∧
      (withActiveEndpoint ruleIdOf bypassesFirst endpoint).map (fun out =>
        (evaluate id out ⟨.address ip, 8443, .udp, none⟩).action) = .ok .tunnel := by
  decide +kernel

end DnetEngine
