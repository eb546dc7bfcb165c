import DnetEngine.Config.Primary
import DnetEngine.Rules.Builtin

/-! Where a name is looked up, against where a connection to it goes. -/

namespace DnetEngine

open Lib

def covers (name : String) (rule : RoutingRule) : Bool :=
  match rule.matcher with
  | .domain pattern => normalizeDomain pattern == some name
  | .domainSuffix pattern => (normalizeDomain pattern).any (under name)
  | .ipCidr _ | .application _ | .dnsPort | .encryptedDnsPort => false

/-- A connection to a name that only the name can decide. -/
structure ByName (name : String) (flow : Flow) : Prop where
  destination : flow.destination = .named name
  port : flow.port ≠ dnsPort
  encryptedPort : flow.port ≠ encryptedDnsPort
  application : flow.application = none

def DnsRule.answersLocally (rule : DnsRule) : Prop :=
  rule.action = "route" ∧ rule.server = some localDns

def DnsRule.refuses (rule : DnsRule) : Prop := rule.action = "reject"

/-- A lookup goes where a connection to the name would: some entry answers it, the local resolver
answers only for a bypassed name, and a rejected name is refused. -/
def LookupAgrees (lowercase : String → String) (rules : List RoutingRule)
    (tunnelResolver : Option String) (name queryType : String) : Prop :=
  ∃ entry, answering (dnsRules rules tunnelResolver) name queryType = some entry ∧
    (entry.answersLocally → ∀ flow, ByName name flow →
      (evaluate lowercase rules flow).action = .bypass) ∧
    ∀ flow, ByName name flow → (evaluate lowercase rules flow).action = .reject → entry.refuses

def FirstLookup (rules : List RoutingRule) (name : String) (rule : RoutingRule) : Prop :=
  rule ∈ rules ∧ (decidesLookup rule = true ∧ covers name rule = true) ∧
    ∀ other ∈ rules, decidesLookup other = true → covers name other = true →
      rule.precedence ≤ other.precedence

/-- A rule without an entry of its own, which tunnels or captures the name, comes before the bypass
that decides its lookups. -/
def Outranked (rules : List RoutingRule) (name : String) : Prop :=
  ∃ bypass ∈ rules, FirstLookup rules name bypass ∧ bypass.action = .bypass ∧
    ∃ rule ∈ rules, covers name rule = true ∧ decidesLookup rule = false ∧
      rule.precedence < bypass.precedence

/-- The query has an answer of its own: it asks for an address, a rule decides it, or what is left
does not go to the local resolver. -/
def KeptInside (rules : List RoutingRule) (tunnelResolver : Option String)
    (name queryType : String) : Prop :=
  queryType ∈ addressQueries ∨ tunnelResolver ≠ some localDns ∨
    ∃ rule ∈ rules, decidesLookup rule = true ∧ covers name rule = true

instance (rules : List RoutingRule) (name : String) (rule : RoutingRule) :
    Decidable (FirstLookup rules name rule) :=
  inferInstanceAs (Decidable (_ ∧ _))

instance (rules : List RoutingRule) (name : String) : Decidable (Outranked rules name) :=
  inferInstanceAs (Decidable (∃ bypass ∈ rules, _))

instance (rules : List RoutingRule) (tunnelResolver : Option String) (name queryType : String) :
    Decidable (KeptInside rules tunnelResolver name queryType) :=
  inferInstanceAs (Decidable (_ ∨ _))

section Lookups

variable {name : String}

variable {flow : Flow}

variable (lowercase : String → String)

theorem matchesFlow_byName (normal : Normalised name) (byName : ByName name flow)
    (rule : RoutingRule) :
    matchesFlow lowercase rule flow = covers name rule := by
  cases matcher : rule.matcher with
  | domain pattern =>
    rw [matchesFlow_domain lowercase normal rule flow byName.destination pattern matcher, covers,
      matcher]
  | domainSuffix pattern =>
    rw [matchesFlow_domainSuffix lowercase normal rule flow byName.destination pattern matcher,
      covers, matcher]
  | ipCidr => simp only [matchesFlow, covers, matcher, byName.destination]
  | application =>
    simp only [matchesFlow, covers, matcher, byName.application, Option.any_none]
  | dnsPort => simp [matchesFlow, covers, matcher, byName.port]
  | encryptedDnsPort => simp [matchesFlow, covers, matcher, byName.encryptedPort]

def deciding (rules : List RoutingRule) (name : String) : Option RoutingRule :=
  (inOrder rules).find? (covers name)

def Decided (rules : List RoutingRule) (name : String) (action : RuleAction) : Prop :=
  ∃ rule, deciding rules name = some rule ∧ rule.action = action

theorem evaluate_byName (normal : Normalised name) (rules : List RoutingRule)
    (byName : ByName name flow) :
    (evaluate lowercase rules flow).action =
      ((deciding rules name).map RoutingRule.action).getD defaultAction := by
  rw [evaluate_action]
  congr 2
  apply List.find?_congr
  intro rule _
  exact matchesFlow_byName lowercase normal byName rule

theorem byName_https (name : String) : ByName name ⟨.named name, 443, .tcp, none⟩ where
  destination := rfl
  port := (by decide : (443 : BitVec 16) ≠ dnsPort)
  encryptedPort := (by decide : (443 : BitVec 16) ≠ encryptedDnsPort)
  application := rfl

theorem holds_dnsEntry (normal : Normalised name) (queryType : String) (rule : RoutingRule) :
    (dnsEntry rule).any (fun entry => entry.holds name queryType) = covers name rule := by
  cases matcher : rule.matcher with
  | domain =>
    simp [dnsEntry, covers, matcher, DnsRule.holds, eq_written normal]
  | domainSuffix =>
    simp [dnsEntry, covers, matcher, DnsRule.holds, inSuffix_written normal]
  | ipCidr | application | dnsPort | encryptedDnsPort =>
    simp [dnsEntry, covers, matcher]

/-- The rule whose entry is the first to answer for the name. -/
def lookupRule (rules : List RoutingRule) (name : String) : Option RoutingRule :=
  (byPrecedence rules).find? (fun rule => decide (decidesLookup rule = true ∧ covers name rule = true))

/-- The chain is read through the rules that made it, and ends in the two entries for all
other names. -/
theorem answering_dnsRules (normal : Normalised name) (rules : List RoutingRule)
    (tunnelResolver : Option String) (queryType : String) :
    answering (dnsRules rules tunnelResolver) name queryType =
      ((lookupRule rules name).bind dnsEntry).or
        (some (if queryType ∈ addressQueries then fakeipEntry
          else remainingEntry tunnelResolver)) := by
  have asked : anyOf addressQueries (fun wanted => queryType == wanted) =
      decide (queryType ∈ addressQueries) := by
    rw [Bool.eq_iff_iff]
    simp [anyOf, addressQueries]
  have fakeip : fakeipEntry.holds name queryType = decide (queryType ∈ addressQueries) := by
    simp [DnsRule.holds, fakeipEntry, asked]
  have remaining : (remainingEntry tunnelResolver).holds name queryType =
      !decide (queryType ∈ addressQueries) := by
    cases tunnelResolver <;> simp [DnsRule.holds, remainingEntry, asked]
  have ending : [fakeipEntry, remainingEntry tunnelResolver].find?
      (fun rule => rule.holds name queryType) =
        some (if queryType ∈ addressQueries then fakeipEntry
          else remainingEntry tunnelResolver) := by
    by_cases address : queryType ∈ addressQueries
    · simp [fakeip, address]
    · simp [fakeip, remaining, address]
  rw [answering, dnsRules, List.find?_append, ending, List.find?_filterMap, List.find?_filter]
  simp only [holds_dnsEntry normal]
  rfl

theorem lookupRule_eq_none (rules : List RoutingRule) :
    lookupRule rules name = none ↔
      ∀ rule ∈ rules, ¬(decidesLookup rule = true ∧ covers name rule = true) := by
  rw [lookupRule, byPrecedence, find?_sortByKey_eq_none]
  simp only [decide_eq_false_iff_not]

theorem lookupRule_eq_some (rules : List RoutingRule)
    (distinct : (rules.map RoutingRule.precedence).Nodup) (rule : RoutingRule) :
    lookupRule rules name = some rule ↔ FirstLookup rules name rule := by
  rw [lookupRule, byPrecedence, find?_sortByKey _ _ _ distinct, FirstLookup]
  simp only [decide_eq_true_eq, and_imp]

theorem decidesLookup_iff (rule : RoutingRule) :
    decidesLookup rule = true ↔ rule.action = .bypass ∨ rule.action = .reject := by
  unfold decidesLookup
  cases rule.action <;> simp

theorem evaluate_byName_iff (normal : Normalised name) (rules : List RoutingRule)
    (byName : ByName name flow) (action : RuleAction) (special : action ≠ defaultAction) :
    (evaluate lowercase rules flow).action = action ↔ Decided rules name action := by
  rw [evaluate_byName lowercase normal rules byName, Decided]
  cases deciding rules name with
  | none => simp [special.symm]
  | some => simp

variable {rules : List RoutingRule} {rule : RoutingRule} {tunnelResolver : Option String}
  {queryType : String}

/-- A connection decided by a bypass or a rejection has its name looked up by that same rule. -/
theorem firstLookup_of_deciding (decided : deciding rules name = some rule)
    (decides : decidesLookup rule = true) :
    FirstLookup rules name rule := by
  obtain ⟨member, covering, lowest⟩ := lowest_of_find?_sortByKey _ _ _ _ decided
  exact ⟨member, ⟨decides, covering⟩, fun other listed _ also => lowest other listed also⟩

/-- Where a bypass is the first rule to decide lookups, connections are bypassed unless a rule
without an entry comes before it. -/
theorem bypassed_iff_not_outranked (distinct : (rules.map RoutingRule.precedence).Nodup)
    {bypass : RoutingRule} (first : FirstLookup rules name bypass)
    (bypasses : bypass.action = .bypass) :
    Decided rules name .bypass ↔ ¬Outranked rules name := by
  obtain ⟨member, ⟨decides, covering⟩, lowest⟩ := first
  constructor
  · rintro ⟨rule, decided, action⟩ ⟨outranked, _, firstOutranked, _, other, listed, covered, _, before⟩
    obtain ⟨inRules, alsoCovers, lowestRule⟩ := lowest_of_find?_sortByKey _ _ _ _ decided
    have decidesRule : decidesLookup rule = true := (decidesLookup_iff rule).mpr (Or.inl action)
    have after := firstOutranked.2.2 rule inRules decidesRule alsoCovers
    have ahead := lowestRule other listed covered
    omega
  · intro free
    cases decided : deciding rules name with
    | none =>
      have uncovered := (find?_sortByKey_eq_none _ _ _).mp decided bypass member
      rw [covering] at uncovered
      cases uncovered
    | some rule =>
      obtain ⟨inRules, alsoCovers, lowestRule⟩ := lowest_of_find?_sortByKey _ _ _ _ decided
      have notAfter : rule.precedence ≤ bypass.precedence := lowestRule bypass member covering
      refine ⟨rule, decided, ?_⟩
      by_cases decidesRule : decidesLookup rule = true
      · have same : rule = bypass :=
          List.inj_on_of_nodup_map distinct inRules member
            (le_antisymm notAfter (lowest rule inRules decidesRule alsoCovers))
        rw [same, bypasses]
      · have different : rule.precedence ≠ bypass.precedence := by
          intro samePrecedence
          have same := List.inj_on_of_nodup_map distinct inRules member samePrecedence
          rw [same, decides] at decidesRule
          exact decidesRule rfl
        exact absurd ⟨bypass, member, ⟨member, ⟨decides, covering⟩, lowest⟩, bypasses, rule,
          inRules, alsoCovers, by simpa using decidesRule, lt_of_le_of_ne notAfter different⟩ free

theorem dnsEntry_of_covers (covering : covers name rule = true) :
    ∃ entry, dnsEntry rule = some entry ∧ (entry.action, entry.server) = dnsAction rule.action := by
  unfold covers at covering
  unfold dnsEntry
  cases matcher : rule.matcher with
  | domain _ | domainSuffix _ => exact ⟨_, rfl, rfl⟩
  | ipCidr | application | dnsPort | encryptedDnsPort => simp [matcher] at covering

theorem ending_answersLocally (tunnelResolver : Option String) (queryType : String) :
    (if queryType ∈ addressQueries then fakeipEntry
      else remainingEntry tunnelResolver).answersLocally ↔
      queryType ∉ addressQueries ∧ tunnelResolver = some localDns := by
  by_cases address : queryType ∈ addressQueries
  · simp [address, DnsRule.answersLocally, fakeipEntry, fakeipDns, localDns]
  · cases tunnelResolver <;> simp [address, DnsRule.answersLocally, remainingEntry]

theorem lookupAgrees_iff (normal : Normalised name) {entry : DnsRule}
    (answer : answering (dnsRules rules tunnelResolver) name queryType = some entry) :
    LookupAgrees lowercase rules tunnelResolver name queryType ↔
      (entry.answersLocally → Decided rules name .bypass) ∧
        (Decided rules name .reject → entry.refuses) := by
  have bypassed (flow : Flow) (byName : ByName name flow) :=
    evaluate_byName_iff lowercase normal rules byName .bypass (by decide)
  have rejected (flow : Flow) (byName : ByName name flow) :=
    evaluate_byName_iff lowercase normal rules byName .reject (by decide)
  constructor
  · rintro ⟨other, answered, locally, refused⟩
    obtain rfl : other = entry := Option.some.inj (answered.symm.trans answer)
    have https := byName_https name
    exact ⟨fun answers => (bypassed _ https).mp (locally answers _ https),
      fun decided => refused _ https ((rejected _ https).mpr decided)⟩
  · rintro ⟨locally, refused⟩
    exact ⟨entry, answer, fun answers flow byName => (bypassed flow byName).mpr (locally answers),
      fun flow byName decided => refused ((rejected flow byName).mp decided)⟩

theorem undecided_of_lookupRule_none (unruled : lookupRule rules name = none) {action : RuleAction}
    (decides : action = .bypass ∨ action = .reject) : ¬Decided rules name action := by
  rintro ⟨rule, decided, rfl⟩
  have first := firstLookup_of_deciding decided ((decidesLookup_iff rule).mpr decides)
  exact (lookupRule_eq_none rules).mp unruled rule first.1 first.2.1

theorem lookupAgrees_of_bypass (normal : Normalised name)
    (distinct : (rules.map RoutingRule.precedence).Nodup) (first : FirstLookup rules name rule)
    (bypasses : rule.action = .bypass) :
    LookupAgrees lowercase rules tunnelResolver name queryType ↔ ¬Outranked rules name := by
  have found := (lookupRule_eq_some rules distinct rule).mpr first
  have answer := answering_dnsRules normal rules tunnelResolver queryType
  obtain ⟨entry, made, acts⟩ := dnsEntry_of_covers first.2.1.2
  rw [found, Option.bind_some, made] at answer
  rw [bypasses] at acts
  have locally : entry.answersLocally := Prod.mk.inj acts
  rw [lookupAgrees_iff lowercase normal answer, ← bypassed_iff_not_outranked distinct first bypasses]
  constructor
  · intro agrees
    exact agrees.1 locally
  · intro bypassed
    refine ⟨fun _ => bypassed, ?_⟩
    intro rejected
    obtain ⟨decider, decided, action⟩ := bypassed
    obtain ⟨other, alsoDecided, otherwise⟩ := rejected
    rw [decided, Option.some_inj] at alsoDecided
    rw [← alsoDecided, action] at otherwise
    cases otherwise

theorem lookupAgrees_of_reject (normal : Normalised name)
    (distinct : (rules.map RoutingRule.precedence).Nodup) (first : FirstLookup rules name rule)
    (rejects : rule.action = .reject) :
    LookupAgrees lowercase rules tunnelResolver name queryType ∧ ¬Outranked rules name := by
  have found := (lookupRule_eq_some rules distinct rule).mpr first
  have answer := answering_dnsRules normal rules tunnelResolver queryType
  obtain ⟨entry, made, acts⟩ := dnsEntry_of_covers first.2.1.2
  rw [found, Option.bind_some, made] at answer
  rw [rejects] at acts
  have refuses : entry.refuses := (Prod.mk.inj acts).1
  constructor
  · apply (lookupAgrees_iff lowercase normal answer).mpr
    refine ⟨?_, fun _ => refuses⟩
    intro locally
    have both : "route" = "reject" := locally.1.symm.trans refuses
    exact absurd both (by decide)
  · intro outranked
    obtain ⟨bypass, _, alsoFirst, bypasses, _⟩ := outranked
    have same := (lookupRule_eq_some rules distinct bypass).mpr alsoFirst
    rw [found, Option.some_inj] at same
    rw [same, bypasses] at rejects
    cases rejects

theorem lookupAgrees_of_unruled (normal : Normalised name) (found : lookupRule rules name = none) :
    (LookupAgrees lowercase rules tunnelResolver name queryType ↔
      KeptInside rules tunnelResolver name queryType) ∧ ¬Outranked rules name := by
  have unruled := (lookupRule_eq_none rules).mp found
  have notDecided {action : RuleAction} := @undecided_of_lookupRule_none name rules found action
  have answer := answering_dnsRules normal rules tunnelResolver queryType
  rw [found] at answer
  have kept : KeptInside rules tunnelResolver name queryType ↔
      queryType ∈ addressQueries ∨ tunnelResolver ≠ some localDns := by
    apply or_congr_right
    apply or_iff_left
    intro ruled
    obtain ⟨rule, member, decides⟩ := ruled
    exact unruled rule member decides
  constructor
  · rw [lookupAgrees_iff lowercase normal answer, kept,
      and_iff_left (fun decided => absurd decided (notDecided (Or.inr rfl))),
      imp_iff_not (notDecided (Or.inl rfl)), ending_answersLocally, not_and_or, not_not]
  · intro outranked
    obtain ⟨bypass, _, first, _⟩ := outranked
    exact unruled bypass first.1 first.2.1

end Lookups

/-- Lookups and connections agree on a name just when no tunnelled or captured rule comes before the
bypass that decides its lookups, and what no rule decides is kept from the local resolver. -/
theorem lookups_agree_iff (lowercase : String → String) (rules : List RoutingRule)
    (tunnelResolver : Option String) (name queryType : String)
    (valid : validateRuleSet rules = .ok ()) (normal : Normalised name) :
    LookupAgrees lowercase rules tunnelResolver name queryType ↔
      ¬Outranked rules name ∧ KeptInside rules tunnelResolver name queryType := by
  have distinct := (validateRuleSet_ok rules).mp valid
  cases found : lookupRule rules name with
  | none =>
    obtain ⟨agrees, free⟩ := lookupAgrees_of_unruled lowercase normal found
    rw [agrees, and_iff_right free]
  | some rule =>
    have first := (lookupRule_eq_some rules distinct rule).mp found
    have inside : KeptInside rules tunnelResolver name queryType :=
      Or.inr (Or.inr ⟨rule, first.1, first.2.1⟩)
    rw [and_iff_left inside]
    rcases (decidesLookup_iff rule).mp first.2.1.1 with bypasses | rejects
    · exact lookupAgrees_of_bypass lowercase normal distinct first bypasses
    · have both : LookupAgrees lowercase rules tunnelResolver name queryType ∧
          ¬Outranked rules name :=
        lookupAgrees_of_reject lowercase normal distinct first rejects
      exact iff_of_true both.1 both.2

theorem lookups_agree_iff_under_suffix :
    let rules : List RoutingRule :=
      [⟨⟨0⟩, .domain "secret.example.com", .tunnel, 200, false⟩,
        ⟨⟨1⟩, .domainSuffix "example.com", .bypass, 201, false⟩]
    ¬Outranked rules "www.example.com" ∧ LookupAgrees id rules none "www.example.com" "A" := by
  intro rules
  have free : ¬Outranked rules "www.example.com" := by decide
  exact ⟨free, (lookups_agree_iff id rules none "www.example.com" "A" (by decide) (by decide)).mpr
    ⟨free, by decide⟩⟩

/-- A name that is tunnelled by a rule of its own, under a suffix that is bypassed, is looked up on
the local network. -/
theorem tunnelled_name_looked_up_locally :
    let fresh : Nat → RuleId := fun n => ⟨BitVec.ofNat 128 n⟩
    ∃ (builtin rules : List RoutingRule) (tunnelled bypassed : RoutingRule),
      builtinRules fresh none = .ok builtin ∧
        RoutingRule.user (fresh 20) (.domain "secret.example.com") .tunnel 200 = .ok tunnelled ∧
        RoutingRule.user (fresh 21) (.domainSuffix "example.com") .bypass 201 = .ok bypassed ∧
        rules = builtin ++ [tunnelled, bypassed] ∧ validateRuleSet rules = .ok () ∧
        Normalised "secret.example.com" ∧
        (evaluate id rules ⟨.named "secret.example.com", 443, .tcp, none⟩).action = .tunnel ∧
        (answering (dnsRules rules none) "secret.example.com" "A").map DnsRule.server =
          some (some localDns) ∧
        ¬LookupAgrees id rules none "secret.example.com" "A" := by
  intro fresh
  let builtin := expect (builtinRules fresh none) (by decide)
  let tunnelled : RoutingRule :=
    ⟨fresh 20, .domain "secret.example.com", .tunnel, 200, false⟩
  let bypassed : RoutingRule := ⟨fresh 21, .domainSuffix "example.com", .bypass, 201, false⟩
  let rules := builtin ++ [tunnelled, bypassed]
  have tunnels : (evaluate id rules ⟨.named "secret.example.com", 443, .tcp, none⟩).action =
      .tunnel := by decide
  refine ⟨builtin, rules, tunnelled, bypassed, by decide, by decide, by decide, rfl, by decide,
    by decide, tunnels, by decide, ?_⟩
  rintro ⟨entry, answered, locally, _⟩
  have first : answering (dnsRules rules none) "secret.example.com" "A" =
      some { domainSuffix := ["example.com"], action := "route", server := some localDns } := by
    decide
  rw [first, Option.some_inj] at answered
  subst answered
  have bypasses := locally ⟨rfl, rfl⟩ _ (byName_https "secret.example.com")
  cases bypasses

end DnetEngine
