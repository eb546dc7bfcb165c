import DnetEngine.Rules.Blocks

/-! Rules that are never reached, because one that is tried before them matches all they would. -/

namespace DnetEngine

open Lib

/-- A rule that is never reached, and the one that catches all it would match. -/
structure Shadowed where
  rule : RuleId
  by_ : RuleId
  deriving DecidableEq

def sameName (a b : String) : Bool :=
  match normalizeDomain a, normalizeDomain b with
  | some a, some b => a == b
  | some _, none | none, _ => false

section Shadow

variable (lowercase : String → String)

def RuleMatcher.covers : (outer inner : RuleMatcher) → Bool
  | .domain a, .domain b => sameName a b
  | .domainSuffix a, .domain b | .domainSuffix a, .domainSuffix b =>
    match normalizeDomain a, normalizeDomain b with
    | some a, some b => under b a
    | some _, none | none, _ => false
  | .ipCidr a, .ipCidr b => decide (a.prefixLen ≤ b.prefixLen) && a.overlaps b
  | .application a, .application b =>
    normalizeApplication lowercase a == normalizeApplication lowercase b
  | .dnsPort, .dnsPort => true
  | _, _ => false

/-- The rules never reached among those that come after `earlier`. -/
def shadowedAfter (earlier : List RoutingRule) : List RoutingRule → List Shadowed
  | [] => []
  | rule :: rest =>
    let later := shadowedAfter (earlier ++ [rule]) rest
    match earlier.find? (fun earlier => RuleMatcher.covers lowercase earlier.matcher rule.matcher) with
    | some winner => ⟨rule.id, winner.id⟩ :: later
    | none => later

def shadowed (rules : List RoutingRule) : List Shadowed :=
  shadowedAfter lowercase [] (inOrder rules)

theorem under_trans {name middle suffix : String} (first : under name middle = true)
    (second : under middle suffix = true) : under name suffix = true := by
  rw [under_iff] at first second ⊢
  rcases first with rfl | ⟨head, whole⟩
  · exact second
  · right
    rcases second with rfl | ⟨inner, parts⟩
    · exact ⟨head, whole⟩
    · exact ⟨head ++ '.' :: inner, by rw [whole, parts, List.append_assoc, List.cons_append]⟩

variable {lowercase}

variable {rule : RoutingRule}

theorem matchesFlow_domain_iff {pattern : String} (matcher : rule.matcher = .domain pattern)
    (flow : Flow) :
    matchesFlow lowercase rule flow = true ↔
      ∃ name clean, flow.destination = .named name ∧ normalizeDomain pattern = some clean ∧
        normalizeDomain name = some clean := by
  simp only [matchesFlow, matcher]
  cases flow.destination with
  | address => simp
  | named =>
    cases normalizeDomain pattern with
    | none => simp
    | some => simp [Option.any_eq_true]

theorem matchesFlow_suffix_iff {pattern : String} (matcher : rule.matcher = .domainSuffix pattern)
    (flow : Flow) :
    matchesFlow lowercase rule flow = true ↔
      ∃ name clean normal, flow.destination = .named name ∧
        normalizeDomain pattern = some clean ∧ normalizeDomain name = some normal ∧
        under normal clean = true := by
  simp only [matchesFlow, matcher]
  cases flow.destination with
  | address => simp
  | named =>
    cases normalizeDomain pattern with
    | none => simp
    | some => simp [Option.any_eq_true]

theorem matchesFlow_cidr_iff {range : IpCidr} (matcher : rule.matcher = .ipCidr range) (flow : Flow)
    :
    matchesFlow lowercase rule flow = true ↔
      ∃ ip, flow.destination = .address ip ∧ range.holds (canonical ip) = true := by
  simp only [matchesFlow, matcher]
  cases flow.destination with
  | address => simp [contains_eq]
  | named => simp

/-- The ways in which a matcher covers another. -/
inductive Covering (lowercase : String → String) : RuleMatcher → RuleMatcher → Prop
  | name {a b clean : String} (outer : normalizeDomain a = some clean)
      (inner : normalizeDomain b = some clean) : Covering lowercase (.domain a) (.domain b)
  | nameUnder {a b suffix name : String} (outer : normalizeDomain a = some suffix)
      (inner : normalizeDomain b = some name) (beneath : under name suffix = true) :
      Covering lowercase (.domainSuffix a) (.domain b)
  | suffixUnder {a b suffix name : String} (outer : normalizeDomain a = some suffix)
      (inner : normalizeDomain b = some name) (beneath : under name suffix = true) :
      Covering lowercase (.domainSuffix a) (.domainSuffix b)
  | range {a b : IpCidr} (inside : b.Inside a) : Covering lowercase (.ipCidr a) (.ipCidr b)
  | application {a b : String}
      (same : normalizeApplication lowercase a = normalizeApplication lowercase b) :
      Covering lowercase (.application a) (.application b)
  | dnsPort : Covering lowercase .dnsPort .dnsPort

theorem covering_of_covers {outer inner : RuleMatcher}
    (covered : RuleMatcher.covers lowercase outer inner = true) : Covering lowercase outer inner := by
  unfold RuleMatcher.covers at covered
  split at covered
  next a b =>
    unfold sameName at covered
    split at covered
    next clean other first second =>
      rw [eq_of_beq covered] at first
      exact .name first second
    all_goals cases covered
  next a b =>
    split at covered
    next first second => exact .nameUnder first second covered
    all_goals cases covered
  next a b =>
    split at covered
    next first second => exact .suffixUnder first second covered
    all_goals cases covered
  next a b =>
    rw [Bool.and_eq_true, decide_eq_true_eq] at covered
    exact .range ((IpCidr.inside_iff b a).mpr covered.symm)
  next => exact .application (eq_of_beq covered)
  next => exact .dnsPort
  next => cases covered

theorem matchesFlow_of_covers {outer inner : RoutingRule} {flow : Flow}
    (covered : RuleMatcher.covers lowercase outer.matcher inner.matcher = true)
    (hit : matchesFlow lowercase inner flow = true) : matchesFlow lowercase outer flow = true := by
  have covering := covering_of_covers covered
  generalize outerIs : outer.matcher = matcher at covering
  generalize innerIs : inner.matcher = other at covering
  cases covering with
  | name first second =>
    rw [matchesFlow_domain_iff innerIs] at hit
    rw [matchesFlow_domain_iff outerIs]
    obtain ⟨name, clean, named, own, same⟩ := hit
    rw [own] at second
    cases second
    exact ⟨name, _, named, first, same⟩
  | nameUnder first second beneath =>
    rw [matchesFlow_domain_iff innerIs] at hit
    rw [matchesFlow_suffix_iff outerIs]
    obtain ⟨name, clean, named, own, same⟩ := hit
    rw [own] at second
    cases second
    exact ⟨name, _, _, named, first, same, beneath⟩
  | suffixUnder first second beneath =>
    rw [matchesFlow_suffix_iff innerIs] at hit
    rw [matchesFlow_suffix_iff outerIs]
    obtain ⟨name, clean, normal, named, own, same, deeper⟩ := hit
    rw [own] at second
    cases second
    exact ⟨name, _, normal, named, first, same, under_trans deeper beneath⟩
  | range inside =>
    rw [matchesFlow_cidr_iff innerIs] at hit
    rw [matchesFlow_cidr_iff outerIs]
    obtain ⟨ip, address, held⟩ := hit
    exact ⟨ip, address, inside _ held⟩
  | application same =>
    simp only [matchesFlow, outerIs, innerIs, same] at hit ⊢
    exact hit
  | dnsPort =>
    simp only [matchesFlow, outerIs, innerIs] at hit ⊢
    exact hit

theorem mem_shadowedAfter {earlier rest : List RoutingRule} {report : Shadowed}
    (reported : report ∈ shadowedAfter lowercase earlier rest) :
    ∃ before rule after winner, rest = before ++ rule :: after ∧ winner ∈ earlier ++ before ∧
      RuleMatcher.covers lowercase winner.matcher rule.matcher = true ∧ report = ⟨rule.id, winner.id⟩ := by
  induction rest generalizing earlier with
  | nil => cases reported
  | cons first rest ih =>
    have later (inside : report ∈ shadowedAfter lowercase (earlier ++ [first]) rest) :
        ∃ before rule after winner, first :: rest = before ++ rule :: after ∧
          winner ∈ earlier ++ before ∧
          RuleMatcher.covers lowercase winner.matcher rule.matcher = true ∧
          report = ⟨rule.id, winner.id⟩ := by
      obtain ⟨before, rule, after, winner, rfl, member, rest⟩ := ih inside
      exact ⟨first :: before, rule, after, winner, rfl, by simpa using member, rest⟩
    rw [shadowedAfter] at reported
    split at reported
    next winner found =>
      have covered : RuleMatcher.covers lowercase winner.matcher first.matcher = true := by
        simpa using List.find?_some found
      rcases List.mem_cons.mp reported with rfl | inside
      · exact ⟨[], first, rest, winner, rfl,
          by simpa using List.mem_of_find?_eq_some found, covered, rfl⟩
      · exact later inside
    next => exact later reported

/-- A rule never decides if one that matches all it does is tried before it. -/
theorem evaluate_rule_ne {rules before after : List RoutingRule} {winner : RoutingRule}
    (distinct : (rules.map RoutingRule.id).Nodup) (order : inOrder rules = before ++ rule :: after)
    (ahead : winner ∈ before) (catches : ∀ flow, matchesFlow lowercase rule flow = true →
      matchesFlow lowercase winner flow = true) (flow : Flow) :
    (evaluate lowercase rules flow).rule ≠ some rule.id := by
  have sorted : ((inOrder rules).map RoutingRule.id).Nodup :=
    ((List.perm_insertionSort _ rules).map RoutingRule.id).nodup_iff.mpr distinct
  intro decided
  unfold evaluate at decided
  split at decided
  · cases decided
  next first found =>
    have same : first = rule := by
      apply List.inj_on_of_nodup_map sorted (List.mem_of_find?_eq_some found)
      · rw [order]
        exact List.mem_append_right _ List.mem_cons_self
      · exact Option.some.inj decided
    subst same
    have hit : matchesFlow lowercase first flow = true := by
      simpa using List.find?_some found
    -- The winner matches too, so that what is found stands before the rule, where the rule is not.
    have early : first ∈ before := by
      rw [order, List.find?_append] at found
      cases none_ : before.find? (fun rule => matchesFlow lowercase rule flow) with
      | none =>
        have missed := List.find?_eq_none.mp none_ winner ahead
        exact absurd (catches flow hit) missed
      | some =>
        rw [none_, Option.some_or, Option.some_inj] at found
        exact found ▸ List.mem_of_find?_eq_some none_
    rw [order, List.map_append, List.nodup_append] at sorted
    exact sorted.2.2 first.id (List.mem_map_of_mem early) first.id
      (List.mem_map_of_mem List.mem_cons_self) rfl

/-- A rule that is reported as never reached comes after the one it is reported with, which matches
all that it does; and it decides about no connection. -/
theorem shadowed_sound (rules : List RoutingRule) (distinct : (rules.map RoutingRule.id).Nodup)
    (report : Shadowed) (reported : report ∈ shadowed lowercase rules) :
    ∃ before winner between rule after,
      inOrder rules = before ++ winner :: between ++ rule :: after ∧ winner.id = report.by_ ∧
        rule.id = report.rule ∧
        (∀ flow, matchesFlow lowercase rule flow = true →
          matchesFlow lowercase winner flow = true) ∧
        ∀ flow, (evaluate lowercase rules flow).rule ≠ some report.rule := by
  obtain ⟨before, rule, after, winner, order, ahead, covered, rfl⟩ := mem_shadowedAfter reported
  have catches (flow : Flow) (hit : matchesFlow lowercase rule flow = true) :
      matchesFlow lowercase winner flow = true := matchesFlow_of_covers covered hit
  obtain ⟨first, between, rfl⟩ := List.append_of_mem ahead
  exact ⟨first, winner, between, rule, after, order, rfl, rfl, catches,
    evaluate_rule_ne distinct order ahead catches⟩

/-- A rule for a name beneath a suffix is never reached after the rule for the suffix. -/
theorem shadowed_sound_beneath :
    let broad : RoutingRule := ⟨⟨1⟩, .domainSuffix "Example.com.", .bypass, 200, false⟩
    let narrow : RoutingRule := ⟨⟨2⟩, .domain "a.example.com", .tunnel, 201, false⟩
    shadowed id [narrow, broad] = [⟨⟨2⟩, ⟨1⟩⟩] ∧
      ∀ flow, (evaluate id [narrow, broad] flow).rule ≠ some ⟨2⟩ := by
  intro broad narrow
  have reported : shadowed id [narrow, broad] = [⟨⟨2⟩, ⟨1⟩⟩] := by decide +kernel
  obtain ⟨_, _, _, _, _, _, _, _, _, never⟩ :=
    shadowed_sound [narrow, broad] (by decide) ⟨⟨2⟩, ⟨1⟩⟩ (by rw [reported]; exact List.mem_cons_self)
  exact ⟨reported, never⟩

end Shadow

end DnetEngine
