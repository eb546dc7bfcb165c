import DnetEngine.Rules.EncryptedDns

/-! Comparing two rule sets by what they send around the tunnel. -/

namespace DnetEngine

open Lib

section Stricter

variable (lowercase : String → String)

/-- Nothing is sent around the tunnel that was not before. -/
def Stricter (before after : List RoutingRule) : Prop :=
  ∀ flow, (evaluate lowercase after flow).action = .bypass →
    (evaluate lowercase before flow).action = .bypass

structure Decides (rules : List RoutingRule) (flow : Flow) (rule : RoutingRule) : Prop where
  member : rule ∈ rules
  hit : matchesFlow lowercase rule flow = true
  lowest : ∀ other ∈ rules, matchesFlow lowercase other flow = true →
    rule.precedence ≤ other.precedence

/-- Every flow that one of the rules taken away decides, and that is not sent around the tunnel, is
matched by a rule left ahead of each bypass of it that is left. -/
def Shielded (rules : List RoutingRule) (taken : RoutingRule → Bool) : Prop :=
  ∀ flow shield bypass, Decides lowercase rules flow shield → taken shield = true →
    shield.action ≠ .bypass → bypass ∈ rules → taken bypass = false → bypass.action = .bypass →
    matchesFlow lowercase bypass flow = true →
    ∃ other ∈ rules, taken other = false ∧ matchesFlow lowercase other flow = true ∧
      other.precedence < bypass.precedence

variable {lowercase} {rules : List RoutingRule} {flow : Flow}

variable {rule : RoutingRule}

theorem Decides.evaluate (decides : Decides lowercase rules flow rule)
    (distinct : (rules.map RoutingRule.precedence).Nodup) :
    (evaluate lowercase rules flow).action = rule.action :=
  evaluate_lowest lowercase rules flow rule distinct decides.member decides.hit decides.lowest

theorem exists_decides (member : rule ∈ rules) (hit : matchesFlow lowercase rule flow = true) :
    ∃ first, Decides lowercase rules flow first := by
  cases found : (inOrder rules).find? (fun rule => matchesFlow lowercase rule flow) with
  | none =>
    have missed := (find?_sortByKey_eq_none RoutingRule.precedence _ rules).mp found rule member
    rw [hit] at missed
    cases missed
  | some first =>
    obtain ⟨inside, matched, lowest⟩ :=
      lowest_of_find?_sortByKey RoutingRule.precedence _ rules first found
    exact ⟨first, inside, matched, lowest⟩

theorem decides_of_bypass (bypasses : (evaluate lowercase rules flow).action = .bypass) :
    ∃ rule, Decides lowercase rules flow rule ∧ rule.action = .bypass := by
  rw [evaluate_action] at bypasses
  cases found : (inOrder rules).find? (fun rule => matchesFlow lowercase rule flow) with
  | none =>
    rw [found] at bypasses
    cases bypasses
  | some first =>
    rw [found] at bypasses
    obtain ⟨inside, matched, lowest⟩ :=
      lowest_of_find?_sortByKey RoutingRule.precedence _ rules first found
    exact ⟨first, ⟨inside, matched, lowest⟩, bypasses⟩

theorem stricter_refl (rules : List RoutingRule) : Stricter lowercase rules rules :=
  fun _ bypasses => bypasses

/-- A last rule that is no bypass changes nothing but what no other rule matches. -/
theorem stricter_append (distinct : (rules.map RoutingRule.precedence).Nodup)
    (action : rule.action ≠ .bypass) :
    Stricter lowercase rules (rules ++ [rule]) := by
  intro flow bypasses
  obtain ⟨first, decides, bypass⟩ := decides_of_bypass bypasses
  rcases List.mem_append.mp decides.member with inside | last
  · have decided : Decides lowercase rules flow first :=
      ⟨inside, decides.hit, fun other member => decides.lowest other (List.mem_append_left _ member)⟩
    rw [decided.evaluate distinct]
    exact bypass
  · rw [List.mem_singleton.mp last] at bypass
    exact absurd bypass action

/-- Taking rules away is safe exactly if what they shielded stays shielded. -/
theorem stricter_filter_iff (distinct : (rules.map RoutingRule.precedence).Nodup)
    (taken : RoutingRule → Bool) :
    Stricter lowercase rules (rules.filter (fun rule => !taken rule)) ↔
      Shielded lowercase rules taken := by
  have left {rule : RoutingRule} :
      rule ∈ rules.filter (fun rule => !taken rule) ↔ rule ∈ rules ∧ taken rule = false := by
    simp
  have distinctLeft : ((rules.filter (fun rule => !taken rule)).map
      RoutingRule.precedence).Nodup :=
    distinct.sublist (List.filter_sublist.map RoutingRule.precedence)
  constructor
  · intro stricter flow shield bypass decides gone action member kept bypasses hit
    by_contra none_
    have first : Decides lowercase (rules.filter (fun rule => !taken rule)) flow bypass := by
      refine ⟨left.mpr ⟨member, kept⟩, hit, ?_⟩
      intro other inside matched
      obtain ⟨inside, stays⟩ := left.mp inside
      by_contra ahead
      exact none_ ⟨other, inside, stays, matched, Nat.lt_of_not_le ahead⟩
    have before := stricter flow ((first.evaluate distinctLeft).trans bypasses)
    rw [decides.evaluate distinct] at before
    exact action before
  · intro shielded flow bypasses
    obtain ⟨bypass, decides, action⟩ := decides_of_bypass bypasses
    obtain ⟨member, kept⟩ := left.mp decides.member
    obtain ⟨first, before⟩ := exists_decides member decides.hit
    by_cases gone : taken first = true
    · by_contra other
      rw [before.evaluate distinct] at other
      obtain ⟨ahead, inside, stays, matched, lower⟩ :=
        shielded flow first bypass before gone other member kept action decides.hit
      have lowest := decides.lowest ahead (left.mpr ⟨inside, stays⟩) matched
      omega
    · -- The first rule before the change is left, so that it is the bypass itself.
      have stays := left.mpr ⟨before.member, by simpa using gone⟩
      have lowest := decides.lowest first stays before.hit
      have decided : Decides lowercase rules flow bypass :=
        ⟨member, decides.hit, fun other inside matched =>
          lowest.trans (before.lowest other inside matched)⟩
      rw [decided.evaluate distinct]
      exact action

/-- Every refusing rule is one of the block's, where the block puts it. -/
def BlockPlaced (rules : List RoutingRule) : Prop :=
  ∀ rule ∈ rules, rule.action = .reject →
    (rule.matcher, rule.precedence) ∈ blockingMatchers.zipIdx firstPrecedence

theorem mem_blockingRules_block (fresh : Nat → RuleId) {matcher : RuleMatcher} {precedence : Nat}
    (listed : (matcher, precedence) ∈ blockingMatchers.zipIdx firstPrecedence) :
    ∃ rule ∈ blockingRules fresh .block, rule.matcher = matcher ∧ rule.precedence = precedence := by
  refine ⟨_, List.mem_pmap.mpr ⟨_, listed, rfl⟩, ?_⟩
  have made := expect_ok _ (blocking_valid fresh _ listed)
  rw [((RoutingRule.build_ok _ _ _ _ _ _).mp made).1]
  exact ⟨rfl, rfl⟩

theorem blockPlaced_blockingRules (fresh : Nat → RuleId) (policy : Policy) :
    BlockPlaced (blockingRules fresh policy) := by
  intro rule member _
  cases policy with
  | allow => cases member
  | block =>
    obtain ⟨item, listed, rfl⟩ := List.mem_pmap.mp member
    have made := expect_ok _ (blocking_valid fresh item listed)
    rw [((RoutingRule.build_ok _ _ _ _ _ _).mp made).1]
    exact listed

theorem BlockPlaced.append {others : List RoutingRule} (placed : BlockPlaced rules)
    (alsoPlaced : BlockPlaced others) : BlockPlaced (rules ++ others) := by
  intro rule member rejects
  rcases List.mem_append.mp member with first | second
  · exact placed rule first rejects
  · exact alsoPlaced rule second rejects

theorem BlockPlaced.filter (placed : BlockPlaced rules) (kept : RoutingRule → Bool) :
    BlockPlaced (rules.filter kept) :=
  fun rule member => placed rule (List.mem_filter.mp member).1

theorem blockPlaced_of_not_reject (actions : ∀ rule ∈ rules, rule.action ≠ .reject) :
    BlockPlaced rules :=
  fun rule member rejects => absurd rejects (actions rule member)

theorem stricter_block (fresh : Nat → RuleId)
    (distinct : (rules.map RoutingRule.precedence).Nodup) (placed : BlockPlaced rules) :
    Stricter lowercase rules
      (rules.filter (fun rule => rule.action != .reject) ++ blockingRules fresh .block) := by
  intro flow bypasses
  obtain ⟨bypass, decides, action⟩ := decides_of_bypass bypasses
  have member : bypass ∈ rules := by
    rcases List.mem_append.mp decides.member with inside | blocking
    · exact (List.mem_filter.mp inside).1
    · rw [(mem_blockingRules blocking).1] at action
      cases action
  obtain ⟨first, before⟩ := exists_decides member decides.hit
  have lowest : bypass.precedence ≤ first.precedence := by
    by_cases rejects : first.action = .reject
    · -- The new block has a rule with the same matcher in the same place.
      obtain ⟨again, blocking, matcher, precedence⟩ :=
        mem_blockingRules_block fresh (placed first before.member rejects)
      have hit : matchesFlow lowercase again flow = true := by
        have same := before.hit
        unfold matchesFlow at same ⊢
        rw [matcher]
        exact same
      rw [← precedence]
      exact decides.lowest again (List.mem_append_right _ blocking) hit
    · have kept : first ∈ rules.filter (fun rule => rule.action != .reject) :=
        List.mem_filter.mpr ⟨before.member, by simpa using rejects⟩
      exact decides.lowest first (List.mem_append_left _ kept) before.hit
  have decided : Decides lowercase rules flow bypass :=
    ⟨member, decides.hit, fun other inside matched =>
      lowest.trans (before.lowest other inside matched)⟩
  rw [decided.evaluate distinct]
  exact action

end Stricter

end DnetEngine
