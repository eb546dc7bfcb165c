import DnetEngine.Rules.Stricter

/-! A person's rules come after the product's own: where one of those matches, they change nothing. -/

namespace DnetEngine

open Lib

variable {rules : List RoutingRule}

theorem validateUserRulesFollowBuiltins_ok
    (follows : validateUserRulesFollowBuiltins rules = .ok ()) {personal builtin : RoutingRule}
    (member : personal ∈ rules) (own : personal.builtin = false) (inside : builtin ∈ rules)
    (marked : builtin.builtin = true) : builtin.precedence < personal.precedence := by
  have none_ : ((rules.filter (fun rule => !rule.builtin)).map RoutingRule.precedence).find?
      (fun precedence => decide (precedence < userRulesStart) || decide (precedence ≤
        ((rules.filter RoutingRule.builtin).map RoutingRule.precedence).max?.getD 0)) = none := by
    unfold validateUserRulesFollowBuiltins at follows
    dsimp only at follows
    split at follows
    · cases follows
    · assumption
  have after := List.find?_eq_none.mp none_ personal.precedence
    (List.mem_map_of_mem (List.mem_filter.mpr ⟨member, by simp [own]⟩))
  have highest : builtin.precedence ≤
      ((rules.filter RoutingRule.builtin).map RoutingRule.precedence).max?.getD 0 := by
    have listed : builtin.precedence ∈
        (rules.filter RoutingRule.builtin).map RoutingRule.precedence :=
      List.mem_map_of_mem (List.mem_filter.mpr ⟨inside, marked⟩)
    cases greatest : ((rules.filter RoutingRule.builtin).map RoutingRule.precedence).max? with
    | none =>
      rw [List.max?_eq_none_iff.mp greatest] at listed
      cases listed
    | some => exact (List.max?_eq_some_iff.mp greatest).2 _ listed
  simp only [Bool.or_eq_true, decide_eq_true_eq, not_or, not_le] at after
  exact highest.trans_lt after.2

theorem exists_of_blockMatchesPolicy {fresh : Nat → RuleId}
    (carried : validateBlockMatchesPolicy fresh rules .block = .ok ()) {wanted : RoutingRule}
    (member : wanted ∈ blockingRules fresh .block) :
    ∃ rule ∈ rules, rule.builtin = true ∧ rule.matcher = wanted.matcher ∧
      rule.action = wanted.action := by
  have none_ : (blockingRules fresh .block).find? (fun wanted => !rules.any (fun rule =>
      rule.builtin && rule.matcher == wanted.matcher && rule.action == wanted.action)) = none := by
    unfold validateBlockMatchesPolicy at carried
    dsimp only at carried
    split at carried
    · cases carried
    · assumption
  have present := List.find?_eq_none.mp none_ wanted member
  simpa [and_assoc] using present

/-- Every built-in rule from where the block begins refuses, as those the product makes do. -/
def OnlyBlockBeyond (rules : List RoutingRule) : Prop :=
  ∀ rule ∈ rules, rule.builtin = true → firstPrecedence ≤ rule.precedence → rule.action = .reject

instance (rules : List RoutingRule) : Decidable (OnlyBlockBeyond rules) :=
  inferInstanceAs (Decidable (∀ rule ∈ rules, _))

section Personal

variable {lowercase : String → String} {rules : List RoutingRule} {flow : Flow}

theorem decision_of_decides {rule : RoutingRule} (decides : Decides lowercase rules flow rule)
    (distinct : (rules.map RoutingRule.precedence).Nodup) :
    evaluate lowercase rules flow =
      { action := rule.action, rule := some rule.id, reliability := some rule.reliability } := by
  have found := (find?_sortByKey RoutingRule.precedence
    (fun rule => matchesFlow lowercase rule flow) rules distinct rule).mpr
      ⟨decides.member, decides.hit, decides.lowest⟩
  rw [evaluate, inOrder, found]

theorem builtin_decides (follows : validateUserRulesFollowBuiltins rules = .ok ())
    {builtin first : RoutingRule} (member : builtin ∈ rules) (marked : builtin.builtin = true)
    (hit : matchesFlow lowercase builtin flow = true)
    (decides : Decides lowercase rules flow first) : first.builtin = true := by
  by_contra own
  have after := validateUserRulesFollowBuiltins_ok follows decides.member
    (Bool.eq_false_of_not_eq_true own) member marked
  have lowest := decides.lowest builtin member hit
  omega

/-- A built-in rule that decides does so also among other rules of a person's. -/
theorem Decides.among_others {others : List RoutingRule} {first : RoutingRule}
    (decides : Decides lowercase rules flow first) (marked : first.builtin = true)
    (builtins : (others.filter RoutingRule.builtin).Perm (rules.filter RoutingRule.builtin))
    (follows : ∀ personal ∈ others, personal.builtin = false →
      first.precedence < personal.precedence) :
    Decides lowercase others flow first where
  member :=
    (List.mem_filter.mp (builtins.mem_iff.mpr (List.mem_filter.mpr ⟨decides.member, marked⟩))).1
  hit := decides.hit
  lowest := by
    intro other inside matched
    by_cases own : other.builtin = true
    · have held := builtins.mem_iff.mp (List.mem_filter.mpr ⟨inside, own⟩)
      exact decides.lowest other (List.mem_filter.mp held).1 matched
    · exact (follows other inside (Bool.eq_false_of_not_eq_true own)).le

end Personal

section Examples

def ruleIdOf (n : Nat) : RuleId := ⟨BitVec.ofNat 128 n⟩

/-- DNS capture, the block, and a bypass a person asks for of a blocked name. -/
def blockedRules : List RoutingRule :=
  ⟨⟨0⟩, .dnsPort, .capture, 0, true⟩ :: blockingRules ruleIdOf .block ++
    [⟨⟨300⟩, .domainSuffix "dns.google", .bypass, 200, false⟩]

/-- The checks leave room for a built-in bypass among the block's numbers, ahead of the block. -/
def crowdedRules : List RoutingRule :=
  ⟨⟨0⟩, .domainSuffix "dns.google", .bypass, firstPrecedence, true⟩ ::
    (blockingRules ruleIdOf .block).map (fun rule => rule.renumbered (rule.precedence + 1))

end Examples

end DnetEngine
