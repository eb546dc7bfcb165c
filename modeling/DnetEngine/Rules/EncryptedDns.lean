import DnetEngine.Core.Domain
import DnetEngine.Rules.Builtin

/-! The block of encrypted DNS, the person's choice about it, and where a person's rules come among
the product's own. -/

namespace DnetEngine

open Lib

def encryptedResolverSuffixes : List String :=
  ["use-application-dns.net", "cloudflare-dns.com", "one.one.one.one", "dns.cloudflare.com",
    "dns.google", "dns.quad9.net", "dns.adguard-dns.com", "dns.adguard.com", "dns.nextdns.io",
    "doh.opendns.com", "doh.cleanbrowsing.org", "dns.mullvad.net", "doh.dns.sb", "dns.sb"]

/-- The lowest precedence of a person's rule. -/
def userRulesStart : Nat := 200

inductive Policy
  | block
  | allow
  deriving DecidableEq

def blockingMatchers : List RuleMatcher :=
  encryptedResolverSuffixes.map RuleMatcher.domainSuffix ++ [.encryptedDnsPort]

/-- Whether a rule is refused depends neither on its id nor on its precedence. -/
theorem RoutingRule.build_isOk (id : RuleId) (matcher : RuleMatcher) (action : RuleAction)
    (precedence : Nat) (builtin : Bool) :
    (build id matcher action precedence builtin).isOk =
      (build ⟨0⟩ matcher action 0 builtin).isOk := by
  unfold build
  split
  · rfl
  · cases checkMatcher builtin matcher with
    | error => rfl
    | ok =>
      split
      · rfl
      · split
        · rfl
        · split <;> rfl

theorem blockingMatchers_valid :
    ∀ matcher ∈ blockingMatchers, (RoutingRule.builtinRule ⟨0⟩ matcher .reject 0).isOk = true := by
  decide +kernel

theorem blocking_valid (fresh : Nat → RuleId) :
    ∀ item ∈ blockingMatchers.zipIdx firstPrecedence,
      (RoutingRule.builtinRule (fresh item.2) item.1 .reject item.2).isOk = true := by
  intro item member
  rw [RoutingRule.builtinRule, RoutingRule.build_isOk]
  exact blockingMatchers_valid item.1 (List.fst_mem_of_mem_zipIdx member)

/-- The rules that carry the policy out; the rule of precedence `n` gets the id `fresh n`. -/
def blockingRules (fresh : Nat → RuleId) : Policy → List RoutingRule
  | .allow => []
  | .block => (blockingMatchers.zipIdx firstPrecedence).pmap
      (fun item valid =>
        expect (RoutingRule.builtinRule (fresh item.2) item.1 .reject item.2) valid)
      (blocking_valid fresh)

def validateBlockOutranksUserRules (rules : List RoutingRule) : Except DomainError Unit :=
  if !rules.any (fun rule => rule.action == .reject) then .ok ()
  else
    match ((rules.filter (fun rule => !rule.builtin && decide (rule.precedence < userRulesStart))).map
        RoutingRule.precedence).min? with
    | some low => .error (.outranksEncryptedDnsBlock low userRulesStart)
    | none => .ok ()

def validateBlockMatchesPolicy (fresh : Nat → RuleId) (rules : List RoutingRule) :
    Policy → Except DomainError Unit
  | .block =>
    let present (wanted : RoutingRule) : Bool := rules.any (fun rule =>
      rule.builtin && rule.matcher == wanted.matcher && rule.action == wanted.action)
    match (blockingRules fresh .block).find? (fun wanted => !present wanted) with
    | some missing =>
      .error (.builtinRuleMissing
        (match missing.matcher with
        | .domainSuffix domain => "block *." ++ domain
        | .domain _ | .ipCidr _ | .application _ | .dnsPort | .encryptedDnsPort =>
          "block encrypted DNS (port 853)"))
    | none => .ok ()
  | .allow =>
    match rules.find? (fun rule => rule.action == .reject) with
    | some _ => .error .encryptedDnsBlockLeftBehind
    | none => .ok ()

/-- A person's rules come after every built-in rule and after the block, in force or not. -/
def validateUserRulesFollowBuiltins (rules : List RoutingRule) : Except DomainError Unit :=
  let highestBuiltin :=
    ((rules.filter RoutingRule.builtin).map RoutingRule.precedence).max?.getD 0
  match ((rules.filter (fun rule => !rule.builtin)).map RoutingRule.precedence).find?
      (fun precedence => decide (precedence < userRulesStart) ||
        decide (precedence ≤ highestBuiltin)) with
  | some low => .error (.userRuleOutranksBuiltins low userRulesStart)
  | none => .ok ()

/-- The precedence the next rule of a person's gets, while there is a number left. -/
def nextUserPrecedence (rules : List RoutingRule) : Option Nat :=
  match (rules.map RoutingRule.precedence).max? with
  | none => some (max 0 userRulesStart)
  | some highest =>
    if highest + 1 ≤ u32Max then some (max (highest + 1) userRulesStart) else none

def disclosureVersion : Nat := 1

def consequenceOfOptingOut : String :=
  "Rules for sites and domains will not apply to traffic from programs that use their own " ++
    "encrypted lookups. Those programs will be routed by address only."

/-- The person's choice, and the version of the disclosure they were shown. -/
structure ConsentState where
  policy : Policy := .block
  disclosed : Option Nat := none
  deriving DecidableEq

namespace ConsentState

def acknowledgeDisclosure (consent : ConsentState) : ConsentState :=
  { consent with disclosed := some disclosureVersion }

/-- The choice after opting out, and the consequence that must be shown. -/
def optOut (_ : ConsentState) : ConsentState × String :=
  (⟨.allow, some disclosureVersion⟩, consequenceOfOptingOut)

def restore (consent : ConsentState) : ConsentState := { consent with policy := .block }

end ConsentState

theorem mem_blockingRules {fresh : Nat → RuleId} {policy : Policy} {rule : RoutingRule}
    (member : rule ∈ blockingRules fresh policy) :
    rule.action = .reject ∧ rule.builtin = true ∧ firstPrecedence ≤ rule.precedence ∧
      rule.precedence < userRulesStart := by
  cases policy with
  | allow => cases member
  | block =>
    obtain ⟨item, listed, rfl⟩ := List.mem_pmap.mp member
    have made := expect_ok _ (blocking_valid fresh item listed)
    rw [((RoutingRule.build_ok _ _ _ _ _ _).mp made).1]
    obtain ⟨after, before, _⟩ := List.mem_zipIdx listed
    refine ⟨rfl, rfl, after, ?_⟩
    exact before.trans_le (by decide)

variable {rules : List RoutingRule}

theorem nextUserPrecedence_after {precedence : Nat}
    (next : nextUserPrecedence rules = some precedence) :
    ∀ rule ∈ rules, rule.precedence < precedence := by
  unfold nextUserPrecedence at next
  intro rule member
  split at next
  next none_ =>
    rw [List.max?_eq_none_iff, List.map_eq_nil_iff] at none_
    rw [none_] at member
    cases member
  next highest greatest =>
    obtain ⟨_, next⟩ := Option.ite_none_right_eq_some.mp next
    cases next
    have bound := (List.max?_eq_some_iff.mp greatest).2 rule.precedence
      (List.mem_map_of_mem member)
    exact (Nat.lt_succ_of_le bound).trans_le (Nat.le_max_left _ _)

end DnetEngine
