import DnetEngine.Lib.SortFind
import DnetEngine.Lib.Fallible
import DnetEngine.Rules.Cidr
import DnetEngine.Rules.Name

/-! Routing rules, how they are made, and what a set of them must satisfy. -/

namespace DnetEngine

open Lib

structure RuleId where
  uuid : BitVec 128
  deriving DecidableEq

inductive Reliability
  | deterministic
  | bestEffort
  deriving DecidableEq

inductive RuleAction
  | tunnel
  | bypass
  | capture
  | reject
  deriving DecidableEq

inductive RuleMatcher
  | domain (pattern : String)
  | domainSuffix (pattern : String)
  | ipCidr (range : IpCidr)
  | application (path : String)
  | dnsPort
  | encryptedDnsPort
  deriving DecidableEq

structure RoutingRule where
  id : RuleId
  matcher : RuleMatcher
  action : RuleAction
  precedence : Nat
  builtin : Bool
  deriving DecidableEq

/-- `char::is_whitespace`. -/
def isWhitespace (c : Char) : Bool :=
  let n := c.toNat
  (decide (9 ≤ n) && decide (n ≤ 13)) || n == 0x20 || n == 0x85 || n == 0xa0 || n == 0x1680 ||
    (decide (0x2000 ≤ n) && decide (n ≤ 0x200a)) || n == 0x2028 || n == 0x2029 || n == 0x202f ||
    n == 0x205f || n == 0x3000

/-- `str::trim`. -/
def trim (text : String) : String :=
  String.ofList ((text.toList.dropWhile isWhitespace).rdropWhile isWhitespace)

def checkDomainPattern (pattern : String) : Except DomainError Unit :=
  match normalizeDomain pattern with
  | some _ => .ok ()
  | none => .error (.invalidDomainPattern (String.ofList (pattern.toList.take 64)))

def inet4Pool : String := "198.18.0.0/15"
def inet6Pool : String := "fc00::/18"

def pools : List IpCidr :=
  [expect (IpCidr.parse inet4Pool) (by decide), expect (IpCidr.parse inet6Pool) (by decide)]

/-- Refuse a range of the person's that lies inside the pool. -/
def checkUserRange (range : IpCidr) : Except DomainError Unit :=
  let inside := pools.any (fun pool =>
    pool.overlaps range && decide (pool.prefixLen ≤ range.prefixLen))
  if inside then .error (.rangeInsideFakeIpPool range.display) else .ok ()

namespace RoutingRule

def patternEmpty : RuleMatcher → Bool
  | .domain pattern | .domainSuffix pattern | .application pattern =>
    pattern.toList.all isWhitespace
  | .ipCidr _ | .dnsPort | .encryptedDnsPort => false

/-- A name pattern must be one a connection could carry, and a person's range must not sit inside
the pool of placeholders. -/
def checkMatcher (builtin : Bool) : RuleMatcher → Except DomainError Unit
  | .domain pattern | .domainSuffix pattern => checkDomainPattern pattern
  | .ipCidr range => if builtin then .ok () else checkUserRange range
  | .application _ | .dnsPort | .encryptedDnsPort => .ok ()

def build (id : RuleId) (matcher : RuleMatcher) (action : RuleAction) (precedence : Nat)
    (builtin : Bool) : Except DomainError RoutingRule :=
  if patternEmpty matcher then .error .emptyPattern
  else do
    checkMatcher builtin matcher
    if matcher = .dnsPort ∧ action ≠ .capture then .error .dnsPortRequiresCapture
    else if matcher = .encryptedDnsPort ∧ action ≠ .reject then
      .error .encryptedDnsPortRequiresReject
    else if action = .reject ∧ builtin = false then .error .rejectIsBuiltinOnly
    else .ok { id, matcher, action, precedence, builtin }

/-- A person's rule; `id` is the fresh one it is given. -/
def user (id : RuleId) (matcher : RuleMatcher) (action : RuleAction) (precedence : Nat) :
    Except DomainError RoutingRule :=
  build id matcher action precedence false

/-- A person's rule brought back from the store: only what a person could have made. -/
def restoredUser (id : RuleId) (matcher : RuleMatcher) (action : RuleAction) (precedence : Nat) :
    Except DomainError RoutingRule :=
  let personal := (matcher ≠ .dnsPort ∧ matcher ≠ .encryptedDnsPort) ∧
    (action = .tunnel ∨ action = .bypass)
  if ¬personal then .error .notAPersonalRule
  else build id matcher action precedence false

/-- One of the product's own rules. -/
def builtinRule (id : RuleId) (matcher : RuleMatcher) (action : RuleAction) (precedence : Nat) :
    Except DomainError RoutingRule :=
  build id matcher action precedence true

def reliability (rule : RoutingRule) : Reliability :=
  match rule.matcher with
  | .application _ => .bestEffort
  | .domain _ | .domainSuffix _ | .ipCidr _ | .dnsPort | .encryptedDnsPort => .deterministic

def renumbered (rule : RoutingRule) (precedence : Nat) : RoutingRule := { rule with precedence }

def isDnsCapture (rule : RoutingRule) : Bool :=
  rule.matcher == .dnsPort && rule.action == .capture

theorem build_ok (id : RuleId) (matcher : RuleMatcher) (action : RuleAction) (precedence : Nat)
    (builtin : Bool) (rule : RoutingRule) :
    build id matcher action precedence builtin = .ok rule ↔
      rule = { id, matcher, action, precedence, builtin } ∧ patternEmpty matcher = false ∧
        checkMatcher builtin matcher = .ok () ∧ (matcher = .dnsPort → action = .capture) ∧
        (matcher = .encryptedDnsPort → action = .reject) ∧
        (action = .reject → builtin = true) := by
  unfold build
  by_cases empty : patternEmpty matcher = true
  · simp [empty]
  · rw [if_neg empty, bind_ok]
    simp only [Bool.not_eq_true] at empty
    constructor
    · rintro ⟨⟨⟩, checked, rest⟩
      obtain ⟨dns, rest⟩ := refused_ok.mp rest
      obtain ⟨encrypted, rest⟩ := refused_ok.mp rest
      obtain ⟨reject, rest⟩ := refused_ok.mp rest
      simp only [not_and, not_not, Bool.not_eq_false] at dns encrypted reject
      cases rest
      exact ⟨rfl, empty, checked, dns, encrypted, reject⟩
    · rintro ⟨rfl, _, checked, dns, encrypted, reject⟩
      refine ⟨(), checked, ?_⟩
      rw [if_neg (by simpa using dns), if_neg (by simpa using encrypted),
        if_neg (by simpa using reject)]

end RoutingRule

/-- The first precedence met a second time. -/
def firstCollision : (seen : List Nat) → List RoutingRule → Option Nat
  | _, [] => none
  | seen, rule :: rest =>
    if seen.contains rule.precedence then some rule.precedence
    else firstCollision (rule.precedence :: seen) rest

def validateRuleSet (rules : List RoutingRule) : Except DomainError Unit :=
  match firstCollision [] rules with
  | some precedence => .error (.precedenceCollision precedence)
  | none => .ok ()

def validateDnsLeakProtection (rules : List RoutingRule) : Except DomainError Unit := do
  let capture ← orError .missingDnsCapture (rules.find? RoutingRule.isDnsCapture)
  if (rules.map RoutingRule.precedence).min? ≠ some capture.precedence then
    .error .missingDnsCapture
  else .ok ()

theorem firstCollision_eq_none (seen : List Nat) (rules : List RoutingRule) :
    firstCollision seen rules = none ↔
      (rules.map RoutingRule.precedence).Nodup ∧
        ∀ rule ∈ rules, rule.precedence ∉ seen := by
  induction rules generalizing seen with
  | nil => simp [firstCollision]
  | cons rule _ ih =>
    by_cases met : rule.precedence ∈ seen
    · simp [firstCollision, met]
    · have here : seen.contains rule.precedence = false := by simpa using met
      rw [firstCollision, here, if_neg Bool.false_ne_true, ih]
      simp only [List.map_cons, List.nodup_cons, List.mem_map, List.mem_cons, forall_eq_or_imp,
        not_or]
      constructor
      · rintro ⟨distinct, fresh⟩
        refine ⟨⟨?_, distinct⟩, met, fun other member => (fresh other member).2⟩
        rintro ⟨other, member, same⟩
        exact (fresh other member).1 same
      · rintro ⟨⟨fresh, distinct⟩, _, unseen⟩
        exact ⟨distinct, fun other member =>
          ⟨fun same => fresh ⟨other, member, same⟩, unseen other member⟩⟩

theorem validateRuleSet_ok (rules : List RoutingRule) :
    validateRuleSet rules = .ok () ↔ (rules.map RoutingRule.precedence).Nodup := by
  have plain := firstCollision_eq_none [] rules
  simp only [List.not_mem_nil, not_false_eq_true, implies_true, and_true] at plain
  rw [← plain]
  unfold validateRuleSet
  cases firstCollision [] rules <;> simp

/-- Leak protection means that a DNS-capture rule has the lowest precedence of all. -/
theorem validateDnsLeakProtection_ok (rules : List RoutingRule)
    (valid : validateDnsLeakProtection rules = .ok ()) :
    ∃ capture ∈ rules, capture.isDnsCapture = true ∧
      ∀ rule ∈ rules, capture.precedence ≤ rule.precedence := by
  obtain ⟨capture, found, rest⟩ := bind_ok.mp valid
  cases lookup : rules.find? RoutingRule.isDnsCapture with
  | none =>
    rw [lookup] at found
    cases found
  | some =>
    rw [lookup] at found
    cases found
    obtain ⟨lowest, rest⟩ := refused_ok.mp rest
    rw [not_not, List.min?_eq_some_iff] at lowest
    refine ⟨capture, List.mem_of_find?_eq_some lookup, List.find?_some lookup, ?_⟩
    intro rule member
    exact lowest.2 rule.precedence (List.mem_map_of_mem member)

theorem validateDnsLeakProtection_of_first {capture : RoutingRule} {others : List RoutingRule}
    (captures : capture.isDnsCapture = true) (lowest : capture.precedence = 0) :
    validateDnsLeakProtection (capture :: others) = .ok () := by
  have least : ((capture :: others).map RoutingRule.precedence).min? = some capture.precedence := by
    rw [List.min?_eq_some_iff, lowest]
    exact ⟨List.mem_map.mpr ⟨capture, List.mem_cons_self, lowest⟩, fun _ _ => Nat.zero_le _⟩
  have found : (capture :: others).find? RoutingRule.isDnsCapture = some capture :=
    List.find?_cons_of_pos captures
  rw [validateDnsLeakProtection, found, least]
  exact if_neg (not_not.mpr rfl)

end DnetEngine
