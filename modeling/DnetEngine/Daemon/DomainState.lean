import DnetEngine.Config.Persist

/-! The daemon's store of endpoints, profiles and rules, how it is made from the saved
configuration, and the changes made to it. Every change of the rules is checked as a whole before it
takes effect. -/

namespace DnetEngine

open Lib

structure DomainState where
  endpoints : List StoredEndpoint
  profiles : List StoredProfile
  rules : List RoutingRule
  consent : ConsentState
  deriving DecidableEq

theorem builtinRules_isOk (fresh : Nat → RuleId) : (builtinRules fresh none).isOk = true := by
  rfl

namespace DomainState

-- The ids a call draws for the built-in rules it makes, by precedence. Rules that are made only to
-- be compared with draw some too.
variable (fresh : Nat → RuleId)

def seeded : DomainState where
  endpoints := []
  profiles := bundledProfiles.map (fun entry => .new ⟨entry.1⟩ entry.2 .empty)
  rules := expect (builtinRules fresh none) (builtinRules_isOk fresh) ++ blockingRules fresh .block
  consent := {}

def checkRules (candidate : List RoutingRule) (consent : ConsentState) :
    Except DomainError Unit := do
  validateBuiltinRulesPresent fresh candidate none
  validateBlockMatchesPolicy fresh candidate consent.policy
  validateRuleSet candidate
  validateDnsLeakProtection candidate
  validateBlockOutranksUserRules candidate
  validateUserRulesFollowBuiltins candidate

/-- Every change of the rules goes through here. -/
def replaceRules (state : DomainState) (candidate : List RoutingRule) :
    Except DomainError DomainState := do
  checkRules fresh candidate state.consent
  .ok { state with rules := candidate }

def addRule (state : DomainState) (rule : RoutingRule) : Except DomainError DomainState :=
  replaceRules fresh state (state.rules ++ [rule])

/-- Add a person's rule after every other rule; `id` is the one it is given. -/
def addUserRule (state : DomainState) (id : RuleId) (matcher : RuleMatcher)
    (action : RuleAction) : Except DomainError DomainState := do
  let precedence ← orError (.precedenceCollision u32Max) (nextUserPrecedence state.rules)
  let rule ← RoutingRule.user id matcher action precedence
  addRule fresh state rule

def removeRule (state : DomainState) (id : RuleId) : Except DomainError (Bool × DomainState) := do
  let candidate := state.rules.filter (fun rule => rule.id != id)
  if candidate.length = state.rules.length then .ok (false, state)
  else
    let state ← replaceRules fresh state candidate
    .ok (true, state)

/-- Swap the blocking rules for the ones `next` calls for, keeping every other rule. -/
def applyConsent (state : DomainState) (next : ConsentState) : Except DomainError DomainState := do
  let candidate := state.rules.filter (fun rule => rule.action != .reject) ++
    blockingRules fresh next.policy
  checkRules fresh candidate next
  .ok { state with rules := candidate, consent := next }

def optOutOfEncryptedDnsBlock (state : DomainState) :
    Except DomainError (String × DomainState) := do
  let (next, consequence) := state.consent.optOut
  let state ← applyConsent fresh state next
  .ok (consequence, state)

/-- Choosing the block records that the disclosure was shown: it is only offered next to it. -/
def chooseEncryptedDnsBlock (state : DomainState) : Except DomainError DomainState :=
  applyConsent fresh state state.consent.restore.acknowledgeDisclosure

def addEndpoint (state : DomainState) (endpoint : StoredEndpoint) :
    Except DomainError DomainState :=
  if state.endpoints.any (fun other => other.label == endpoint.label) then
    .error (.invalidLabel endpoint.label.length)
  else .ok { state with endpoints := state.endpoints ++ [endpoint] }

def removeEndpoint (state : DomainState) (id : EndpointId) : DomainState :=
  { state with endpoints := state.endpoints.filter (fun endpoint => endpoint.id != id) }

def endpoint (state : DomainState) (id : EndpointId) : Option StoredEndpoint :=
  state.endpoints.find? (fun endpoint => endpoint.id == id)

def setEndpointEnabled (state : DomainState) (id : EndpointId) (enabled : Bool) : DomainState :=
  { state with
    endpoints := updateFirst (fun endpoint => endpoint.id == id)
      (fun endpoint => { endpoint with enabled }) state.endpoints }

def setBrutal (state : DomainState) (id : ProfileId)
    (setting : Option (BandwidthPair × BrutalAcknowledgement)) : Except String DomainState := do
  let profile ← orError "there is no connection method with that id"
    (state.profiles.find? (fun profile => profile.id == id))
  let changed ← profile.setBrutal setting
  .ok { state with
    profiles := updateFirst (fun profile => profile.id == id) (fun _ => changed) state.profiles }

section Loading

-- The text of an error, which no result depends on.
variable (display : DomainError → String)

def orInvalid {Value : Type} (result : Except DomainError Value) : Except PersistError Value :=
  result.mapError (fun error => .invalid (display error))

/-- A saved setting replaces that profile's settings. -/
def restoreProfile (profiles : List StoredProfile) (saved : ProfileSettings) :
    Except PersistError (List StoredProfile) :=
  match profiles.find? (fun profile => profile.id == saved.id) with
  | none => .error (.invalid "a saved profile is not in the catalogue")
  | some slot => do
      let profile := StoredProfile.new saved.id slot.kind saved.params
      let profile ← match saved.brutal with
        | none => .ok profile
        | some (bandwidth, acknowledgement) =>
          orInvalid display (profile.enableBrutal bandwidth acknowledgement)
      .ok (updateFirst (fun profile => profile.id == saved.id) (fun _ => profile) profiles)

/-- A file that never recorded a choice leaves the protective default. -/
def restoreConsent (state : DomainState) : Option ConsentState → Except PersistError DomainState
  | none => .ok state
  | some saved => orInvalid display (applyConsent fresh state saved)

/-- The seeded store with the saved configuration applied. -/
def fromLoaded (loaded : LoadedConfig) : Except PersistError DomainState := do
  let state := seeded fresh
  let profiles ← loaded.profiles.foldlM (restoreProfile display) state.profiles
  let state ← loaded.endpoints.foldlM (fun state endpoint =>
    orInvalid display (state.addEndpoint endpoint)) { state with profiles }
  let state ← restoreConsent fresh display state loaded.encryptedDns
  if loaded.rules.isEmpty then .ok state
  else orInvalid display (replaceRules fresh state (state.rules ++ loaded.rules))

/-- What start-up makes of the saved configuration, and why it was refused if it was. -/
def fromLoadResult (result : Except PersistError (Option LoadedConfig)) :
    DomainState × Option PersistError :=
  match result with
  | .ok none => (seeded fresh, none)
  | .ok (some loaded) =>
    match fromLoaded fresh display loaded with
    | .ok state => (state, none)
    | .error error => (seeded fresh, some error)
  | .error error => (seeded fresh, some error)

end Loading

/-- The rules of the store pass every check. -/
def Checked (state : DomainState) : Prop :=
  ∃ fresh, checkRules fresh state.rules state.consent = .ok ()

theorem checked_seeded : (seeded fresh).Checked := by
  have protection : validateDnsLeakProtection (seeded fresh).rules = .ok () :=
    validateDnsLeakProtection_of_first rfl rfl
  refine ⟨fresh, ?_⟩
  rw [checkRules, protection]
  rfl

variable {fresh} {state after : DomainState}

theorem Checked.distinct (checked : state.Checked) :
    (state.rules.map RoutingRule.precedence).Nodup := by
  obtain ⟨_, checked⟩ := checked
  obtain ⟨_, _, checked⟩ := bind_ok.mp checked
  obtain ⟨_, _, checked⟩ := bind_ok.mp checked
  obtain ⟨_, valid, _⟩ := bind_ok.mp checked
  exact (validateRuleSet_ok _).mp valid

theorem replaceRules_ok {candidate : List RoutingRule}
    (done : replaceRules fresh state candidate = .ok after) :
    after = { state with rules := candidate } ∧ after.Checked := by
  obtain ⟨_, checked, rest⟩ := bind_ok.mp done
  cases rest
  exact ⟨rfl, fresh, checked⟩

theorem applyConsent_ok {next : ConsentState} (done : applyConsent fresh state next = .ok after) :
    after = { state with
      rules := state.rules.filter (fun rule => rule.action != .reject) ++
        blockingRules fresh next.policy
      consent := next } ∧ after.Checked := by
  obtain ⟨_, checked, rest⟩ := bind_ok.mp done
  cases rest
  exact ⟨rfl, fresh, checked⟩

theorem addUserRule_ok {id : RuleId} {matcher : RuleMatcher} {action : RuleAction}
    (done : addUserRule fresh state id matcher action = .ok after) :
    ∃ precedence, (∀ rule ∈ state.rules, rule.precedence < precedence) ∧ action ≠ .reject ∧
      after = { state with rules := state.rules ++ [⟨id, matcher, action, precedence, false⟩] } ∧
      after.Checked := by
  obtain ⟨precedence, next, rest⟩ := bind_ok.mp done
  obtain ⟨rule, made, rest⟩ := bind_ok.mp rest
  obtain ⟨rfl, checked⟩ := replaceRules_ok rest
  cases numbered : nextUserPrecedence state.rules with
  | none =>
    rw [numbered] at next
    cases next
  | some =>
    rw [numbered] at next
    cases next
    obtain ⟨rfl, _, _, _, _, rejects⟩ := (RoutingRule.build_ok _ _ _ _ _ _).mp made
    exact ⟨precedence, nextUserPrecedence_after numbered,
      fun reject => absurd (rejects reject) Bool.false_ne_true, rfl, checked⟩

theorem removeRule_ok {id : RuleId} {found : Bool}
    (done : removeRule fresh state id = .ok (found, after)) :
    after = { state with rules := state.rules.filter (fun rule => rule.id != id) } ∧
      (state.Checked → after.Checked) := by
  unfold removeRule at done
  dsimp only at done
  split at done
  next same =>
    cases done
    have all := List.filter_eq_self.mpr (List.length_filter_eq_length_iff.mp same)
    exact ⟨by rw [all], fun checked => checked⟩
  next =>
    obtain ⟨_, replaced, rest⟩ := bind_ok.mp done
    cases rest
    obtain ⟨rfl, checked⟩ := replaceRules_ok replaced
    exact ⟨rfl, fun _ => checked⟩

/-- What touches neither the rules nor the choice about encrypted DNS keeps the checks. -/
theorem Checked.of_same (checked : state.Checked) (rules : after.rules = state.rules)
    (consent : after.consent = state.consent) : after.Checked := by
  obtain ⟨fresh, passed⟩ := checked
  exact ⟨fresh, by rw [rules, consent]; exact passed⟩

theorem addEndpoint_same {endpoint : StoredEndpoint}
    (done : state.addEndpoint endpoint = .ok after) :
    after.rules = state.rules ∧ after.consent = state.consent := by
  obtain ⟨_, done⟩ := refused_ok.mp done
  cases done
  exact ⟨rfl, rfl⟩

section Loaded

variable {display : DomainError → String}

theorem orInvalid_ok {Value : Type} {result : Except DomainError Value} {value : Value}
    (done : orInvalid display result = .ok value) : result = .ok value := by
  cases result with
  | error => cases done
  | ok => cases done; rfl

theorem addEndpoints_same (endpoints : List StoredEndpoint) (state : DomainState)
    (done : endpoints.foldlM (fun state endpoint =>
      orInvalid display (state.addEndpoint endpoint)) state = .ok after) :
    after.rules = state.rules ∧ after.consent = state.consent := by
  induction endpoints generalizing state with
  | nil =>
    cases done
    exact ⟨rfl, rfl⟩
  | cons _ _ ih =>
    obtain ⟨between, added, done⟩ := bind_ok.mp done
    obtain ⟨rules, consent⟩ := addEndpoint_same (orInvalid_ok added)
    obtain ⟨laterRules, laterConsent⟩ := ih between done
    exact ⟨laterRules.trans rules, laterConsent.trans consent⟩

theorem fromLoaded_checked {loaded : LoadedConfig}
    (done : fromLoaded fresh display loaded = .ok after) : after.Checked := by
  obtain ⟨profiles, _, done⟩ := bind_ok.mp done
  obtain ⟨withEndpoints, added, done⟩ := bind_ok.mp done
  obtain ⟨rules, consent⟩ := addEndpoints_same _ _ added
  have checked : withEndpoints.Checked := (checked_seeded fresh).of_same rules consent
  obtain ⟨chosen, consented, done⟩ := bind_ok.mp done
  have checkedChosen : chosen.Checked := by
    unfold restoreConsent at consented
    split at consented
    · cases consented
      exact checked
    · exact (applyConsent_ok (orInvalid_ok consented)).2
  split at done
  · cases done
    exact checkedChosen
  · exact (replaceRules_ok (orInvalid_ok done)).2

theorem fromLoadResult_checked (result : Except PersistError (Option LoadedConfig)) :
    (fromLoadResult fresh display result).1.Checked := by
  unfold fromLoadResult
  split
  · exact checked_seeded fresh
  · split
    next loaded => exact fromLoaded_checked loaded
    next => exact checked_seeded fresh
  · exact checked_seeded fresh

end Loaded

end DomainState

end DnetEngine
