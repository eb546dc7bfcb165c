import DnetEngine.Daemon.DomainState
import DnetEngine.Ipc.Protocol
import DnetEngine.Lib.Answers

/-! The changes of the configuration that a client asks for. Each is a transaction over the store in
memory, the sealed credentials and the saved file. The file, the secret store and the generators of
ids are effects in whatever monad they live; the store in memory is passed from call to call. -/

namespace DnetEngine.Configure

open Lib Ipc

inductive ConfigureError
  | refused (detail : String)
  | storage (detail : String)
  deriving DecidableEq

def ConfigureError.toIpcError : ConfigureError → IpcError
  | .refused detail => .invalidRequest detail
  | .storage detail => .internalError detail

def maxEndpoints : Nat := 64
def maxUserRules : Nat := 128

def PersistError.display : PersistError → String
  | .storage detail =>
    "the saved configuration could not be read or written (" ++ detail ++ ")"
  | .tooLarge => "the saved configuration is larger than 262144 bytes"
  | .malformed detail => "the saved configuration is not in the expected form (" ++ detail ++ ")"
  | .unsupportedVersion found =>
    "the saved configuration is format version " ++ toString found ++
      "; this version reads version 1"
  | .invalid detail => "the saved configuration has an invalid entry (" ++ detail ++ ")"

/-- The saved configuration and the sealed credentials, each as the texts of their errors tell, and
where new ids come from. -/
structure Configurator (m : Type → Type) (Bytes : Type) where
  toConfigBytes : DomainState → Except PersistError Bytes
  saveBytes : Bytes → m (Except PersistError Unit)
  put : SecretKey → EndpointCredentials → m (Except String Unit)
  delete : SecretKey → m (Except String Bool)
  newEndpointId : m EndpointId
  newRuleId : m RuleId
  /-- The ids of the built-in rules a change makes. -/
  newRuleIds : m (Nat → RuleId)
  display : DomainError → String

/-- The port shown beside an endpoint: the first method's that the bundle has. -/
def displayPort (new : NewEndpoint) : BitVec 16 :=
  let credentials := new.credentials
  ((credentials.amneziawg.map (·.serverPort)).or
    ((credentials.hysteria2.map (·.serverPort)).or
      (credentials.reality.map (·.serverPort)))).getD 0

/-- The endpoint that is asked for, under the id and the key it is given. -/
def makeEndpoint (id : EndpointId) (key : SecretKey) (new : NewEndpoint) :
    Except ConfigureError StoredEndpoint := do
  let address ← (EndpointAddress.new new.host (displayPort new)).mapError
    (fun _ => .refused "`host` is not a usable address")
  (StoredEndpoint.new id new.label address .manual key.credentialRef).mapError
    (fun _ => .refused "`label` is not a usable label")

namespace Configurator

variable {m : Type → Type} [Monad m] {Bytes Value : Type}

def save (configurator : Configurator m Bytes) (state : DomainState) :
    m (Except ConfigureError Unit) :=
  match configurator.toConfigBytes state with
  | .error error => pure (.error (.storage (PersistError.display error)))
  | .ok bytes => do
      match ← configurator.saveBytes bytes with
      | .error error => pure (.error (.storage (PersistError.display error)))
      | .ok () => pure (.ok ())

/-- Save a change of the store, and leave the store as it was if the change was refused or saving
fails. -/
def commit (configurator : Configurator m Bytes) (state : DomainState)
    (changed : Except ConfigureError (Value × DomainState)) :
    m (Except ConfigureError Value × DomainState) :=
  match changed with
  | .error error => pure (.error error, state)
  | .ok (value, after) => do
      match ← configurator.save after with
      | .error error => pure (.error error, state)
      | .ok () => pure (.ok value, after)

def applyAdd (configurator : Configurator m Bytes) (state : DomainState)
    (endpoint : StoredEndpoint) (key : SecretKey) (new : NewEndpoint) :
    m (Except ConfigureError DomainState) :=
  match state.addEndpoint endpoint with
  | .error _ => pure (.error (.refused "an endpoint with that label already exists"))
  | .ok added =>
    match configurator.toConfigBytes added with
    | .error error => pure (.error (.storage (PersistError.display error)))
    | .ok bytes => do
        match ← configurator.put key new.credentials with
        | .error error => pure (.error (.storage error))
        | .ok () =>
          match ← configurator.saveBytes bytes with
          | .error error =>
            -- The credentials have no endpoint to belong to; what a failure leaves is clutter.
            let _ ← configurator.delete key
            pure (.error (.storage (PersistError.display error)))
          | .ok () => pure (.ok added)

def addEndpoint (configurator : Configurator m Bytes) (state : DomainState) (new : NewEndpoint) :
    m (Except ConfigureError EndpointId × DomainState) :=
  if maxEndpoints ≤ state.endpoints.length then
    pure (.error (.refused "there are already 64 endpoints, the most that can be kept"), state)
  else do
    let id ← configurator.newEndpointId
    let key := SecretKey.forEndpoint id
    match makeEndpoint id key new with
    | .error error => pure (.error error, state)
    | .ok endpoint =>
      match ← configurator.applyAdd state endpoint key new with
      | .error error => pure (.error error, state)
      | .ok added => pure (.ok id, added)

/-- Remove an endpoint: the file first, then the credentials it no longer names. -/
def removeEndpoint (configurator : Configurator m Bytes) (state : DomainState) (id : EndpointId) :
    m (Except ConfigureError Unit × DomainState) :=
  match state.endpoint id with
  | none => pure (.error (.refused "there is no endpoint with that id"), state)
  | some endpoint =>
    if endpoint.hasCloudResources then
      pure (.error (.refused ("this endpoint holds cloud resources; removing it here would leave " ++
        "them running and billed. Remove it through the provisioning flow, which cleans them up")),
        state)
    else
      match SecretKey.parse endpoint.credentials with
      | .error error => pure (.error (.storage error), state)
      | .ok key => do
          match ← configurator.commit state (.ok ((), state.removeEndpoint id)) with
          | (.error error, state) => pure (.error error, state)
          | (.ok (), state) =>
            let _ ← configurator.delete key
            pure (.ok (), state)

def setEndpointEnabled (configurator : Configurator m Bytes) (state : DomainState)
    (id : EndpointId) (enabled : Bool) : m (Except ConfigureError Unit × DomainState) :=
  match state.endpoint id with
  | none => pure (.error (.refused "there is no endpoint with that id"), state)
  | some _ => configurator.commit state (.ok ((), state.setEndpointEnabled id enabled))

/-- Block encrypted DNS, or opt out; the text is the consequence to show when opting out. -/
def setEncryptedDns (configurator : Configurator m Bytes) (state : DomainState) (block : Bool) :
    m (Except ConfigureError (Option String) × DomainState) := do
  let fresh ← configurator.newRuleIds
  let changed : Except DomainError (Option String × DomainState) :=
    if block then (state.chooseEncryptedDnsBlock fresh).map (fun after => (none, after))
    else (state.optOutOfEncryptedDnsBlock fresh).map
      (fun (consequence, after) => (some consequence, after))
  configurator.commit state
    (changed.mapError (fun error => .storage (configurator.display error)))

def setBrutal (configurator : Configurator m Bytes) (state : DomainState) (profile : ProfileId)
    (bandwidth : Option BandwidthPair) (nowUnix : Nat) :
    m (Except ConfigureError Unit × DomainState) :=
  let setting := bandwidth.map (fun pair =>
    (pair, (⟨brutalWarningRevision, nowUnix⟩ : BrutalAcknowledgement)))
  let changed := (state.setBrutal profile setting).map (fun after => ((), after))
  configurator.commit state (changed.mapError .refused)

def addRule (configurator : Configurator m Bytes) (state : DomainState) (matcher : RuleMatcher)
    (action : RuleAction) : m (Except ConfigureError RuleId × DomainState) :=
  match matcher with
  | .application _ =>
    pure (.error (.refused ("rules by program are not applied in this build: the service does " ++
      "not yet see which program opened a connection. Use a rule for the site or the address " ++
      "instead")), state)
  | .domain _ | .domainSuffix _ | .ipCidr _ | .dnsPort | .encryptedDnsPort =>
    if maxUserRules ≤ (state.rules.filter (fun rule => !rule.builtin)).length then
      pure (.error (.refused "a person may add at most 128 rules; remove one first"), state)
    else do
      let id ← configurator.newRuleId
      let fresh ← configurator.newRuleIds
      let changed := (state.addUserRule fresh id matcher action).map (fun after => (id, after))
      configurator.commit state
        (changed.mapError (fun error => .refused (configurator.display error)))

def removeRule (configurator : Configurator m Bytes) (state : DomainState) (id : RuleId) :
    m (Except ConfigureError Unit × DomainState) :=
  match state.rules.find? (fun rule => rule.id == id) with
  | none => pure (.error (.refused "there is no rule with that id"), state)
  | some rule =>
    if rule.builtin then
      pure (.error (.refused ("a built-in rule cannot be removed: it keeps name lookups, the " ++
        "endpoint and local devices working")), state)
    else do
      let fresh ← configurator.newRuleIds
      let changed := (state.removeRule fresh id).map (fun (_, after) => ((), after))
      configurator.commit state
        (changed.mapError (fun error => .refused (configurator.display error)))

end Configurator

section Outcomes

variable {World Bytes Value : Type} {configurator : Configurator (StateM World) Bytes}
  {state : DomainState}

/-- A change that is answered with an error left the store as it was; one that is not made a store
of which `made` holds. -/
def Transacted {Error : Type} (state : DomainState) (made : Value → DomainState → Prop)
    (result : Except Error Value × DomainState) : Prop :=
  match result with
  | (.error _, after) => after = state
  | (.ok value, after) => made value after

theorem Transacted.mono {Error : Type} {made weaker : Value → DomainState → Prop}
    {result : Except Error Value × DomainState} (outcome : Transacted state made result)
    (implies : ∀ value after, made value after → weaker value after) :
    Transacted state weaker result := by
  obtain ⟨result, after⟩ := result
  cases result with
  | error => exact outcome
  | ok value => exact implies value after outcome

theorem commit_outcome (changed : Except ConfigureError (Value × DomainState)) :
    Answers (configurator.commit state changed)
      (Transacted state (fun value after => changed = .ok (value, after))) := by
  cases changed with
  | error => exact answers_pure rfl
  | ok change =>
    apply (answers_any (configurator.save change.2)).bind
    intro saved _
    cases saved with
    | error | ok => exact answers_pure rfl

theorem commit_transacted {changed : Except ConfigureError (Value × DomainState)}
    {made : Value → DomainState → Prop}
    (makes : ∀ value after, changed = .ok (value, after) → made value after) :
    Answers (configurator.commit state changed) (Transacted state made) :=
  (commit_outcome changed).mono fun _ outcome => outcome.mono makes

theorem map_mapError_ok {Error Made Shown : Type} {result : Except Error Made}
    {text : Error → Shown} {show_ : Made → Value} {value : Value}
    (done : (result.map show_).mapError text = .ok value) :
    ∃ made, result = .ok made ∧ show_ made = value := by
  cases result with
  | error => cases done
  | ok made =>
    cases done
    exact ⟨made, rfl, rfl⟩

theorem addEndpoint_outcome (new : NewEndpoint) :
    Answers (configurator.addEndpoint state new)
      (Transacted state (fun _ after => ∃ endpoint, state.addEndpoint endpoint = .ok after)) := by
  unfold Configurator.addEndpoint
  split
  · exact answers_pure rfl
  · apply (answers_any configurator.newEndpointId).bind
    intro id _
    dsimp only
    split
    · exact answers_pure rfl
    next endpoint made =>
      have applied : Answers (configurator.applyAdd state endpoint (.forEndpoint id) new)
          (fun result => ∀ after, result = .ok after → state.addEndpoint endpoint = .ok after) := by
        unfold Configurator.applyAdd
        split
        · exact answers_pure nofun
        next added stored =>
          split
          · exact answers_pure nofun
          · apply (answers_any _).bind
            intro put _
            cases put with
            | error => exact answers_pure nofun
            | ok _ =>
              apply (answers_any _).bind
              intro saved _
              cases saved with
              | error =>
                apply (answers_any _).bind
                exact fun _ _ => answers_pure nofun
              | ok =>
                apply answers_pure
                rintro after ⟨⟩
                exact stored
      apply applied.bind
      intro result holds
      cases result with
      | error => exact answers_pure rfl
      | ok added => exact answers_pure ⟨endpoint, holds added rfl⟩

theorem removeEndpoint_outcome (id : EndpointId) :
    Answers (configurator.removeEndpoint state id)
      (Transacted state (fun _ after => after = state.removeEndpoint id)) := by
  unfold Configurator.removeEndpoint
  split
  · exact answers_pure rfl
  · split
    · exact answers_pure rfl
    · split
      · exact answers_pure rfl
      · apply (commit_outcome _).bind
        rintro ⟨result, after⟩ outcome
        cases result with
        | error => exact answers_pure outcome
        | ok _ =>
          apply (answers_any _).bind
          intro _ _
          apply answers_pure
          cases outcome
          rfl

theorem setEndpointEnabled_outcome (id : EndpointId) (enabled : Bool) :
    Answers (configurator.setEndpointEnabled state id enabled)
      (Transacted state (fun _ after => after = state.setEndpointEnabled id enabled)) := by
  unfold Configurator.setEndpointEnabled
  split
  · exact answers_pure rfl
  · apply commit_transacted
    rintro _ _ ⟨⟩
    rfl

theorem setEncryptedDns_outcome (block : Bool) :
    Answers (configurator.setEncryptedDns state block)
      (Transacted state (fun _ after => ∃ fresh consequence,
        (block = true ∧ state.chooseEncryptedDnsBlock fresh = .ok after) ∨
          (block = false ∧ state.optOutOfEncryptedDnsBlock fresh = .ok (consequence, after)))) := by
  apply (answers_any _).bind
  intro fresh _
  apply commit_transacted
  intro _ after changed
  have done := mapError_ok changed
  cases block with
  | true =>
    cases made : state.chooseEncryptedDnsBlock fresh with
    | error => rw [made] at done; cases done
    | ok =>
      rw [made] at done
      cases done
      exact ⟨fresh, "", .inl ⟨rfl, made⟩⟩
  | false =>
    cases made : state.optOutOfEncryptedDnsBlock fresh with
    | error => rw [made] at done; cases done
    | ok chosen =>
      rw [made] at done
      cases done
      exact ⟨fresh, chosen.1, .inr ⟨rfl, made⟩⟩

theorem setBrutal_outcome (profile : ProfileId) (bandwidth : Option BandwidthPair)
    (nowUnix : Nat) :
    Answers (configurator.setBrutal state profile bandwidth nowUnix)
      (Transacted state (fun _ after => ∃ setting, state.setBrutal profile setting = .ok after)) := by
  apply commit_transacted
  intro _ after changed
  obtain ⟨made, done, same⟩ := map_mapError_ok changed
  cases same
  exact ⟨_, done⟩

theorem addRule_outcome (matcher : RuleMatcher) (action : RuleAction) :
    Answers (configurator.addRule state matcher action)
      (Transacted state (fun id after => ∃ fresh,
        state.addUserRule fresh id matcher action = .ok after)) := by
  unfold Configurator.addRule
  split
  · exact answers_pure rfl
  all_goals
    split
    · exact answers_pure rfl
    · apply (answers_any _).bind
      intro id _
      apply (answers_any _).bind
      intro fresh _
      apply commit_transacted
      intro _ after changed
      obtain ⟨made, done, same⟩ := map_mapError_ok changed
      cases same
      exact ⟨fresh, done⟩

theorem removeRule_outcome (id : RuleId) :
    Answers (configurator.removeRule state id)
      (Transacted state (fun _ after => ∃ fresh found,
        state.removeRule fresh id = .ok (found, after))) := by
  unfold Configurator.removeRule
  split
  · exact answers_pure rfl
  · split
    · exact answers_pure rfl
    · apply (answers_any _).bind
      intro fresh _
      apply commit_transacted
      intro _ after changed
      obtain ⟨⟨found, made⟩, done, same⟩ := map_mapError_ok changed
      cases same
      exact ⟨fresh, found, done⟩

end Outcomes

end DnetEngine.Configure
