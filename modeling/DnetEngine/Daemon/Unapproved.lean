import DnetEngine.Daemon.ServiceApproval
import DnetEngine.Rules.Stricter

/-! What a request that waits for no approval does to the rules. Most of them send nothing more
around the tunnel; one that takes rules away does unless what these refused or tunnelled is kept off
the remaining bypasses otherwise. -/

namespace DnetEngine.Service

open Lib Ipc Configure

/-- The rules that a request takes away when it is carried out. -/
def takenAway : Request → RoutingRule → Bool
  | .removeRule id, rule => rule.id == id
  | .setEncryptedDnsHandling false, rule => rule.action == .reject
  | _, _ => false

/-- What a request that is carried out does to the rules. -/
inductive Makes (before after : DomainState) : Request → Prop
  | nothing {request : Request} (rules : after.rules = before.rules)
      (consent : after.consent = before.consent) (takes : ∀ rule, takenAway request rule = false) :
      Makes before after request
  | added {matcher : RuleMatcher} {action : RuleAction} {id : RuleId} {precedence : Nat}
      (rules : after.rules = before.rules ++ [⟨id, matcher, action, precedence, false⟩])
      (personal : action ≠ .reject) (checked : after.Checked) :
      Makes before after (.addRule matcher action)
  | removed {id : RuleId} (rules : after.rules = before.rules.filter (fun rule => rule.id != id))
      (checked : before.Checked → after.Checked) : Makes before after (.removeRule id)
  | blocked {fresh : Nat → RuleId}
      (rules : after.rules = before.rules.filter (fun rule => rule.action != .reject) ++
        blockingRules fresh .block)
      (checked : after.Checked) : Makes before after (.setEncryptedDnsHandling true)
  | unblocked (rules : after.rules = before.rules.filter (fun rule => rule.action != .reject))
      (checked : after.Checked) : Makes before after (.setEncryptedDnsHandling false)

section Applying

variable {World Bytes Value : Type} {host : Host (StateM World) Bytes} {state : DomainState}

theorem change_outcome
    {make : Configurator (StateM World) Bytes →
      StateM World (Except ConfigureError Value × DomainState)}
    {reply : Value → String} {made : DomainState → Prop}
    (makes : ∀ configurator, Answers (make configurator) (Transacted state (fun _ => made))) :
    Answers (host.change state make reply) (Transacted state (fun _ => made)) := by
  apply (answers_any host.beforeChange).bind
  intro ready _
  cases ready with
  | error => exact answers_pure rfl
  | ok configurator =>
    apply (makes configurator).bind
    rintro ⟨result, after⟩ outcome
    cases result with
    | error => exact answers_pure outcome
    | ok =>
      apply (answers_any (host.reload after)).bind
      exact fun _ _ => answers_pure outcome

theorem finishServer_outcome (label address report : String) :
    Answers (host.finishServer state label address report)
      (Transacted state (fun _ after => ∃ endpoint, state.addEndpoint endpoint = .ok after)) := by
  apply (answers_any host.beforeChange).bind
  intro ready _
  cases ready with
  | error => exact answers_pure rfl
  | ok =>
    dsimp only
    split
    · exact answers_pure rfl
    next setup _ =>
      apply (answers_any host.unixMillis).bind
      intro now _
      apply (answers_any (setup.finish report (now / 1000))).bind
      intro finished _
      cases finished with
      | error => exact answers_pure rfl
      | ok =>
        dsimp only
        split
        · exact answers_pure rfl
        next new _ =>
          apply (addEndpoint_outcome new).bind
          rintro ⟨result, after⟩ outcome
          cases result with
          | error => exact answers_pure outcome
          | ok =>
            apply (answers_any setup.complete).bind
            intro _ _
            apply (answers_any (host.reload after)).bind
            exact fun _ _ => answers_pure outcome

variable {after : DomainState}

theorem makes_of_addEndpoint {request : Request} (takes : ∀ rule, takenAway request rule = false)
    (done : ∃ endpoint, state.addEndpoint endpoint = .ok after) :
    Makes state after request := by
  obtain ⟨endpoint, done⟩ := done
  obtain ⟨rules, consent⟩ := DomainState.addEndpoint_same done
  exact .nothing rules consent takes

theorem makes_of_setEncryptedDns {block : Bool} (done : ∃ fresh consequence,
      (block = true ∧ state.chooseEncryptedDnsBlock fresh = .ok after) ∨
        (block = false ∧ state.optOutOfEncryptedDnsBlock fresh = .ok (consequence, after))) :
    Makes state after (.setEncryptedDnsHandling block) := by
  obtain ⟨fresh, consequence, ⟨rfl, done⟩ | ⟨rfl, done⟩⟩ := done
  · obtain ⟨rfl, checked⟩ := DomainState.applyConsent_ok done
    exact .blocked rfl checked
  · obtain ⟨_, applied, rest⟩ := bind_ok.mp done
    cases rest
    obtain ⟨rfl, checked⟩ := DomainState.applyConsent_ok applied
    exact .unblocked (List.append_nil _) checked

theorem makes_of_setBrutal {request : Request} (takes : ∀ rule, takenAway request rule = false)
    {profile : ProfileId} (done : ∃ setting, state.setBrutal profile setting = .ok after) :
    Makes state after request := by
  obtain ⟨setting, done⟩ := done
  obtain ⟨_, _, rest⟩ := bind_ok.mp done
  obtain ⟨_, _, rest⟩ := bind_ok.mp rest
  cases rest
  exact .nothing rfl rfl takes

theorem perform_outcome (request : Request) :
    Answers (host.perform state request)
      (Transacted state (fun _ after => Makes state after request)) := by
  cases request with
  | addEndpoint new =>
    exact change_outcome fun _ => (addEndpoint_outcome new).mono fun _ outcome =>
      outcome.mono fun _ _ => makes_of_addEndpoint fun _ => rfl
  | removeEndpoint endpoint =>
    refine change_outcome fun _ => (removeEndpoint_outcome endpoint).mono fun _ outcome =>
      outcome.mono ?_
    rintro _ _ rfl
    exact .nothing rfl rfl fun _ => rfl
  | setEndpointEnabled endpoint enabled =>
    refine change_outcome fun _ => (setEndpointEnabled_outcome endpoint enabled).mono
      fun _ outcome => outcome.mono ?_
    rintro _ _ rfl
    exact .nothing rfl rfl fun _ => rfl
  | finishServer label address report =>
    exact (finishServer_outcome label address report).mono fun _ outcome =>
      outcome.mono fun _ _ => makes_of_addEndpoint fun _ => rfl
  | addRule matcher action =>
    refine change_outcome fun _ => (addRule_outcome matcher action).mono fun _ outcome =>
      outcome.mono ?_
    rintro id _ ⟨fresh, done⟩
    obtain ⟨precedence, _, personal, rfl, checked⟩ := DomainState.addUserRule_ok done
    exact .added rfl personal checked
  | removeRule id =>
    refine change_outcome fun _ => (removeRule_outcome id).mono fun _ outcome =>
      outcome.mono ?_
    rintro _ _ ⟨fresh, found, done⟩
    obtain ⟨rfl, checked⟩ := DomainState.removeRule_ok done
    exact .removed rfl checked
  | enableBrutal profile | disableBrutal profile =>
    exact change_outcome fun _ => (answers_any host.unixMillis).bind fun now _ =>
      (setBrutal_outcome profile _ _).mono fun _ outcome =>
        outcome.mono fun _ _ => makes_of_setBrutal fun _ => rfl
  | setEncryptedDnsHandling block =>
    exact change_outcome fun _ => (setEncryptedDns_outcome block).mono fun _ outcome =>
      outcome.mono fun _ _ => makes_of_setEncryptedDns
  | setProfileParams | startProvisioning | cancelProvisioning | listPending | approveChange
  | rejectChange | subscribe => exact answers_pure rfl
  | importFeed | getVersion | getState | getSession | getPaths | getStats | getComponents
  | listEndpoints | listProfiles | listRules | getDiagnostics | connect | disconnect | prepareServer
  | fetchFeed =>
    apply (answers_any _).bind
    intro result _
    apply answers_pure
    cases result with
    | error => rfl
    | ok => exact .nothing rfl rfl fun _ => rfl

/-- A request that is not carried out leaves the store as it was. -/
theorem apply_outcome (request : Request) :
    Answers (host.apply state request)
      (Transacted state (fun _ after => Makes state after request)) := by
  unfold Host.apply
  split
  · exact answers_pure rfl
  · exact perform_outcome request

end Applying

section Runs

/-- The store, and everything outside the service. -/
structure Setting (World : Type) where
  domain : DomainState
  world : World

/-- A request with what it is answered, or a change of the world that no request makes. -/
inductive Deed
  | request (request : Request) (result : Except IpcError String)
  | elsewhere

variable {World Bytes : Type}

inductive Host.Does (host : Host (StateM World) Bytes) :
    Setting World → Deed → Setting World → Prop
  | request {before after : Setting World} {request : Request} {result : Except IpcError String}
      (applies : (host.apply before.domain request).run before.world =
        ((result, after.domain), after.world)) :
      host.Does before (.request request result) after
  | elsewhere {domain : DomainState} {world later : World} :
      host.Does ⟨domain, world⟩ .elsewhere ⟨domain, later⟩

/-- The store passes its checks, and whatever refuses is where the block has it. -/
structure Tidy (state : DomainState) : Prop where
  checked : state.Checked
  placed : BlockPlaced state.rules

theorem blockPlaced_seeded (fresh : Nat → RuleId) : BlockPlaced (DomainState.seeded fresh).rules :=
  (blockPlaced_of_not_reject fun rule member =>
    (mem_builtinRules (expect_ok _ (builtinRules_isOk fresh)) rule member).2).append
      (blockPlaced_blockingRules fresh .block)

theorem blockPlaced_applyConsent {fresh : Nat → RuleId} {state after : DomainState}
    {next : ConsentState} (placed : BlockPlaced state.rules)
    (done : state.applyConsent fresh next = .ok after) : BlockPlaced after.rules := by
  obtain ⟨rfl, _⟩ := DomainState.applyConsent_ok done
  exact (placed.filter _).append (blockPlaced_blockingRules fresh _)

theorem LoadedConfig.not_reject (loaded : LoadedConfig) :
    ∀ rule ∈ loaded.rules, rule.action ≠ .reject := by
  intro rule member rejects
  have restored := loaded.restored rule member
  unfold RoutingRule.restoredUser at restored
  rw [rejects, if_pos (by simp)] at restored
  cases restored

theorem fromLoaded_placed {fresh : Nat → RuleId} {display : DomainError → String}
    {loaded : LoadedConfig} {after : DomainState}
    (done : DomainState.fromLoaded fresh display loaded = .ok after) :
    BlockPlaced after.rules := by
  obtain ⟨profiles, _, done⟩ := bind_ok.mp done
  obtain ⟨withEndpoints, added, done⟩ := bind_ok.mp done
  have placed : BlockPlaced withEndpoints.rules := by
    rw [(DomainState.addEndpoints_same _ _ added).1]
    exact blockPlaced_seeded fresh
  obtain ⟨chosen, consented, done⟩ := bind_ok.mp done
  have chosenPlaced : BlockPlaced chosen.rules := by
    unfold DomainState.restoreConsent at consented
    split at consented
    · cases consented
      exact placed
    · exact blockPlaced_applyConsent placed (DomainState.orInvalid_ok consented)
  split at done
  · cases done
    exact chosenPlaced
  · obtain ⟨rfl, _⟩ := DomainState.replaceRules_ok (DomainState.orInvalid_ok done)
    exact chosenPlaced.append (blockPlaced_of_not_reject (LoadedConfig.not_reject loaded))

theorem tidy_fromLoadResult (fresh : Nat → RuleId) (display : DomainError → String)
    (result : Except PersistError (Option LoadedConfig)) :
    Tidy (DomainState.fromLoadResult fresh display result).1 := by
  refine ⟨DomainState.fromLoadResult_checked result, ?_⟩
  unfold DomainState.fromLoadResult
  split
  · exact blockPlaced_seeded fresh
  · split
    next loaded => exact fromLoaded_placed loaded
    next => exact blockPlaced_seeded fresh
  · exact blockPlaced_seeded fresh

variable {before after : DomainState} {request : Request}

theorem tidy_makes (tidy : Tidy before) (makes : Makes before after request) : Tidy after := by
  cases makes with
  | nothing rules consent =>
    exact ⟨tidy.checked.of_same rules consent, by rw [rules]; exact tidy.placed⟩
  | added rules personal checked =>
    refine ⟨checked, ?_⟩
    rw [rules]
    refine tidy.placed.append (blockPlaced_of_not_reject ?_)
    intro rule member
    rw [List.mem_singleton.mp member]
    exact personal
  | removed rules checked =>
    refine ⟨checked tidy.checked, ?_⟩
    rw [rules]
    exact tidy.placed.filter _
  | blocked rules checked =>
    refine ⟨checked, ?_⟩
    rw [rules]
    exact (tidy.placed.filter _).append (blockPlaced_blockingRules _ .block)
  | unblocked rules checked =>
    refine ⟨checked, ?_⟩
    rw [rules]
    exact tidy.placed.filter _

variable {host : Host (StateM World) Bytes}

theorem Host.Does.outcome {before after : Setting World} {request : Request}
    {result : Except IpcError String} (does : host.Does before (.request request result) after) :
    Transacted before.domain (fun _ domain => Makes before.domain domain request)
      (result, after.domain) := by
  cases does with
  | request applies =>
    have outcome := (apply_outcome request : Answers (host.apply before.domain request) _).always
      before.world
    rw [applies] at outcome
    exact outcome

theorem tidy_step {before after : Setting World} {deed : Deed} (tidy : Tidy before.domain)
    (does : host.Does before deed after) : Tidy after.domain := by
  cases deed with
  | elsewhere =>
    cases does
    exact tidy
  | request _ result =>
    have outcome := does.outcome
    cases result with
    | error =>
      rw [show after.domain = before.domain from outcome]
      exact tidy
    | ok => exact tidy_makes tidy outcome

variable {lowercase : String → String}

theorem shielded_of_none {rules : List RoutingRule} {taken : RoutingRule → Bool}
    (takes : ∀ rule, taken rule = false) : Shielded lowercase rules taken := by
  intro flow shield bypass decides gone
  rw [takes shield] at gone
  cases gone

theorem stricter_makes_iff (tidy : Tidy before) (makes : Makes before after request)
    (plain : redirectsTraffic before request = none) :
    Stricter lowercase before.rules after.rules ↔
      Shielded lowercase before.rules (takenAway request) := by
  have distinct := tidy.checked.distinct
  cases makes with
  | nothing rules _ takes =>
    rw [rules]
    exact iff_of_true (stricter_refl _) (shielded_of_none takes)
  | @added _ _ _ _ rules =>
    rw [rules]
    refine iff_of_true (stricter_append distinct ?_) (shielded_of_none fun _ => rfl)
    rintro rfl
    cases plain
  | removed rules | unblocked rules =>
    rw [rules]
    exact stricter_filter_iff distinct _
  | blocked rules =>
    rw [rules]
    exact iff_of_true (stricter_block _ distinct tidy.placed) (shielded_of_none fun _ => rfl)

/-- Whatever was asked for since start-up, a request that waits for no approval and is carried out
sends nothing more around the tunnel exactly if every flow decided by a rule it takes away, if that
was no bypass, is matched by a remaining rule ahead of the remaining bypasses. -/
theorem unapproved_stricter_iff {fresh : Nat → RuleId} {display : DomainError → String}
    {loaded : Except PersistError (Option LoadedConfig)} {world : World}
    {history : List (Taken (Setting World) Deed)} {before after : Setting World}
    {request : Request} {text : String}
    (run : Run host.Does ⟨(DomainState.fromLoadResult fresh display loaded).1, world⟩ history
      before)
    (plain : redirectsTraffic before.domain request = none)
    (does : host.Does before (.request request (.ok text)) after) :
    Stricter lowercase before.domain.rules after.domain.rules ↔
      Shielded lowercase before.domain.rules (takenAway request) := by
  have tidy := run_state_invariant (fun setting : Setting World => Tidy setting.domain)
    (tidy_fromLoadResult fresh display loaded) (fun _ _ _ => tidy_step) run
  exact stricter_makes_iff tidy does.outcome plain

end Runs

section Traces

def ask (setting : Setting (Nat × Nat)) (request : Request) :
    Except IpcError String × Setting (Nat × Nat) :=
  let ((result, domain), world) := (desk.host.apply setting.domain request).run setting.world
  (result, ⟨domain, world⟩)

def firstStart : Setting (Nat × Nat) where
  domain := (DomainState.fromLoadResult (fun n => ⟨BitVec.ofNat 128 n⟩) (fun _ => "") (.ok none)).1
  world := (0, 0)

def mailTunnelled : Request := .addRule (.domain "mail.one.example") .tunnel
def tunnelled : Setting (Nat × Nat) := (ask firstStart mailTunnelled).2
def bypassed : Setting (Nat × Nat) := (ask tunnelled bypassAsked).2

def mailReleased : Request := .removeRule ⟨2000⟩

def mail : Flow := ⟨.named "mail.one.example", 443, .tcp, none⟩

theorem does_ask (setting : Setting (Nat × Nat)) (request : Request) :
    desk.host.Does setting (.request request (ask setting request).1) (ask setting request).2 :=
  .request rfl

theorem tunnelled_reached :
    Run desk.host.Does firstStart
      [⟨firstStart, .request mailTunnelled (ask firstStart mailTunnelled).1, tunnelled⟩]
      tunnelled :=
  Run.start.next (does_ask firstStart mailTunnelled)

theorem does_mailReleased (setting : Setting (Nat × Nat))
    (answered : (ask setting mailReleased).1 = .ok applied) :
    desk.host.Does setting (.request mailReleased (.ok applied)) (ask setting mailReleased).2 := by
  rw [← answered]
  exact does_ask setting mailReleased

/-- A name is tunnelled, its domain sent around the tunnel with approval; then the rule for the name
is removed without one, and what was tunnelled is not. -/
theorem unapproved_looser :
    ∃ history, Run desk.host.Does firstStart history bypassed ∧
      redirectsTraffic bypassed.domain mailReleased = none ∧
      desk.host.Does bypassed (.request mailReleased (.ok applied)) (ask bypassed mailReleased).2 ∧
      (evaluate id bypassed.domain.rules mail).action = .tunnel ∧
      (evaluate id (ask bypassed mailReleased).2.domain.rules mail).action = .bypass := by
  have evaluated : (ask bypassed mailReleased).1 = .ok applied ∧
      (evaluate id bypassed.domain.rules mail).action = .tunnel ∧
      (evaluate id (ask bypassed mailReleased).2.domain.rules mail).action = .bypass := by
    decide +kernel
  exact ⟨_, tunnelled_reached.next (does_ask tunnelled bypassAsked), rfl,
    does_mailReleased bypassed evaluated.1, evaluated.2⟩

/-- With no bypass of the person's, removing the rule leaves the name in the tunnel. -/
theorem unapproved_stricter_iff_alone :
    (ask tunnelled mailReleased).2.domain.rules.length + 1 = tunnelled.domain.rules.length ∧
      Stricter id tunnelled.domain.rules (ask tunnelled mailReleased).2.domain.rules := by
  have evaluated : (ask tunnelled mailReleased).1 = .ok applied ∧
      (ask tunnelled mailReleased).2.domain.rules.length + 1 = tunnelled.domain.rules.length ∧
      ∀ rule ∈ tunnelled.domain.rules,
        (rule.action = .bypass → rule.precedence < userRulesStart) ∧
          (takenAway mailReleased rule = true → userRulesStart ≤ rule.precedence) := by
    decide +kernel
  obtain ⟨answered, shorter, placed⟩ := evaluated
  refine ⟨shorter, ?_⟩
  apply (unapproved_stricter_iff tunnelled_reached rfl (does_mailReleased tunnelled answered)).mpr
  intro flow shield bypass decides gone _ member _ action hit
  have first := decides.lowest bypass member hit
  have late := (placed shield decides.member).2 gone
  have early := (placed bypass member).1 action
  omega

end Traces

end DnetEngine.Service
