import DnetEngine.Daemon.Service
import DnetEngine.Lib.Run

/-! What it takes for a request that redirects traffic to have an effect. Any number of clients send
frames, each with the identity of its token and the console session of the moment; whatever they
send, such a request takes effect only as a change that was held and that an elevated client in the
console session approves in time. -/

namespace DnetEngine.Service

open Lib Ipc Approval Configure

/-- The requests that change where traffic goes. -/
inductive Redirects (domain : DomainState) : Request → Prop
  | addEndpoint (new : NewEndpoint) : Redirects domain (.addEndpoint new)
  | finishServer (label host report : String) : Redirects domain (.finishServer label host report)
  | turnOn {id : EndpointId} (known : ∃ endpoint ∈ domain.endpoints, endpoint.id = id) :
      Redirects domain (.setEndpointEnabled id true)
  | bypass (matcher : RuleMatcher) : Redirects domain (.addRule matcher .bypass)
  | importFeed (documents : FeedImport) : Redirects domain (.importFeed documents)

theorem redirectsTraffic_isSome (domain : DomainState) (request : Request) :
    (redirectsTraffic domain request).isSome = true ↔ Redirects domain request := by
  constructor
  · intro told
    unfold redirectsTraffic at told
    split at told
    · exact .addEndpoint _
    · exact .finishServer _ _ _
    · rw [Option.isSome_map, List.find?_isSome] at told
      obtain ⟨endpoint, member, same⟩ := told
      exact .turnOn ⟨endpoint, member, by simpa using same⟩
    · exact .bypass _
    · exact .importFeed _
    all_goals cases told
  · intro redirects
    cases redirects with
    | turnOn known =>
      obtain ⟨endpoint, member, same⟩ := known
      rw [redirectsTraffic, Option.isSome_map, List.find?_isSome]
      exact ⟨endpoint, member, by simpa using same⟩
    | addEndpoint | finishServer | bypass | importFeed => rfl

theorem Redirects.mutating {domain : DomainState} {request : Request}
    (redirects : Redirects domain request) : request.requestClass = .mutating := by
  cases redirects <;> rfl

/-- The service with everything outside it. `kept` is what is stored there: the saved file, the
sealed credentials and the feed; reading the clock, drawing a name and opening an event stream do
not touch it. -/
structure Machine (World Kept Bytes Payload : Type) where
  host : Host (StateM World) Bytes
  decode : Payload → Except IpcError Request
  kept : World → Kept
  clock_keeps : ∀ world, kept (host.unixMillis.run world).2 = kept world
  names_keep : ∀ world, kept (host.freshChangeId.run world).2 = kept world
  streams_keep : ∀ world, kept (host.subscribe.run world).2 = kept world

structure State (World : Type) where
  service : DnetService
  world : World

/-- A frame from a client with what it is answered, or a change of the world that no frame makes. -/
inductive Label (Payload : Type)
  | frame (payload : Payload) (identity : ClientIdentity) (console : Option ConsoleSession)
      (reply : Reply)
  | elsewhere

variable {World Kept Bytes Payload : Type}

namespace Machine

variable (machine : Machine World Kept Bytes Payload)

/-- The time the service reads first when it handles a frame. -/
def now (state : State World) : Nat := (machine.host.unixMillis.run state.world).1

inductive Steps : State World → Label Payload → State World → Prop
  | frame {state after : State World} {payload : Payload} {identity : ClientIdentity}
      {console : Option ConsoleSession} {reply : Reply}
      (answers : (machine.host.dispatchRequest machine.decode state.service payload identity
        console).run state.world = ((reply, after.service), after.world)) :
      Steps state (.frame payload identity console reply) after
  | elsewhere {service : DnetService} {world later : World} :
      Steps ⟨service, world⟩ .elsewhere ⟨service, later⟩

abbrev History (World Payload : Type) := List (Taken (State World) (Label Payload))

def Approves (id : String) (label : Label Payload) : Prop :=
  ∃ payload identity console text,
    label = .frame payload identity console (.response (.ok text)) ∧
      machine.decode payload = .ok (.approveChange id)

/-- The change was carried out in this step, `world` being the world by then. -/
def Applied (request : Request) (before after : State World) (world : World) : Prop :=
  ∃ result, (machine.host.apply before.service.domain request).run world =
    ((result, after.service.domain), after.world)

/-- The frame asked for `request`, was allowed to make changes, and was told that the change waits
under `id`. -/
def Holds (id : String) (request : Request) (taken : Taken (State World) (Label Payload)) : Prop :=
  ∃ payload identity console what,
    taken.label =
        .frame payload identity console (.response (.error (.approvalRequired id what))) ∧
      machine.decode payload = .ok request ∧ Redirects taken.before.service.domain request ∧
      authorize .mutating identity console = .ok ()

/-- Exactly `request` was held under `id` at the time `asked`, and it was not applied since. -/
def HeldUnder (history : History World Payload) (id : String) (request : Request) (asked : Nat) :
    Prop :=
  ∃ newer taken older, history = newer ++ taken :: older ∧ machine.Holds id request taken ∧
    machine.now taken.before = asked ∧ ∀ later ∈ newer, ¬ machine.Approves id later.label

/-- What a frame may do to the store and to what is kept outside, `older` being what was sent
before it. -/
inductive Effect (older : History World Payload) (before after : State World) (payload : Payload)
    (identity : ClientIdentity) (console : Option ConsoleSession) : Prop
  | nothing (domain : after.service.domain = before.service.domain)
      (kept : machine.kept after.world = machine.kept before.world)
  | own {request : Request} (decoded : machine.decode payload = .ok request)
      (plain : ¬ Redirects before.service.domain request)
      (other : ∀ id, request ≠ .approveChange id)
      (applied : machine.Applied request before after before.world)
  | approved {id : String} {request : Request} {asked : Nat} {world : World}
      (decoded : machine.decode payload = .ok (.approveChange id))
      (elevated : identity.elevated = true)
      (session : ∃ session, console = some session ∧ identity.sessionId = session.sessionId)
      (held : machine.HeldUnder older id request asked)
      (inTime : machine.now before < asked + holdForMs)
      (applied : machine.Applied request before after world)

end Machine

section Handling

variable {machine : Machine World Kept Bytes Payload} {before after : State World}
  {payload : Payload} {identity : ClientIdentity} {console : Option ConsoleSession} {reply : Reply}

/-- Everything a frame can do. -/
inductive Handles (machine : Machine World Kept Bytes Payload) (before after : State World)
    (payload : Payload) (identity : ClientIdentity) (console : Option ConsoleSession) :
    Reply → Prop
  | refused {error : IpcError} (same : after.service = before.service)
      (kept : machine.kept after.world = machine.kept before.world) :
      Handles machine before after payload identity console (.response (.error error))
  | answered {request : Request} {reply : Reply} (decoded : machine.decode payload = .ok request)
      (other : ∀ id, request ≠ .approveChange id)
      (domain : after.service.domain = before.service.domain)
      (waiting : ∀ held ∈ after.service.pending.held, held ∈ before.service.pending.held)
      (kept : machine.kept after.world = machine.kept before.world) :
      Handles machine before after payload identity console reply
  | missing {error : IpcError} (domain : after.service.domain = before.service.domain)
      (waiting : ∀ held ∈ after.service.pending.held, held ∈ before.service.pending.held)
      (kept : machine.kept after.world = machine.kept before.world) :
      Handles machine before after payload identity console (.response (.error error))
  | approved {id : String} {held : Held Request} {result : Except IpcError String} {world : World}
      (decoded : machine.decode payload = .ok (.approveChange id))
      (allowed : authorize .approval identity console = .ok ())
      (member : held ∈ before.service.pending.held) (name : held.id = id)
      (unexpired : machine.now before < held.expiresUnixMs)
      (applied : machine.Applied held.request before after world)
      (waiting : ∀ other ∈ after.service.pending.held, other ∈ before.service.pending.held)
      (removed : ∀ text, result = .ok text →
        ∀ other ∈ after.service.pending.held, other.id ≠ id) :
      Handles machine before after payload identity console (.response result)
  | held {id what : String} {request : Request} (decoded : machine.decode payload = .ok request)
      (allowed : authorize .mutating identity console = .ok ())
      (redirects : Redirects before.service.domain request)
      (domain : after.service.domain = before.service.domain)
      (kept : machine.kept after.world = machine.kept before.world)
      (waiting : ∀ other ∈ after.service.pending.held,
        other ∈ before.service.pending.held ∨
          other = ⟨id, what, request, machine.now before,
            saturatingAdd (machine.now before) holdForMs⟩) :
      Handles machine before after payload identity console
        (.response (.error (.approvalRequired id what)))
  | own {request : Request} {result : Except IpcError String}
      (decoded : machine.decode payload = .ok request)
      (plain : ¬ Redirects before.service.domain request)
      (other : ∀ id, request ≠ .approveChange id)
      (pending : after.service.pending = before.service.pending)
      (applied : machine.Applied request before after before.world) :
      Handles machine before after payload identity console (.response result)

variable {result : Except IpcError String}

theorem handles_hold {request : Request} {what : String}
    (decoded : machine.decode payload = .ok request)
    (allowed : authorize request.requestClass identity console = .ok ())
    (told : redirectsTraffic before.service.domain request = some what)
    (answers : (machine.host.holdChange before.service request what).run before.world =
      ((result, after.service), after.world)) :
    Handles machine before after payload identity console (.response result) := by
  obtain ⟨service, world⟩ := after
  have redirects := (redirectsTraffic_isSome _ _).mp (Option.isSome_of_eq_some told)
  rw [redirects.mutating] at allowed
  unfold Host.holdChange at answers
  split at answers
  · cases answers
    exact .refused rfl rfl
  · rw [run_bind, run_bind] at answers
    have kept := (machine.names_keep (machine.host.unixMillis.run before.world).2).trans
      (machine.clock_keeps before.world)
    split at answers
    next id pending returns =>
      cases answers
      refine .held decoded allowed redirects rfl kept ?_
      intro other member
      rcases hold_cases returns with ⟨_, _, _, _, rfl⟩ | ⟨_, ⟨_, _, rfl⟩ | ⟨given, _, same, _, rfl⟩⟩
      · exact .inl (PendingChanges.mem_expire.mp member).1
      · exact .inl (PendingChanges.mem_expire.mp member).1
      · cases same
        rcases List.mem_append.mp member with waiting | pushed
        · exact .inl (PendingChanges.mem_expire.mp waiting).1
        · exact .inr (List.mem_singleton.mp pushed)
    next pending returns =>
      cases answers
      refine .missing rfl ?_ kept
      intro other member
      rcases hold_cases returns with ⟨_, _, _, wrong, _⟩ | ⟨_, ⟨_, _, rfl⟩ | ⟨_, _, wrong, _⟩⟩
      · cases wrong
      · exact (PendingChanges.mem_expire.mp member).1
      · cases wrong

variable {id : String}

theorem find_waiting {changes pending : PendingChanges Request} {time : Nat}
    {result : Except FindError (Held Request)} (found : changes.find id time = (result, pending)) :
    ∀ held ∈ pending.held, held ∈ changes.held := by
  have same : changes.expire time = pending :=
    (PendingChanges.find_changes changes id time).symm.trans (congrArg Prod.snd found)
  intro held member
  rw [← same] at member
  exact (PendingChanges.mem_expire.mp member).1

theorem handles_approve (decoded : machine.decode payload = .ok (.approveChange id))
    (allowed : authorize .approval identity console = .ok ())
    (answers : (machine.host.approveChange before.service id).run before.world =
      ((result, after.service), after.world)) :
    Handles machine before after payload identity console (.response result) := by
  obtain ⟨service, world⟩ := after
  unfold Host.approveChange at answers
  rw [run_bind] at answers
  split at answers
  next error pending found =>
    cases answers
    exact .missing rfl (find_waiting found) (machine.clock_keeps before.world)
  next held pending found =>
    obtain ⟨member, name, unexpired⟩ := PendingChanges.find_ok found
    rw [run_bind] at answers
    generalize applies : (machine.host.apply before.service.domain held.request).run _ = outcome
      at answers
    obtain ⟨⟨outcome, domain⟩, later⟩ := outcome
    cases outcome with
    | error =>
      cases answers
      exact .approved decoded allowed member name unexpired ⟨_, applies⟩ (find_waiting found)
        nofun
    | ok =>
      cases answers
      refine .approved decoded allowed member name unexpired ⟨_, applies⟩ ?_ ?_
      · intro other left
        exact find_waiting found other (PendingChanges.mem_remove.mp left).1
      · intro _ _ other left
        exact (PendingChanges.mem_remove.mp left).2

theorem handles_reject (decoded : machine.decode payload = .ok (.rejectChange id))
    (answers : (machine.host.rejectChange before.service id).run before.world =
      ((result, after.service), after.world)) :
    Handles machine before after payload identity console (.response result) := by
  obtain ⟨service, world⟩ := after
  unfold Host.rejectChange at answers
  rw [run_bind] at answers
  have kept := machine.clock_keeps before.world
  split at answers
  next error pending found =>
    cases answers
    exact .missing rfl (find_waiting found) kept
  next held pending found =>
    cases answers
    refine .answered decoded nofun rfl ?_ kept
    intro other left
    exact find_waiting found other (PendingChanges.mem_remove.mp left).1

theorem handles_dispatch (holds : machine.host.holdChanges = true) {request : Request}
    (decoded : machine.decode payload = .ok request)
    (allowed : authorize request.requestClass identity console = .ok ())
    (answers : (machine.host.dispatch before.service request).run before.world =
      ((result, after.service), after.world)) :
    Handles machine before after payload identity console (.response result) := by
  unfold Host.dispatch at answers
  split at answers
  · obtain ⟨service, world⟩ := after
    cases answers
    exact .answered decoded nofun rfl (fun held member => (PendingChanges.mem_expire.mp member).1)
      (machine.clock_keeps before.world)
  next id => exact handles_reject decoded answers
  next id => exact handles_approve decoded allowed answers
  next notListed notRejected notApproved =>
    rw [holds, if_pos rfl] at answers
    split at answers
    next what told => exact handles_hold decoded allowed told answers
    next told =>
      have plain : ¬ Redirects before.service.domain request := by
        intro redirects
        have some_ := (redirectsTraffic_isSome _ _).mpr redirects
        rw [told] at some_
        cases some_
      obtain ⟨service, world⟩ := after
      rw [run_bind] at answers
      generalize applies : (machine.host.apply before.service.domain request).run before.world =
        outcome at answers
      cases answers
      exact .own decoded plain notApproved rfl ⟨_, applies⟩

theorem handles_frame (holds : machine.host.holdChanges = true)
    (answers : (machine.host.dispatchRequest machine.decode before.service payload identity
      console).run before.world = ((reply, after.service), after.world)) :
    Handles machine before after payload identity console reply := by
  unfold Host.dispatchRequest at answers
  split at answers
  · obtain ⟨service, world⟩ := after
    cases answers
    exact .refused rfl rfl
  next request decoded =>
    split at answers
    · obtain ⟨service, world⟩ := after
      cases answers
      exact .refused rfl rfl
    next allowed =>
      split at answers
      · obtain ⟨service, world⟩ := after
        rw [run_bind] at answers
        split at answers
        all_goals
          cases answers
          exact .answered decoded nofun rfl (fun _ member => member)
            (machine.streams_keep before.world)
      · obtain ⟨service, world⟩ := after
        cases answers
        exact .answered decoded nofun rfl (fun _ member => member) rfl
      · rw [run_bind] at answers
        generalize dispatched : (machine.host.dispatch before.service request).run before.world =
          outcome at answers
        obtain ⟨service', world'⟩ := after
        cases answers
        exact handles_dispatch holds decoded allowed dispatched

theorem handles_waiting (handles : Handles machine before after payload identity console reply) :
    ∀ held ∈ after.service.pending.held,
      (held ∈ before.service.pending.held ∧
          ¬ machine.Approves held.id (.frame payload identity console reply)) ∨
        (held.expiresUnixMs = saturatingAdd held.proposedUnixMs holdForMs ∧
          machine.now before = held.proposedUnixMs ∧
          machine.Holds held.id held.request
            ⟨before, .frame payload identity console reply, after⟩) := by
  have failed {id : String} {error : IpcError} : ¬ machine.Approves id
      (.frame payload identity console (.response (.error error))) := by
    rintro ⟨_, _, _, _, ⟨⟩, _⟩
  have unrelated {request : Request} {id : String} {reply : Reply}
      (decoded : machine.decode payload = .ok request)
      (other : ∀ id, request ≠ .approveChange id) :
      ¬ machine.Approves id (.frame payload identity console reply) := by
    rintro ⟨_, _, _, _, ⟨⟩, approves⟩
    rw [decoded] at approves
    exact other id (Except.ok.inj approves)
  intro waiting member
  cases handles with
  | refused same =>
    rw [same] at member
    exact .inl ⟨member, failed⟩
  | answered decoded other _ before_ =>
    exact .inl ⟨before_ waiting member, unrelated decoded other⟩
  | missing _ before_ => exact .inl ⟨before_ waiting member, failed⟩
  | approved decoded _ _ _ _ _ before_ removed =>
    refine .inl ⟨before_ waiting member, ?_⟩
    rintro ⟨_, _, _, text, ⟨⟩, approves⟩
    rw [decoded] at approves
    have same := Request.approveChange.inj (Except.ok.inj approves)
    exact removed text rfl waiting member same.symm
  | held decoded allowed redirects _ _ before_ =>
    rcases before_ waiting member with earlier | rfl
    · exact .inl ⟨earlier, failed⟩
    · exact .inr ⟨rfl, rfl, _, _, _, _, rfl, decoded, redirects, allowed⟩
  | own decoded _ other pending =>
    rw [pending] at member
    exact .inl ⟨member, unrelated decoded other⟩

end Handling

section Runs

variable {machine : Machine World Kept Bytes Payload} {state : State World}
  {history : Machine.History World Payload}

/-- Every change that waits was asked for by a frame that was told so, and was not applied since. -/
def Justified (machine : Machine World Kept Bytes Payload)
    (history : Machine.History World Payload) (state : State World) : Prop :=
  ∀ held ∈ state.service.pending.held,
    held.expiresUnixMs = saturatingAdd held.proposedUnixMs holdForMs ∧
      machine.HeldUnder history held.id held.request held.proposedUnixMs

theorem heldUnder_next {taken : Taken (State World) (Label Payload)} {id : String}
    {request : Request} {asked : Nat} (held : machine.HeldUnder history id request asked)
    (unapproved : ¬ machine.Approves id taken.label) :
    machine.HeldUnder (taken :: history) id request asked := by
  obtain ⟨newer, first, older, whole, holds, time, still⟩ := held
  refine ⟨taken :: newer, first, older, by rw [whole]; rfl, holds, time, ?_⟩
  intro later member
  rcases List.mem_cons.mp member with rfl | member
  · exact unapproved
  · exact still later member

theorem justified_step (holds : machine.host.holdChanges = true) {label : Label Payload}
    {after : State World} (justified : Justified machine history state)
    (steps : machine.Steps state label after) :
    Justified machine (⟨state, label, after⟩ :: history) after := by
  intro held member
  cases steps with
  | elsewhere =>
    obtain ⟨lasts, under⟩ := justified held member
    refine ⟨lasts, heldUnder_next under ?_⟩
    rintro ⟨_, _, _, _, ⟨⟩, _⟩
  | frame answers =>
    rcases handles_waiting (handles_frame holds answers) held member with
      ⟨earlier, unapproved⟩ | ⟨lasts, time, held⟩
    · obtain ⟨lasts, under⟩ := justified held earlier
      exact ⟨lasts, heldUnder_next under unapproved⟩
    · exact ⟨lasts, [], _, history, rfl, held, time,
        fun _ member => absurd member List.not_mem_nil⟩

theorem justified_run (holds : machine.host.holdChanges = true) {domain : DomainState}
    {world : World} (run : Run machine.Steps ⟨⟨domain, .new⟩, world⟩ history state) :
    Justified machine history state :=
  run_invariant (Justified machine) (fun _ member => absurd member List.not_mem_nil)
    (fun _ _ _ _ _ justified steps => justified_step holds justified steps) run

end Runs

section Traces

/-- A service outside of which there is a clock and a count of the times the file was saved. -/
def desk : Machine (Nat × Nat) Nat Unit Request where
  host :=
    { recovery := .ok ()
      configRefusal := none
      holdChanges := true
      configurator := some
        { toConfigBytes := fun _ => .ok ()
          saveBytes := fun _ world => (.ok (), world.1, world.2 + 1)
          put := fun _ _ => pure (.ok ())
          delete := fun _ => pure (.ok true)
          newEndpointId := pure ⟨1⟩
          newRuleId := fun world => (⟨BitVec.ofNat 128 (world.2 + 2000)⟩, world)
          newRuleIds := pure fun n => ⟨BitVec.ofNat 128 (n + 1000)⟩
          display := fun _ => "" }
      feed := none
      serverSetup := none
      storable := fun _ => .ok ()
      isIdle := pure true
      reload := fun _ => pure ()
      publishFeedNotes := fun _ => pure ()
      unixMillis := fun world => (world.1, world.1 + 1, world.2)
      freshChangeId := pure "c4"
      subscribe := pure (.ok ())
      versionReply := ""
      pendingReply := fun _ => ""
      answer := fun _ _ => pure (.ok "") }
  decode := .ok
  kept := Prod.snd
  clock_keeps _ := rfl
  names_keep _ := rfl
  streams_keep _ := rfl

def person : ClientIdentity := ⟨"S-1-5-21-1001", 2, true, false⟩
def administrator : ClientIdentity := ⟨"S-1-5-21-500", 2, true, true⟩
def atConsole : Option ConsoleSession := some ⟨2, "S-1-5-21-1001"⟩

def send (state : State (Nat × Nat)) (request : Request) (identity : ClientIdentity) :
    Reply × State (Nat × Nat) :=
  let ((reply, service), world) :=
    (desk.host.dispatchRequest desk.decode state.service request identity atConsole).run state.world
  (reply, ⟨service, world⟩)

def atStart : State (Nat × Nat) where
  service := ⟨.seeded fun n => ⟨BitVec.ofNat 128 n⟩, .new⟩
  world := (0, 0)

def bypassAsked : Request := .addRule (.domainSuffix "one.example") .bypass
def asked : State (Nat × Nat) := (send atStart bypassAsked person).2
def approved : State (Nat × Nat) := (send asked (.approveChange "c4") administrator).2

end Traces

end DnetEngine.Service
