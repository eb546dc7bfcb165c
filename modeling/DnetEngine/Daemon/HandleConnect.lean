import DnetEngine.Daemon.Handle

/-! A connect that was accepted is never lost and never doubled: in every interleaving of the
callers, the actor and the work behind it, the flag has one holder at most, and the engine is at
rest whenever the actor takes a connect. -/

namespace DnetEngine.Orchestrator

open Lib

def Call.holds : Call → Bool
  | .judging _ | .sending _ | .releasing => true
  | .claiming _ | .reading _ | .loading _ _ | .stopping | .loadingIdle | .readingIdle | .closing
  | .returned _ => false

def Msg.connects : Msg → Option (Option ProfileId)
  | .connect profile => some profile
  | .disconnect | .shutdown | .report _ _ => none

namespace Shared

abbrev History := List (Taken Shared Turn)

def accepts (taken : Taken Shared Turn) : Option (Option ProfileId) :=
  match taken.label with
  | .call index _ =>
    match taken.before.calls[index]?, taken.after.calls[index]? with
    | some (.sending profile), some (.returned .accepted) => some profile
    | _, _ => none
  | _ => none

def processes (taken : Taken Shared Turn) : Option (Option ProfileId) :=
  match taken.label with
  | .take _ _ _ => taken.before.core.mail.head?.bind Msg.connects
  | _ => none

/-- The actor publishes where a connect led. -/
def publishes (taken : Taken Shared Turn) : Bool :=
  taken.label == .goOn && taken.before.serving == .publishing true

def accepted (history : History) : List (Option ProfileId) := history.reverse.filterMap accepts

def processed (history : History) : List (Option ProfileId) := history.reverse.filterMap processes

def waiting (s : Shared) : List (Option ProfileId) := s.core.mail.filterMap Msg.connects

variable {brutal : ConnectionProfile → Bool} {s after : Shared} {history : History}

/-- Everything a step can do. -/
inductive Moves (brutal : ConnectionProfile → Bool) (s : Shared) : Turn → Shared → Prop
  | begin (request : Request) :
      Moves brutal s (.begin request) { s with calls := s.calls ++ [request.begin] }
  | claim {index : Nat} {room : Bool} {profile : Option ProfileId}
      (here : s.calls[index]? = some (.claiming profile)) (free : s.connecting = false) :
      Moves brutal s (.call index room)
        (({ s with connecting := true } : Shared).set index (.judging profile))
  | judge {index : Nat} {room : Bool} {profile : Option ProfileId}
      (here : s.calls[index]? = some (.judging profile)) (rest : s.state.status.atRest = true) :
      Moves brutal s (.call index room) (s.set index (.sending profile))
  | refuse {index : Nat} {room : Bool} {call : Call} (here : s.calls[index]? = some call)
      (holds : call.holds = true) : Moves brutal s (.call index room) (s.set index .releasing)
  | accept {index : Nat} {room : Bool} {profile : Option ProfileId}
      (here : s.calls[index]? = some (.sending profile)) :
      Moves brutal s (.call index room)
        (({ s with core := s.core.push (.connect profile) } : Shared).set index
          (.returned .accepted))
  | release {index : Nat} {room : Bool} (here : s.calls[index]? = some .releasing) :
      Moves brutal s (.call index room)
        (({ s with connecting := false } : Shared).set index (.returned (.refused .serviceBusy)))
  | send {index : Nat} {room : Bool} {call next : Call} {message : Msg}
      (here : s.calls[index]? = some call) (free : call.holds = false)
      (still : next.holds = false) (other : message = .disconnect ∨ message = .shutdown) :
      Moves brutal s (.call index room)
        (({ s with core := s.core.push message } : Shared).set index next)
  | look {index : Nat} {room : Bool} {call next : Call} (here : s.calls[index]? = some call)
      (free : call.holds = false) (still : next.holds = false) :
      Moves brutal s (.call index room) (s.set index next)
  | take {environment : Environment} {now : Instant} {watchable : Bool} {message : Msg}
      {rest : List Msg} {core : System} (ready : s.serving = .ready)
      (queue : s.core.mail = message :: rest)
      (handled : s.core.handle environment now watchable = some core) :
      Moves brutal s (.take environment now watchable) { s with core, serving := serves message }
  | publishConnect (serving : s.serving = .publishing true) :
      Moves brutal s .goOn (({ s with serving := .clearing } : Shared).publishState brutal)
  | publishOther (serving : s.serving = .publishing false ∨ s.serving = .ending) :
      Moves brutal s .goOn (({ s with serving := .ready } : Shared).publishState brutal)
  | clear (serving : s.serving = .clearing) :
      Moves brutal s .goOn { s with connecting := false, serving := .ready }
  | background {choice : Choice} {core : System} (behind : choice.isBackground = true)
      (works : s.core.next choice = some core) :
      Moves brutal s (.background choice) { s with core }

theorem runCall_moves {index : Nat} {room : Bool} (ran : s.runCall index room = some after) :
    Moves brutal s (.call index room) after := by
  simp only [runCall] at ran
  split at ran
  · cases ran
  · rename_i profile here
    split at ran <;> cases ran
    · exact .look here rfl rfl
    · rename_i free
      exact .claim here (Bool.eq_false_iff.mpr free)
  · rename_i profile here
    split at ran <;> cases ran
    · rename_i rest
      exact .judge here rest
    · exact .refuse here rfl
  · rename_i profile here
    cases ran
    rw [trySend]
    split
    · exact .accept here
    · exact .refuse here rfl
  · rename_i here
    cases ran
    exact .release here
  · rename_i purpose here
    cases ran
    exact .look here rfl rfl
  · rename_i state here
    cases ran
    exact .look here rfl rfl
  · rename_i state here
    split at ran <;> cases ran <;> exact .look here rfl rfl
  · rename_i here
    cases ran
    rw [trySend]
    split
    · exact .send here rfl rfl (.inl rfl)
    · exact .look here rfl rfl
  · rename_i here
    split at ran <;> cases ran <;> exact .look here rfl rfl
  · rename_i here
    cases ran
    exact .look here rfl rfl
  · rename_i here
    cases ran
    rw [trySend]
    split
    · exact .send here rfl rfl (.inr rfl)
    · exact .look here rfl rfl
  · cases ran

theorem next_moves {turn : Turn} (taken : s.next brutal turn = some after) :
    Moves brutal s turn after := by
  cases turn with
  | begin request =>
    cases taken
    exact .begin request
  | call => exact runCall_moves taken
  | take environment now watchable =>
    simp only [Shared.next, Shared.take] at taken
    split at taken
    · rename_i message rest ready queue
      obtain ⟨core, handled, rfl⟩ := Option.map_eq_some_iff.mp taken
      exact .take ready queue handled
    · cases taken
  | goOn =>
    simp only [Shared.next, Shared.goOn] at taken
    split at taken
    · cases taken
    · rename_i serving
      cases taken
      exact .publishConnect serving
    · rename_i serving
      cases taken
      exact .publishOther (.inl serving)
    · rename_i serving
      cases taken
      exact .clear serving
    · rename_i serving
      cases taken
      exact .publishOther (.inr serving)
  | background choice =>
    obtain ⟨behind, taken⟩ := Option.ite_none_right_eq_some.mp taken
    obtain ⟨core, works, rfl⟩ := Option.map_eq_some_iff.mp taken
    exact .background behind works

section Queue

def takes (taken : Taken Shared Turn) : Option Msg :=
  match taken.label with
  | .take _ _ _ => taken.before.core.mail.head?
  | _ => none

def served (history : History) : List Msg := history.reverse.filterMap takes

theorem processed_eq (history : History) :
    processed history = (served history).filterMap Msg.connects := by
  rw [processed, served, List.filterMap_filterMap]
  congr 1
  funext taken
  rw [processes, takes]
  split <;> rfl

theorem accepted_cons (taken : Taken Shared Turn) (history : History) :
    accepted (taken :: history) = accepted history ++ (accepts taken).toList := by
  cases found : accepts taken <;> simp [accepted, found]

theorem served_cons (taken : Taken Shared Turn) (history : History) :
    served (taken :: history) = served history ++ (takes taken).toList := by
  cases found : takes taken <;> simp [served, found]

variable {core : System} {message : Msg} {index : Nat} {room : Bool} {call : Call} {newer : History}

/-- What the executor and the tasks do to the queue: they report, and no more. -/
theorem background_mail {later : System} {choice : Choice} (behind : choice.isBackground = true)
    (works : core.next choice = some later) :
    later.actor = core.actor ∧ later.accepting = core.accepting ∧
      (later.mail = core.mail ∨
        ∃ attempt input, later.mail = core.mail ++ [.report attempt input]) := by
  have pushed {before : System} (attempt : Nat) (input : Input) (actor : before.actor = core.actor)
      (accepting : before.accepting = core.accepting) (mail : before.mail = core.mail) :
      (before.push (.report attempt input)).actor = core.actor ∧
        (before.push (.report attempt input)).accepting = core.accepting ∧
        ((before.push (.report attempt input)).mail = core.mail ∨
          ∃ attempt' input', (before.push (.report attempt input)).mail =
            core.mail ++ [.report attempt' input']) := by
    rw [System.push]
    split
    · exact ⟨actor, accepting, .inr ⟨attempt, input, by rw [mail]⟩⟩
    · exact ⟨actor, accepting, .inl mail⟩
  cases choice with
  | ask | handle => cases behind
  | takeWork =>
    obtain ⟨first, rest, took⟩ := System.takeWork_took works
    exact ⟨took.actor, took.accepting, .inl took.mail⟩
  | complete =>
    have completes := System.complete_completes works
    cases completes <;> exact ⟨rfl, rfl, .inl rfl⟩
  | sendReport =>
    obtain ⟨attempt, input, rest, stage, rfl⟩ := System.sendReport_ok works
    exact pushed attempt input rfl rfl rfl
  | runTask index news =>
    simp only [System.next, System.runTask] at works
    split at works
    · cases works
    · rename_i task found
      split at works
      · cases works
      · rename_i next moves
        cases works
        cases next <;> exact ⟨rfl, rfl, .inl rfl⟩
      · rename_i next input moves
        cases works
        cases next <;> exact pushed task.attempt input rfl rfl rfl

theorem push_open (accepting : (core.push message).accepting = true) :
    core.accepting = true ∧ (core.push message).mail = core.mail ++ [message] := by
  rw [System.push] at accepting ⊢
  split at accepting
  · rename_i isOpen
    exact ⟨isOpen, by rw [if_pos isOpen]⟩
  · rename_i shut
    exact absurd accepting shut

theorem handle_mail {later : System} {rest : List Msg} (queue : core.mail = message :: rest)
    (handles : System.Handles core later) :
    (later.mail = rest ∨ later.mail = []) ∧ (later.accepting = true → later.mail = rest) := by
  cases handles with
  | told _ queue' _ _ _ | stale queue' _ =>
    obtain ⟨_, rfl⟩ := List.cons.inj (queue.symm.trans queue')
    exact ⟨.inl rfl, fun _ => rfl⟩
  | shutdown => exact ⟨.inr rfl, fun accepting => nomatch accepting⟩

theorem accepts_free (here : s.calls[index]? = some call) (free : call.holds = false) :
    accepts ⟨s, .call index room, after⟩ = none := by
  simp only [accepts, here]
  cases call <;> first | rfl | cases free

theorem set_here (here : s.calls[index]? = some call) (next : Call) :
    (s.set index next).calls[index]? = some next := by
  have inside := (List.getElem?_eq_some_iff.mp here).1
  exact List.getElem?_set_self inside

theorem accepts_refuse (here : s.calls[index]? = some call) :
    accepts ⟨s, .call index room, s.set index .releasing⟩ = none := by
  simp only [accepts, here, set_here here]

theorem accepts_accept {profile : Option ProfileId}
    (here : s.calls[index]? = some (.sending profile)) :
    accepts ⟨s, .call index room, ({ s with core } : Shared).set index (.returned .accepted)⟩ =
      some profile := by
  have returned := @set_here { s with core } index _ here (.returned .accepted)
  simp only [accepts, here, returned]

/-- One step of the queue: what arrives goes behind the rest, and the actor takes the first. -/
theorem moves_queue {turn : Turn} (moves : Moves brutal s turn after)
    (accepting : after.core.accepting = true) :
    s.core.accepting = true ∧ ∃ arrived,
      s.core.mail ++ arrived = (takes ⟨s, turn, after⟩).toList ++ after.core.mail ∧
        arrived.filterMap Msg.connects = (accepts ⟨s, turn, after⟩).toList := by
  cases moves with
  | begin | clear => exact ⟨accepting, [], by simp [takes], rfl⟩
  | claim here =>
    refine ⟨accepting, [], by simp [takes, Shared.set], ?_⟩
    rw [accepts_free here rfl]
    rfl
  | judge here | release here =>
    refine ⟨accepting, [], by simp [takes, Shared.set], ?_⟩
    simp [accepts, here]
  | refuse here =>
    refine ⟨accepting, [], by simp [takes, Shared.set], ?_⟩
    rw [accepts_refuse here]
    rfl
  | @accept _ _ _ here =>
    obtain ⟨isOpen, mail⟩ := push_open accepting
    refine ⟨isOpen, [_], mail.symm, ?_⟩
    rw [accepts_accept here]
    rfl
  | send here free _ other =>
    obtain ⟨isOpen, mail⟩ := push_open accepting
    refine ⟨isOpen, [_], mail.symm, ?_⟩
    rw [accepts_free here free]
    rcases other with rfl | rfl <;> rfl
  | look here free =>
    refine ⟨accepting, [], by simp [takes, Shared.set], ?_⟩
    rw [accepts_free here free]
    rfl
  | take _ queue handled =>
    obtain ⟨isOpen, handles⟩ := System.handle_handles handled
    refine ⟨isOpen, [], ?_, rfl⟩
    rw [(handle_mail queue handles).2 accepting]
    simp [takes, queue]
  | publishConnect | publishOther => exact ⟨accepting, [], by simp [takes, publishState], rfl⟩
  | background behind works =>
    obtain ⟨_, same, mail⟩ := background_mail behind works
    refine ⟨same.symm.trans accepting, ?_⟩
    rcases mail with kept | ⟨attempt, input, longer⟩
    · exact ⟨[], by simp [takes, kept], rfl⟩
    · exact ⟨[_], longer.symm, rfl⟩

variable (run : Run (Shared.Steps brutal) s newer after)

include run

variable (accepting : after.core.accepting = true)

include accepting

/-- The queue over a whole run: everything that arrives is taken in its turn or waits. -/
theorem run_queue :
    s.core.accepting = true ∧ ∃ arrived,
      s.core.mail ++ arrived = served newer ++ after.core.mail ∧
        arrived.filterMap Msg.connects = accepted newer := by
  induction run with
  | start => exact ⟨accepting, [], by simp [served], rfl⟩
  | next _ taken ih =>
    obtain ⟨isOpen, last, queued, connects⟩ := moves_queue (next_moves taken) accepting
    obtain ⟨opened, arrived, earlier, accepts⟩ := ih isOpen
    refine ⟨opened, arrived ++ last, ?_, ?_⟩
    · rw [served_cons, ← List.append_assoc, earlier, List.append_assoc, queued,
        List.append_assoc]
    · rw [List.filterMap_append, accepts, connects, accepted_cons]

theorem run_account :
    s.waiting ++ accepted newer = processed newer ++ after.waiting := by
  obtain ⟨_, arrived, queued, connects⟩ := run_queue run accepting
  have filtered := congrArg (List.filterMap Msg.connects) queued
  rw [List.filterMap_append, List.filterMap_append, connects, ← processed_eq] at filtered
  exact filtered

/-- The messages ahead of one in the queue are all that is taken before it. -/
theorem run_turn {ahead behind : List Msg} (queue : s.core.mail = ahead ++ message :: behind)
    (enough : ahead.length < (served newer).length) :
    (served newer)[ahead.length]? = some message := by
  obtain ⟨_, arrived, queued, _⟩ := run_queue run accepting
  rw [queue] at queued
  have here := congrArg (fun mail => mail[ahead.length]?) queued
  simp only [List.getElem?_append_left enough] at here
  rw [← here]
  simp

end Queue

section Claims

/-- Those who hold the claim to connect without a message of theirs in the queue: the calls before
they send, and the actor before it clears the flag. -/
def holding (s : Shared) : Nat :=
  s.calls.countP Call.holds + if s.serving = .clearing then 1 else 0

/-- The connects that are queued or in the hands of the actor. -/
def inFlight (s : Shared) : Nat :=
  s.waiting.length + if s.serving = .publishing true then 1 else 0

/-- How often the actor published where a connect led. -/
def published (history : History) : Nat := history.countP publishes

/-- The claim to connect: of the connects that were accepted, `pending` have no state published for
them yet, and whoever is responsible for one keeps the flag up. -/
structure Claimed (history : History) (s : Shared) (pending : Nat) : Prop where
  count : (accepted history).length = published history + pending
  one : s.holding + pending ≤ 1
  flag : s.connecting = false → s.holding + pending = 0
  flight : s.inFlight ≤ pending

theorem holding_set (s base : Shared) {index : Nat} {call : Call} (next : Call)
    (calls : base.calls = s.calls) (serving : base.serving = s.serving)
    (here : s.calls[index]? = some call) :
    (base.set index next).holding + (if call.holds then 1 else 0) =
      s.holding + if next.holds then 1 else 0 := by
  obtain ⟨inside, found⟩ := List.getElem?_eq_some_iff.mp here
  have same : (base.set index next).holding =
      (s.calls.set index next).countP Call.holds + if s.serving = .clearing then 1 else 0 := by
    rw [← calls, ← serving]
    rfl
  rw [same, holding, List.countP_set inside, found]
  split
  · rename_i held
    have one : 0 < s.calls.countP Call.holds :=
      List.countP_pos_iff.mpr ⟨call, List.mem_of_getElem? here, held⟩
    omega
  · omega

theorem published_cons (taken : Taken Shared Turn) (history : History) :
    published (taken :: history) = published history + if publishes taken then 1 else 0 :=
  List.countP_cons

theorem Claimed.quiet {pending : Nat} {turn : Turn} (claimed : Claimed history s pending)
    (accepts : accepts ⟨s, turn, after⟩ = none) (publishes : publishes ⟨s, turn, after⟩ = false)
    (holding : after.holding ≤ s.holding)
    (flag : after.connecting = false → s.connecting = false ∨ after.holding + 1 = s.holding)
    (flight : after.inFlight ≤ s.inFlight) :
    ∃ pending, Claimed (⟨s, turn, after⟩ :: history) after pending := by
  have one := claimed.one
  refine ⟨pending, ?_, by omega, ?_, flight.trans claimed.flight⟩
  · rw [accepted_cons, accepts, published_cons, publishes]
    simpa using claimed.count
  · intro down
    rcases flag down with before | gave
    · have nobody := claimed.flag before
      omega
    · omega

theorem inFlight_le {core : System} (serving : Serving)
    (waiting : (core.mail.filterMap Msg.connects).length ≤ s.waiting.length)
    (same : serving = .publishing true → s.serving = .publishing true) :
    ({ s with core, serving } : Shared).inFlight ≤ s.inFlight := by
  refine Nat.add_le_add waiting ?_
  split
  · rename_i publishing
    rw [if_pos (same publishing)]
  · exact Nat.zero_le _

theorem waiting_push_le (core : System) (message : Msg) :
    ((core.push message).mail.filterMap Msg.connects).length ≤
      (core.mail.filterMap Msg.connects).length + 1 := by
  rcases System.push_mail (s := core) message with same | longer
  · rw [same]
    exact Nat.le_succ _
  · rw [longer, List.filterMap_append, List.length_append]
    exact Nat.add_le_add_left (List.length_filterMap_le _ _) _

theorem waiting_push_other {core : System} {message : Msg} (other : message.connects = none) :
    (core.push message).mail.filterMap Msg.connects = core.mail.filterMap Msg.connects := by
  rcases System.push_mail (s := core) message with same | longer
  · rw [same]
  · rw [longer, List.filterMap_append, List.filterMap_cons_none other]
    simp

theorem Claimed.next {pending : Nat} {turn : Turn} (claimed : Claimed history s pending)
    (moves : Moves brutal s turn after) :
    ∃ pending, Claimed (⟨s, turn, after⟩ :: history) after pending := by
  cases moves with
  | begin request =>
    have same : ({ s with calls := s.calls ++ [request.begin] } : Shared).holding = s.holding := by
      rw [holding, List.countP_append]
      cases request <;> rfl
    exact claimed.quiet rfl rfl same.le .inl (Nat.le_refl _)
  | @claim index _ profile here free =>
    have nobody := claimed.flag free
    have one := holding_set s { s with connecting := true } (.judging profile) rfl rfl here
    have held : (({ s with connecting := true } : Shared).set index (.judging profile)).holding =
        s.holding + 1 := one
    refine ⟨pending, ?_, by omega, nofun, claimed.flight⟩
    rw [accepted_cons, accepts_free here rfl, published_cons]
    simpa [publishes] using claimed.count
  | @judge _ _ profile here =>
    have same := holding_set s s (.sending profile) rfl rfl here
    refine claimed.quiet ?_ rfl (Nat.add_right_cancel same).le .inl (Nat.le_refl _)
    simp [accepts, here]
  | @refuse _ _ _ here holds =>
    have same := holding_set s s .releasing rfl rfl here
    rw [holds] at same
    exact claimed.quiet (accepts_refuse here) rfl (Nat.add_right_cancel same).le .inl
      (Nat.le_refl _)
  | @accept index _ profile here =>
    -- The claim goes from the call to its message.
    have one := holding_set s { s with core := s.core.push (.connect profile) }
      (.returned .accepted) rfl rfl here
    have held : (({ s with core := s.core.push (.connect profile) } : Shared).set index
        (.returned .accepted)).holding + 1 = s.holding := one
    have single := claimed.one
    refine ⟨pending + 1, ?_, by omega, ?_, ?_⟩
    · rw [accepted_cons, accepts_accept here, published_cons, List.length_append, claimed.count]
      simp [publishes]
      omega
    · intro down
      have nobody := claimed.flag down
      omega
    · calc (({ s with core := s.core.push (.connect profile) } : Shared).set index
            (.returned .accepted)).inFlight
          ≤ s.waiting.length + 1 + (if s.serving = .publishing true then 1 else 0) :=
            Nat.add_le_add_right (waiting_push_le s.core (.connect profile)) _
        _ = s.inFlight + 1 := Nat.add_right_comm _ _ _
        _ ≤ pending + 1 := Nat.add_le_add_right claimed.flight 1
  | @release _ _ here =>
    have one := holding_set s { s with connecting := false } (.returned (.refused .serviceBusy))
      rfl rfl here
    refine claimed.quiet ?_ rfl (Nat.le.intro one) (fun _ => .inr one) (Nat.le_refl _)
    simp [accepts, here]
  | @send _ _ _ next message here free still other =>
    have same := holding_set s { s with core := s.core.push message } next rfl rfl here
    rw [free, still] at same
    refine claimed.quiet (accepts_free here free) rfl same.le .inl ?_
    refine inFlight_le s.serving (Nat.le_of_eq (congrArg List.length ?_)) id
    apply waiting_push_other
    rcases other with rfl | rfl <;> rfl
  | @look _ _ _ next here free still =>
    have same := holding_set s s next rfl rfl here
    rw [free, still] at same
    exact claimed.quiet (accepts_free here free) rfl same.le .inl (Nat.le_refl _)
  | @take _ _ _ message rest core ready queue handled =>
    have same : ({ s with core, serving := serves message } : Shared).holding = s.holding := by
      rw [holding, holding, ready]
      cases message <;> rfl
    refine claimed.quiet rfl rfl same.le .inl ?_
    have left : (core.mail.filterMap Msg.connects).length ≤
        (rest.filterMap Msg.connects).length := by
      rcases (handle_mail queue (System.handle_handles handled).2).1 with rest | empty
      · rw [rest]
      · rw [empty]
        exact Nat.zero_le _
    simp only [inFlight, waiting, queue, ready]
    cases message <;> simp [serves, Msg.connects] <;> exact left
  | publishConnect serving =>
    -- The claim goes from the message to the actor, until it clears the flag.
    have flight := claimed.flight
    have single := claimed.one
    have held : (({ s with serving := .clearing } : Shared).publishState brutal).holding =
        s.holding + 1 := by
      simp [holding, publishState, serving]
    have flew : (({ s with serving := .clearing } : Shared).publishState brutal).inFlight + 1 =
        s.inFlight := by
      simp [inFlight, waiting, publishState, serving]
    refine ⟨pending - 1, ?_, by omega, ?_, by omega⟩
    · rw [accepted_cons, published_cons]
      simp [accepts, publishes, serving]
      have count := claimed.count
      omega
    · intro down
      have nobody := claimed.flag down
      omega
  | publishOther serving =>
    have same : (({ s with serving := .ready } : Shared).publishState brutal).holding =
        s.holding := by
      rcases serving with other | ending <;> simp [holding, publishState, *]
    refine claimed.quiet rfl ?_ same.le .inl ?_
    · rcases serving with other | ending <;> simp [publishes, *]
    · exact Nat.add_le_add_left (Nat.zero_le _) _
  | clear serving =>
    have one : ({ s with connecting := false, serving := .ready } : Shared).holding + 1 =
        s.holding := by
      simp [holding, serving]
    refine claimed.quiet rfl ?_ (Nat.le.intro one) (fun _ => .inr one) ?_
    · simp [publishes, serving]
    · exact Nat.add_le_add_left (Nat.zero_le _) _
  | @background _ _ behind works =>
    refine claimed.quiet rfl rfl (Nat.le_refl _) .inl ?_
    refine inFlight_le s.serving (Nat.le_of_eq (congrArg List.length ?_)) id
    rcases (background_mail behind works).2.2 with same | ⟨attempt, input, longer⟩
    · rw [same, waiting]
    · rw [longer, List.filterMap_append]
      exact List.append_nil _

end Claims

section Rest

theorem status_snapshotOf (engine : Engine) :
    (snapshotOf brutal engine).status.atRest = engine.phase.atRest := by
  cases phase : engine.phase with
  | connected =>
    simp only [snapshotOf, statusOf]
    split <;> simp_all [ConnectionStatus.atRest, Phase.atRest]
  | idle | probing | starting | recovering | failed =>
    simp [snapshotOf, phase, statusOf, ConnectionStatus.atRest, Phase.atRest]

/-- Whoever goes by the state at rest is right: the one who reads it stored, the one who is about to
queue a connect, and the connect that waits. -/
structure Resting (s : Shared) : Prop where
  stored : s.serving ≠ .publishing true → s.state.status.atRest = true → s.core.phase.atRest = true
  sending : ∀ profile, .sending profile ∈ s.calls → s.core.phase.atRest = true
  queued : s.waiting ≠ [] → s.core.phase.atRest = true
  unasked : s.core.Unasked

variable {pending : Nat}

theorem one_le_holding {call : Call} (member : call ∈ s.calls) (holds : call.holds = true) :
    1 ≤ s.holding :=
  le_add_right (List.countP_pos_iff.mpr ⟨call, member, holds⟩)

theorem Claimed.nothing_in_flight {call : Call} (claimed : Claimed history s pending)
    (member : call ∈ s.calls) (holds : call.holds = true) :
    s.waiting = [] ∧ s.serving ≠ .publishing true := by
  have one := claimed.one
  have flight := claimed.flight
  have held := one_le_holding member holds
  have none_ : s.inFlight = 0 := by omega
  obtain ⟨waiting, serving⟩ := Nat.add_eq_zero_iff.mp none_
  refine ⟨List.length_eq_zero_iff.mp waiting, fun publishing => ?_⟩
  rw [if_pos publishing] at serving
  cases serving

theorem Claimed.no_call_holds (claimed : Claimed history s pending) (flying : 1 ≤ s.inFlight)
    {call : Call} (member : call ∈ s.calls) : call.holds = false := by
  have one := claimed.one
  have flight := claimed.flight
  by_contra holds
  have held := one_le_holding member (Bool.eq_true_of_not_eq_false holds)
  omega

theorem Resting.call {base : Shared} {index : Nat} {next : Call} (resting : s.Resting)
    (calls : base.calls = s.calls) (serving : base.serving = s.serving)
    (state : base.state = s.state) (phase : base.core.phase = s.core.phase)
    (waiting : base.waiting = s.waiting) (unasked : base.core.Unasked)
    (sends : ∀ profile, next = .sending profile → s.core.phase.atRest = true) :
    (base.set index next).Resting where
  stored := by
    show base.serving ≠ _ → base.state.status.atRest = true → base.core.phase.atRest = true
    rw [serving, state, phase]
    exact resting.stored
  sending := by
    intro profile member
    show base.core.phase.atRest = true
    rw [phase]
    rcases List.mem_or_eq_of_mem_set member with old | new
    · exact resting.sending profile (calls ▸ old)
    · exact sends profile new.symm
  queued := by
    show base.waiting ≠ [] → base.core.phase.atRest = true
    rw [waiting, phase]
    exact resting.queued
  unasked := unasked

theorem phase_push (core : System) (message : Msg) : (core.push message).phase = core.phase :=
  congrArg (fun actor : Actor => actor.engine.phase) (System.push_actor message)

/-- The actor takes a message: a connect finds the engine at rest, and nobody else goes by that;
any other message leaves it at rest. -/
theorem Resting.take {environment : Environment} {now : Instant} {watchable : Bool} {message : Msg}
    {rest : List Msg} {core : System} (resting : s.Resting) (claimed : Claimed history s pending)
    (ready : s.serving = .ready) (queue : s.core.mail = message :: rest)
    (handled : s.core.handle environment now watchable = some core) :
    ({ s with core, serving := serves message } : Shared).Resting := by
  have handles := (System.handle_handles handled).2
  have unasked := resting.unasked.handles handles
  have left : core.mail.filterMap Msg.connects ≠ [] → rest.filterMap Msg.connects ≠ [] := by
    rcases (handle_mail queue handles).1 with same | empty
    · rw [same]
      exact id
    · rw [empty]
      exact fun some_ => absurd rfl some_
  by_cases connect : ∃ profile, message = .connect profile
  · obtain ⟨profile, rfl⟩ := connect
    have waiting : s.waiting = profile :: rest.filterMap Msg.connects := by
      rw [Shared.waiting, queue]
      rfl
    have flying : s.inFlight = (rest.filterMap Msg.connects).length + 1 := by
      rw [inFlight, waiting, ready]
      rfl
    refine ⟨fun publishing => absurd rfl publishing, ?_, ?_, unasked⟩
    · intro named member
      cases claimed.no_call_holds (by omega) member
    · intro more
      have one := claimed.one
      have flight := claimed.flight
      have behind := List.length_pos_iff.mpr (left more)
      omega
  · have other (profile : Option ProfileId) : s.core.mail.head? ≠ some (.connect profile) := by
      rw [queue]
      exact fun same => connect ⟨profile, Option.some.inj same⟩
    have still (before : s.core.phase.atRest = true) : core.phase.atRest = true :=
      resting.unasked.atRest handles before other
    refine ⟨fun _ stored => still (resting.stored ?_ stored),
      fun profile member => still (resting.sending profile member), ?_, unasked⟩
    · rw [ready]
      exact nofun
    · intro more
      refine still (resting.queued ?_)
      rw [Shared.waiting, queue]
      intro nothing
      rw [List.filterMap_cons] at nothing
      split at nothing
      · exact left more nothing
      · cases nothing

theorem Resting.publish {serving : Serving} (resting : s.Resting) :
    (({ s with serving } : Shared).publishState brutal).Resting where
  stored := by
    intro _ stored
    exact (status_snapshotOf _).symm.trans stored
  sending := resting.sending
  queued := resting.queued
  unasked := resting.unasked

theorem Resting.next {turn : Turn} (resting : s.Resting) (claimed : Claimed history s pending)
    (moves : Moves brutal s turn after) :
    after.Resting := by
  cases moves with
  | begin request =>
    refine ⟨resting.stored, fun profile member => ?_, resting.queued, resting.unasked⟩
    rcases List.mem_append.mp member with old | new
    · exact resting.sending profile old
    · have begun := List.mem_singleton.mp new
      cases request <;> cases begun
  | claim | refuse | release => exact resting.call rfl rfl rfl rfl rfl resting.unasked nofun
  | judge here rest =>
    -- The claim is this call's, so the stored state is where the engine is.
    have quiet := claimed.nothing_in_flight (List.mem_of_getElem? here) rfl
    exact resting.call rfl rfl rfl rfl rfl resting.unasked
      (fun _ _ => resting.stored quiet.2 rest)
  | @accept _ _ profile here =>
    have rest := resting.sending profile (List.mem_of_getElem? here)
    have rested : (s.core.push (.connect profile)).phase.atRest = true := by
      rw [phase_push]
      exact rest
    refine ⟨fun _ _ => rested, fun _ _ => rested, fun _ => rested, ?_⟩
    exact resting.unasked.push _ (fun _ _ => Msg.noConfusion)
  | @send index _ _ next message _ _ still other =>
    have connects : message.connects = none := by
      rcases other with rfl | rfl <;> rfl
    refine @Resting.call s { s with core := s.core.push message } index next resting rfl rfl rfl
      (phase_push _ _) (waiting_push_other connects) ?_ ?_
    · apply resting.unasked.push
      rcases other with rfl | rfl <;> exact fun _ _ => Msg.noConfusion
    · rintro profile rfl
      cases still
  | look _ _ still =>
    refine resting.call rfl rfl rfl rfl rfl resting.unasked ?_
    rintro profile rfl
    cases still
  | take ready queue handled => exact resting.take claimed ready queue handled
  | publishConnect | publishOther => exact resting.publish
  | clear serving =>
    refine ⟨fun _ => resting.stored ?_, resting.sending, resting.queued, resting.unasked⟩
    rw [serving]
    exact nofun
  | @background _ core behind works =>
    obtain ⟨actor, _, mail⟩ := background_mail behind works
    have phase : core.phase = s.core.phase := congrArg (fun actor => actor.engine.phase) actor
    have unasked := resting.unasked.next works
    have waiting : core.mail.filterMap Msg.connects = s.waiting := by
      rcases mail with same | ⟨attempt, input, longer⟩
      · rw [same, Shared.waiting]
      · rw [longer, List.filterMap_append]
        exact List.append_nil _
    refine ⟨?_, ?_, ?_, unasked⟩
    · exact fun free stored => phase ▸ resting.stored free stored
    · exact fun profile member => phase ▸ resting.sending profile member
    · exact fun more => phase ▸ resting.queued (waiting ▸ more)

end Rest

section Reached

variable {profiles : List ConnectionProfile} {endpoints : List Endpoint}

theorem run_coherent
    (run : Run (Shared.Steps brutal) (Shared.spawn brutal (Engine.new profiles endpoints))
      history s) : (∃ pending, Claimed history s pending) ∧ s.Resting := by
  induction run with
  | start =>
    refine ⟨⟨0, rfl, Nat.zero_le _, fun _ => rfl, Nat.le_refl _⟩, ?_⟩
    refine ⟨fun _ _ => rfl, nofun, fun _ => rfl, ?_⟩
    exact ⟨fun _ _ => List.not_mem_nil, nofun, nofun⟩
  | next _ taken ih =>
    obtain ⟨⟨pending, claimed⟩, resting⟩ := ih
    have moves := next_moves taken
    exact ⟨claimed.next moves, resting.next claimed moves⟩

theorem moves_core {turn : Turn} (moves : Moves brutal s turn after) :
    after.core = s.core ∨ ∃ choice, s.core.next choice = some after.core := by
  cases moves with
  | @accept _ _ profile => exact .inr ⟨.ask (.connect profile), rfl⟩
  | @send _ _ _ _ _ _ _ _ other =>
    rcases other with rfl | rfl
    · exact .inr ⟨.ask .disconnect, rfl⟩
    · exact .inr ⟨.ask .shutdown, rfl⟩
  | @take environment now watchable _ _ _ _ _ handled =>
    exact .inr ⟨.handle environment now watchable, handled⟩
  | @background choice _ _ works => exact .inr ⟨choice, works⟩
  | begin | claim | judge | refuse | release | look | publishConnect | publishOther | clear =>
    exact .inl rfl

section

variable (run : Run (Shared.Steps brutal) (Shared.spawn brutal (Engine.new profiles endpoints)) history s)

include run

theorem run_core :
    ∃ observed, Run Orchestrator.Steps (Orchestrator.spawn (Engine.new profiles endpoints))
      observed s.core := by
  induction run with
  | start => exact ⟨[], .start⟩
  | next _ taken ih =>
    obtain ⟨observed, core⟩ := ih
    rcases moves_core (next_moves taken) with same | ⟨choice, works⟩
    · exact ⟨observed, same ▸ core⟩
    · exact ⟨_, core.next works⟩

theorem run_processes {taken : Taken Shared Turn} (member : taken ∈ history)
    (connect : (processes taken).isSome = true) :
    taken.before.core.phase.atRest = true := by
  obtain ⟨newer, older, rfl⟩ := List.append_of_mem member
  refine (run_coherent (run_taken run).1).2.queued ?_
  obtain ⟨before, label, after⟩ := taken
  cases label with
  | take =>
    rw [waiting]
    cases queue : before.core.mail with
    | nil =>
      simp only [processes, queue] at connect
      cases connect
    | cons message =>
      simp only [processes, queue] at connect
      obtain ⟨profile, found⟩ := Option.isSome_iff_exists.mp connect
      have connects : message.connects = some profile := found
      rw [List.filterMap_cons_some connects]
      exact List.cons_ne_nil _ _
  | begin | call | goOn | background => cases connect

/-- While messages wait, the actor goes on, or the engine panicked on a round-trip time that does not
fit a duration. -/
theorem run_progress (accepting : s.core.accepting = true) (mail : s.core.mail ≠ [])
    (environment : Environment) (now : Instant) (watchable : Bool) :
    (s.next brutal .goOn).isSome = true ∨
      (s.next brutal (.take environment now watchable)).isSome = true ∨
      ∃ input, s.core.actor.engine.step input now = .error .secondsOutOfRange ∨
        (s.core.actor.looks environment).engine.step input now = .error .secondsOutOfRange := by
  cases serving : s.serving with
  | publishing wasConnect =>
    left
    cases wasConnect <;> simp [Shared.next, goOn, serving]
  | clearing | ending =>
    left
    simp [Shared.next, goOn, serving]
  | ready =>
    right
    obtain ⟨message, rest, queue⟩ := List.exists_cons_of_ne_nil mail
    cases handled : s.core.handle environment now watchable with
    | some =>
      left
      simp [Shared.next, Shared.take, serving, queue, handled]
    | none =>
      right
      obtain ⟨observed, core⟩ := run_core run
      exact System.handle_panic core accepting mail handled

end

/-- Between a connect that was accepted and the state published for it, the flag is up. -/
theorem Claimed.connecting {pending : Nat} (claimed : Claimed history s pending)
    (between : published history < (accepted history).length) : s.connecting = true := by
  rw [claimed.count] at between
  by_contra down
  have nobody := claimed.flag (Bool.eq_false_iff.mpr down)
  omega

end Reached

end Shared

/-- Whatever the callers, the actor and the work behind it do, in any interleaving of their atomic
operations: as long as no shutdown was processed, the connects that returned `Ok` are, in order,
those that the actor processed and those that wait, each of which is the message that the actor takes
after the ones ahead of it, and the actor goes on while messages wait; each was processed with the
engine idle or failed; one waits at most; and from a connect's `Ok` until the state it led to is
published, a `snapshot` that loads the flag answers neither disconnected nor failed, whenever it read
the stored state. -/
theorem accepted_connect_neither_lost_nor_doubled (brutal : ConnectionProfile → Bool)
    (profiles : List ConnectionProfile) (endpoints : List Endpoint) (history : Shared.History)
    (s : Shared)
    (run : Run (Shared.Steps brutal) (Shared.spawn brutal (Engine.new profiles endpoints))
      history s) :
    (s.core.accepting = true →
      Shared.accepted history = Shared.processed history ++ s.waiting ∧
      (∀ ahead profile behind, s.core.mail = ahead ++ .connect profile :: behind →
        ∀ newer later, Run (Shared.Steps brutal) s newer later → later.core.accepting = true →
          ahead.length < (Shared.served newer).length →
          (Shared.served newer)[ahead.length]? = some (.connect profile)) ∧
      (s.core.mail ≠ [] → ∀ environment now watchable,
        (s.next brutal .goOn).isSome = true ∨
          (s.next brutal (.take environment now watchable)).isSome = true ∨
          ∃ input, s.core.actor.engine.step input now = .error .secondsOutOfRange ∨
            (s.core.actor.looks environment).engine.step input now =
              .error .secondsOutOfRange)) ∧
    (∀ taken ∈ history, (Shared.processes taken).isSome = true →
      taken.before.core.actor.engine.phase = .idle ∨
        ∃ cause, taken.before.core.actor.engine.phase = .failed cause) ∧
    s.waiting.length ≤ 1 ∧
    (Shared.published history < (Shared.accepted history).length →
      ∀ index room state, s.calls[index]? = some (.loading .snapshot state) →
        ∃ after answer, s.next brutal (.call index room) = some after ∧
          after.calls[index]? = some (.returned (.shown answer)) ∧
          answer.status ≠ .disconnected ∧ answer.status ≠ .failed) := by
  obtain ⟨⟨pending, claimed⟩, resting⟩ := Shared.run_coherent run
  refine ⟨fun accepting => ⟨?_, ?_, ?_⟩, ?_, ?_, ?_⟩
  · exact Shared.run_account run accepting
  · exact fun ahead profile behind queue newer later goes open_ enough =>
      Shared.run_turn goes open_ queue enough
  · exact Shared.run_progress run accepting
  · intro taken member connect
    have rest := Shared.run_processes run member connect
    rw [System.phase] at rest
    cases phase : taken.before.core.actor.engine.phase with
    | idle => exact .inl rfl
    | failed cause => exact .inr ⟨cause, rfl⟩
    | probing | starting | connected | recovering =>
      rw [phase] at rest
      cases rest
  · have one := claimed.one
    have flight := claimed.flight
    have waiting : s.waiting.length ≤ s.inFlight := Nat.le_add_right _ _
    omega
  · intro between index room state here
    have up := claimed.connecting between
    refine ⟨_, shown state s.connecting, ?_, Shared.set_here here _, ?_⟩
    · simp only [Shared.next, Shared.runCall, here]
    · rw [shown, up]
      cases status : state.status <;> simp [ConnectionStatus.atRest, status]

/-- A connect and a snapshot that read the state before the connect was made: while the connect is
queued it answers that a connection is being made; then the actor processes the connect, idle. -/
theorem accepted_connect_neither_lost_nor_doubled_queued :
    let brutal : ConnectionProfile → Bool := fun _ => false
    let start := Shared.spawn brutal (Engine.new [⟨⟨"amneziawg"⟩, .amneziaWg, .tier2, .untested⟩]
      [⟨⟨1⟩, "first", {}, true⟩])
    let turns : List Turn := [.begin .snapshot, .call 0 true, .begin (.connect none), .call 1 true,
      .call 1 true, .call 1 true]
    let queued := follow (Shared.next brutal) start turns
    let taken := follow (Shared.next brutal) start (turns ++ [.take {} 0 false])
    (queued.1.calls[1]? = some (.returned .accepted) ∧
      ∃ after answer, queued.1.next brutal (.call 0 true) = some after ∧
        after.calls[0]? = some (.returned (.shown answer)) ∧
        answer.status ≠ .disconnected ∧ answer.status ≠ .failed) ∧
    Shared.accepted taken.2 = [none] ∧
      Shared.accepted taken.2 = Shared.processed taken.2 ++ taken.1.waiting := by
  intro brutal start turns queued taken
  have queuedRun := follow_run (Shared.next brutal) start turns
  have takenRun := follow_run (Shared.next brutal) start (turns ++ [.take {} 0 false])
  refine ⟨⟨by decide, ?_⟩, by decide, ?_⟩
  · have results := accepted_connect_neither_lost_nor_doubled brutal _ _ _ _ queuedRun
    exact results.2.2.2 (by decide) 0 true start.state (by decide)
  · have results := accepted_connect_neither_lost_nor_doubled brutal _ _ _ _ takenRun
    exact (results.1 (by decide)).1

-- A snapshot that is overtaken between its two reads is outside of this: called after the connect
-- returned, it reads the stored state before the actor publishes and the flag after the actor
-- cleared it, and answers disconnected while the engine is starting.
example :
    let brutal : ConnectionProfile → Bool := fun _ => false
    let start := Shared.spawn brutal (Engine.new [⟨⟨"amneziawg"⟩, .amneziaWg, .tier2, .untested⟩]
      [⟨⟨1⟩, "first", {}, true⟩])
    let late := (follow (Shared.next brutal) start [.begin (.connect none), .call 0 true,
      .call 0 true, .call 0 true, .begin .snapshot, .call 1 true, .take {} 0 false, .goOn, .goOn,
      .call 1 true]).1
    late.core.phase = .starting ⟨"amneziawg"⟩ ⟨1⟩ ∧
      late.calls = [.returned .accepted, .returned (.shown { status := .disconnected })] := by
  decide

end DnetEngine.Orchestrator
