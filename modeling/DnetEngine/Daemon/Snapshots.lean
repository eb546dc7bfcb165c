import DnetEngine.Daemon.HandleConnect

/-! No state that a client is shown says two things at once. -/

namespace DnetEngine.Orchestrator

open Lib

/-- What the encoder refuses to send. -/
def checkConsistency (s : StateSnapshot) : Except String Unit :=
  let hasActive := s.activeProfile.isSome || s.activeEndpoint.isSome
  let failClosedOnly := if s.posture = .failClosed then .ok ()
    else .error "only a connected snapshot can be tunnelled"
  match s.status, s.activeProfile with
  | .connected, none => .error "a connected snapshot needs an active profile"
  | .connected, some profile =>
    if s.activeEndpoint.isNone then .error "a connected snapshot needs an active endpoint"
    else if s.failure.isSome then .error "a connected snapshot cannot carry a failure"
    else if s.posture = .failClosed then .error "a connected snapshot cannot be fail-closed"
    else if s.posture = .tunnelled profile.tier then .ok ()
    else .error "the posture tier differs from the active profile's tier"
  | .failed, _ =>
    if s.failure.isNone then .error "a failed snapshot needs a cause"
    else if hasActive then .error "a failed snapshot cannot name an active profile or endpoint"
    else failClosedOnly
  | .disconnected, _ | .probing, _ =>
    if s.failure.isSome then .error "only a failed snapshot carries a failure"
    else if hasActive then .error "nothing is carrying traffic, so no profile or endpoint is active"
    else failClosedOnly

variable (brutal : ConnectionProfile → Bool)

theorem checkConsistency_snapshotOf (engine : Engine) :
    checkConsistency (snapshotOf brutal engine) = .ok () := by
  rw [snapshotOf]
  cases engine.phase with
  | connected profile endpoint =>
    dsimp only [statusOf]
    generalize Option.bind _ _ = carrying
    cases carrying <;> simp [checkConsistency]
  | _ => rfl

/-- Whatever has been done when a caller reads the state, and whatever the flag is when it reads
that. -/
theorem answers_consistent (engine : Engine) (turns : List Turn) (connecting : Bool) :
    let s := (follow (Shared.next brutal) (Shared.spawn brutal engine) turns).1
    checkConsistency (shown s.state connecting) = .ok () := by
  intro s
  have run := follow_run (Shared.next brutal) (Shared.spawn brutal engine) turns
  have stored := run_state_invariant (fun s => checkConsistency s.state = .ok ())
    (checkConsistency_snapshotOf brutal engine) ?_ run
  · rw [shown]
    split
    · rfl
    · exact stored
  · intro _ _ _ holding taken
    cases Shared.next_moves taken with
    | publishConnect | publishOther => exact checkConsistency_snapshotOf brutal _
    | _ => exact holding

end DnetEngine.Orchestrator
