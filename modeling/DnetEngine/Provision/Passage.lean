import DnetEngine.Provision.Stages

/-! What is true all through a job. The stages are walked once, for any condition that the calls to
the provider and the announcements keep; what the cleanup and the two creating stages make of it is
the condition's own affair. -/

namespace DnetEngine.Provision

open Lib Mortal

def Call.isInspection : Call → Bool
  | .inspectCredential _ => true
  | _ => false

section Passing

variable {Setup Secret Credentials Value Result : Type}

/-- `kept` holds from effect to effect, `ended` where the job ends, `killed` where it is killed. -/
structure Passage (Secret : Type) {Credentials : Type} (account : Account) (kept : World → Prop)
    (ended : Outcome Credentials → World → Prop) (killed : World → Prop) : Prop where
  survives : ∀ world, kept world → killed world
  still : ∀ world, kept world → kept world.noted
  called : ∀ world call, call.isInspection = false → kept world →
    kept (World.noted { world with calls := world.calls ++ [call] })
  emitted : ∀ world event, kept world → kept { world with events := world.events ++ [event] }
  cancels : Safe kept (cleanUp account : Job Secret CleanupReport)
    (fun report => ended (.cancelled report)) killed
  fails : ∀ stage reason, Safe kept (cleanUp account : Job Secret CleanupReport)
    (fun report => ended (.failed stage reason report)) killed

/-- The step keeps what is kept, or ends the job. -/
def Passes (kept : World → Prop) (ended : Outcome Credentials → World → Prop)
    (killed : World → Prop) (step : Step Secret Credentials Value) : Prop :=
  Safe kept step.run (Either (fun _ => kept) ended) killed

variable {account : Account} {kept : World → Prop} {ended : Outcome Credentials → World → Prop}
  {killed : World → Prop}

theorem Passes.bind {first : Step Secret Credentials Value}
    {rest : Value → Step Secret Credentials Result} (passes : Passes kept ended killed first)
    (after : ∀ value, Passes kept ended killed (rest value)) :
    Passes kept ended killed (first >>= rest) :=
  Safe.attempt passes after

theorem passes_pure (value : Value) :
    Passes kept ended killed (pure value : Step Secret Credentials Value) :=
  safe_return fun _ before => before

theorem passes_throw {outcome : Outcome Credentials}
    (ends : ∀ world, kept world → ended outcome world) :
    Passes kept ended killed (throw outcome : Step Secret Credentials Value) :=
  safe_pure ends

theorem passes_lift {program : Job Secret Value}
    (keeps : Safe kept program (fun _ => kept) killed) :
    Passes kept ended killed (ExceptT.lift program : Step Secret Credentials Value) :=
  safe_lift keeps

namespace Passage

variable (passage : Passage Secret account kept ended killed)

include passage

theorem emit (event : Progress) :
    Safe kept (emit event : Job Secret Unit) (fun _ => kept) killed :=
  safe_change fun world before => passage.emitted world event before

theorem idle (answer : Fate Secret → Value) :
    Safe kept (deed fun fate world => (answer fate, world)) (fun _ => kept) killed :=
  safe_act passage.survives fun _ world before => passage.still world before

theorem ask (call : Fate Secret → Call) (answer : Fate Secret → Value)
    (other : ∀ fate, (call fate).isInspection = false) :
    Safe kept (ask call answer) (fun _ => kept) killed :=
  safe_act passage.survives fun fate world before =>
    passage.called world (call fate) (other fate) before

theorem tell (event : Progress) :
    Passes kept ended killed (tell event : Step Secret Credentials Unit) :=
  passes_lift (passage.emit event)

variable {succeeded : Value → World → Prop}

theorem fail (stage : Stage) (reason : FailureReason) :
    Safe kept (fail account stage reason : Step Secret Credentials Value).run
      (Either succeeded ended) killed :=
  (passage.fails stage reason).bind fun _ => safe_pure fun _ holds => holds

theorem settles {Error : Type} (stage : Stage) (reason : Error → FailureReason)
    (result : Except Error Value) :
    Safe (Either succeeded (fun _ => kept) result)
      (orFailWith account stage reason result : Step Secret Credentials Value).run
      (Either succeeded ended) killed := by
  cases result with
  | ok => exact safe_return fun _ holds => holds
  | error => exact passage.fail stage _

theorem orFailWith {Error : Type} (stage : Stage) (reason : Error → FailureReason)
    (result : Except Error Value) :
    Passes kept ended killed
      (orFailWith account stage reason result : Step Secret Credentials Value) := by
  cases result with
  | ok value => exact passes_pure value
  | error => exact passage.fail stage _

theorem begin (stage : Stage) :
    Passes kept ended killed (begin account stage : Step Secret Credentials Unit) := by
  refine (passes_lift (passage.idle Fate.cancelled)).bind fun cancelled => ?_
  split
  · exact passage.cancels.bind fun _ => safe_pure fun _ holds => holds
  · exact passage.tell _

theorem inspected (answer : Except ProviderError Inspection) :
    Passes kept ended killed (inspected account answer : Step Secret Credentials Inspection) := by
  unfold Provision.inspected
  split
  · exact passes_pure _
  · exact passage.fail _ _
  · exact passage.fail _ _

variable (kit : Kit Setup Secret Credentials) (params : JobParams Setup)

theorem acknowledge (overPrivileged : List String)
    (ends : ∀ world, kept world → ended (.needsAcknowledgement overPrivileged) world) :
    Passes kept ended killed
      (acknowledge params overPrivileged : Step Secret Credentials Unit) := by
  unfold Provision.acknowledge
  split
  · exact passes_pure _
  · split
    · exact passage.tell _
    · exact passes_throw ends

theorem checkCapacity
    (ends : ∀ alternatives world, kept world → ended (.capacityUnavailable alternatives) world) :
    Passes kept ended killed (checkCapacity account params : Step Secret Credentials Unit) := by
  refine (passage.begin _).bind fun _ => ?_
  refine (passes_lift (passage.ask _ _ fun _ => rfl)).bind fun answer => ?_
  refine (passage.orFailWith _ _ _).bind fun capacity => ?_
  cases capacity with
  | available => exact passage.tell _
  | unavailable => exact passes_throw (ends _)

theorem instanceMade (answer : Except ProviderError InstanceInfo)
    {succeeded : InstanceInfo → World → Prop} :
    Safe (Either succeeded (fun _ => kept) answer)
      (instanceMade account answer : Step Secret Credentials InstanceInfo).run
      (Either succeeded ended) killed := by
  unfold Provision.instanceMade
  split
  · exact safe_return fun _ holds => holds
  · exact passage.fail _ _
  · exact passage.fail _ _

theorem draw (without : String) :
    Passes kept ended killed (draw account without : Step Secret Credentials Secret) :=
  (passes_lift (passage.idle Fate.secret)).bind fun _ => passage.orFailWith _ _ _

theorem bootstrapServer : Passes kept ended killed (bootstrapServer account kit params) := by
  refine (passage.begin _).bind fun _ => ?_
  refine (passage.draw _).bind fun keys => ?_
  refine (passage.draw _).bind fun obfuscation => ?_
  refine (passage.draw _).bind fun session => ?_
  refine (passage.orFailWith _ _ _).bind fun script => ?_
  refine (passes_lift (passage.ask _ _ fun _ => rfl)).bind fun answer => ?_
  refine (passage.orFailWith _ _ _).bind fun output => ?_
  refine (passage.orFailWith _ _ _).bind fun credentials => ?_
  exact (passage.tell _).bind fun _ => passes_pure _

theorem installKeepalive : Passes kept ended killed (installKeepalive account kit params) := by
  refine (passage.begin _).bind fun _ => ?_
  refine (passes_lift (passage.ask _ _ fun _ => rfl)).bind fun answer => ?_
  refine (passage.orFailWith _ _ _).bind fun _ => ?_
  refine (passes_lift (passage.ask _ _ fun _ => rfl)).bind fun running => ?_
  unfold keepaliveFound
  split
  · exact passage.tell _
  · exact passage.fail _ _
  · exact passage.fail _ _

theorem verifyReachability :
    Passes kept ended killed
      (verifyReachability account : Step Secret Credentials (List ProfileKind)) := by
  refine (passage.begin _).bind fun _ => ?_
  refine (passes_lift (passage.idle Fate.reached)).bind fun results => ?_
  refine (passage.orFailWith _ _ _).bind fun working => ?_
  exact (passage.tell _).bind fun _ => passes_pure _

theorem finish (machine : InstanceInfo) (rules : NetworkInfo) (credentials : Credentials)
    (working : List ProfileKind) :
    Passes kept ended killed (finish account kit params machine rules credentials working) := by
  refine (passes_lift (passage.idle Fate.endpointId)).bind fun id => ?_
  refine (passage.orFailWith _ _ _).bind fun endpoint => ?_
  refine (passage.tell _).bind fun _ => ?_
  exact (passage.tell _).bind fun _ => passes_pure _

end Passage

/-- What follows once there is room, if the two stages that create something pass. -/
theorem passes_creating (passage : Passage Secret account kept ended killed)
    (kit : Kit Setup Secret Credentials) (params : JobParams Setup) (makes : Passes kept ended killed
      (makeInstance account params : Step Secret Credentials InstanceInfo))
    (configures : Passes kept ended killed
      (configureNetwork account params : Step Secret Credentials NetworkInfo)) :
    Passes kept ended killed (do
      let machine ← makeInstance account params
      let rules ← configureNetwork account params
      let credentials ← bootstrapServer account kit params
      installKeepalive account kit params
      let working ← verifyReachability account
      finish account kit params machine rules credentials working) := by
  refine makes.bind fun machine => ?_
  refine configures.bind fun rules => ?_
  refine (passage.bootstrapServer kit params).bind fun credentials => ?_
  refine (passage.installKeepalive kit params).bind fun _ => ?_
  refine passage.verifyReachability.bind fun working => ?_
  exact passage.finish kit params machine rules credentials working

end Passing

end DnetEngine.Provision
