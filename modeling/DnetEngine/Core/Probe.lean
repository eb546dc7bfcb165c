import DnetEngine.Core.Domain
import DnetEngine.Lib.SortFind

/-! Judging a profile probe, noticing that a carrying profile is blocked, planning what to try
next, and naming the cause of a failure. -/

namespace DnetEngine

open Lib

def usableMinBytes : Nat := 64 * 1024
def usableMinBitsPerSec : Nat := 256000

inductive ProfileProbe
  | handshakeFailed
  | handshakeOnly
  | transferred (bytes : Nat) (elapsed : Duration)
  deriving DecidableEq

inductive Unusable
  | handshakeFailed
  | noTraffic
  | tooLittleData
  | tooSlow
  | invalidMeasurement
  deriving DecidableEq

inductive Verdict
  | usable (bitsPerSec : Nat)
  | unusable (why : Unusable)
  deriving DecidableEq

def Verdict.isUsable : Verdict → Bool
  | .usable _ => true
  | .unusable _ => false

def judge : ProfileProbe → Verdict
  | .handshakeFailed => .unusable .handshakeFailed
  | .handshakeOnly => .unusable .noTraffic
  | .transferred bytes elapsed =>
    if elapsed = 0 then .unusable .invalidMeasurement
    else if bytes < usableMinBytes then .unusable .tooLittleData
    else
      let bitsPerSec := min (bytes * 8 * 1000000000 / elapsed) u64Max
      if bitsPerSec < usableMinBitsPerSec then .unusable .tooSlow
      else .usable bitsPerSec

inductive RaceDecision
  | pending
  | selected (profile : ProfileId) (tier : FailoverTier) (bitsPerSec : Nat)
  | noneUsable
  deriving DecidableEq

def blockAfter : Nat := 3

inductive LiveCheck
  | passed
  | failed
  deriving DecidableEq

inductive Detection
  | fine
  | suspect (failures : Nat)
  | blocked (failures : Nat)
  | alreadyBlocked
  deriving DecidableEq

structure BlockDetector where
  failures : Nat := 0
  reported : Bool := false
  deriving DecidableEq

def BlockDetector.observe (detector : BlockDetector) : LiveCheck → BlockDetector × Detection
  | .passed => ({}, .fine)
  | .failed =>
    let failures := saturatingSucc detector.failures
    if detector.reported then ({ detector with failures }, .alreadyBlocked)
    else if blockAfter ≤ failures then ({ failures, reported := true }, .blocked failures)
    else ({ detector with failures }, .suspect failures)

inductive ReprobePlan
  | try_ (candidates : List ProfileId)
  | allBlocked
  deriving DecidableEq

/-- What is left after `blocked` stopped working, best tier first, then in the order given. -/
def reprobeCandidates (profiles : List ConnectionProfile) (blocked : ProfileId) :
    List ConnectionProfile :=
  sortByKey (fun p => p.tier.ord)
    ((profiles.filter (fun p => p.id != blocked)).filter (fun p => !p.viability.isBlocked))

def planReprobe (profiles : List ConnectionProfile) (blocked : ProfileId) : ReprobePlan :=
  if (reprobeCandidates profiles blocked).isEmpty then .allBlocked
  else .try_ ((reprobeCandidates profiles blocked).map ConnectionProfile.id)

inductive Reach
  | reachable
  | unreachable
  | unknown
  deriving DecidableEq

structure Situation where
  privileged : Bool
  configurationError : Option String
  coreFailed : Option CoreBinding
  usablePaths : Nat
  captivePortal : Bool
  endpointReach : List Reach
  profiles : List ConnectionProfile

def classify (situation : Situation) : Option FailureCause :=
  if !situation.privileged then some .insufficientPrivilege
  else match situation.configurationError with
  | some detail => some (.configurationInvalid detail)
  | none =>
    if situation.endpointReach.isEmpty then
      some (.configurationInvalid "no endpoint is configured; add one before connecting")
    else if situation.profiles.isEmpty then
      some (.configurationInvalid "no connection profile is defined")
    else match situation.coreFailed with
    | some core => some (.coreFailedPersistently core)
    | none =>
      if situation.usablePaths = 0 then some .noUsablePath
      else if situation.captivePortal then some .captivePortalUnsatisfied
      else if situation.endpointReach.all (fun r => r == .unreachable) then
        some .noEndpointReachable
      else if !situation.profiles.isEmpty &&
          situation.profiles.all (fun p => p.viability.isBlocked) then
        some .allProfilesBlocked
      else none

structure Explanation where
  title : String
  detail : String
  action : String

def coreDescription : CoreBinding → String
  | .primaryCore => "the main connection engine"
  | .amneziaWgCore => "the AmneziaWG engine"

def explain : FailureCause → Explanation
  | .noEndpointReachable =>
    { title := "No exit endpoint is reachable"
      detail := "None of your endpoints answered a direct connection test, so there is nowhere to " ++
        "send your traffic. Nothing is being tunnelled."
      action := "Check that the endpoint server is running and that this network allows " ++
        "connections to it, or add another endpoint." }
  | .allProfilesBlocked =>
    { title := "This network is blocking every connection method"
      detail := "Your endpoint answers, but this network is blocking every connection method, so " ++
        "none of them can carry traffic. Nothing is being tunnelled."
      action := "Try a different network, such as mobile data, or check for a profile update " ++
        "that adds a method this network does not recognise." }
  | .captivePortalUnsatisfied =>
    { title := "Sign-in is required on this network"
      detail := "The network is holding all traffic until you sign in, which also stops the " ++
        "tunnel from connecting."
      action := "Open a browser, complete the network's sign-in page, then connect again." }
  | .insufficientPrivilege =>
    { title := "DNet Engine needs administrator rights"
      detail := "The background service is not running with the privileges it needs to change " ++
        "network settings, so it will not start a connection."
      action := "Restart the DNet Engine service as an administrator, or reinstall it, and " ++
        "try again." }
  | .coreFailedPersistently core =>
    { title := "A connection component keeps failing"
      detail := coreDescription core ++ " stopped repeatedly, and DNet Engine has stopped " ++
        "restarting it to avoid a restart loop."
      action := "Open the diagnostics to read the component's last messages, then restart the " ++
        "service. If it keeps failing, report the problem." }
  | .noUsablePath =>
    { title := "No network connection is available"
      detail := "None of this computer's network connections can carry traffic right now."
      action := "Connect to Wi-Fi or mobile data, then try again." }
  | .configurationInvalid detail =>
    { title := "The configuration cannot be used"
      detail
      action := "Correct the setting named above in the endpoint or profile settings, then try " ++
        "again." }

theorem classify_allProfilesBlocked (situation : Situation)
    (found : classify situation = some .allProfilesBlocked) :
    ∀ p ∈ situation.profiles, p.viability.isBlocked = true := by
  unfold classify at found
  repeat' split at found
  all_goals simp_all

theorem classify_noEndpointReachable (situation : Situation)
    (found : classify situation = some .noEndpointReachable) :
    situation.endpointReach ≠ [] ∧ ∀ r ∈ situation.endpointReach, r = .unreachable := by
  unfold classify at found
  repeat' split at found
  all_goals simp_all <;> assumption

theorem classify_none (situation : Situation) (clear : classify situation = none) :
    situation.profiles ≠ [] := by
  unfold classify at clear
  repeat' split at clear
  all_goals simp_all

variable (profiles : List ConnectionProfile)

theorem mem_planReprobe (blocked : ProfileId) (candidates : List ProfileId)
    (plan : planReprobe profiles blocked = .try_ candidates) (id : ProfileId) :
    id ∈ candidates ↔
      ∃ p ∈ profiles, p.id = id ∧ p.id ≠ blocked ∧ p.viability.isBlocked = false := by
  unfold planReprobe at plan
  split at plan
  · cases plan
  · cases plan
    simp only [reprobeCandidates, List.mem_map, mem_sortByKey, List.mem_filter, bne_iff_ne,
      Bool.not_eq_eq_eq_not]
    constructor
    · rintro ⟨p, ⟨⟨member, other⟩, fresh⟩, named⟩
      exact ⟨p, member, named, other, fresh⟩
    · rintro ⟨p, member, named, other, fresh⟩
      exact ⟨p, ⟨⟨member, other⟩, fresh⟩, named⟩

theorem planReprobe_ne_nil (blocked : ProfileId) (candidates : List ProfileId)
    (plan : planReprobe profiles blocked = .try_ candidates) :
    candidates ≠ [] := by
  unfold planReprobe at plan
  split at plan
  · cases plan
  next some_ =>
    cases plan
    simpa using some_

theorem planReprobe_allBlocked (blocked : ProfileId)
    (plan : planReprobe profiles blocked = .allBlocked) :
    ∀ p ∈ profiles, p.id ≠ blocked → p.viability.isBlocked = true := by
  unfold planReprobe at plan
  split at plan
  next empty =>
    intro p member other
    rw [List.isEmpty_iff, reprobeCandidates, sortByKey_eq_nil, List.filter_eq_nil_iff] at empty
    have tried := empty p (List.mem_filter.mpr ⟨member, by simpa using other⟩)
    simpa using tried
  · cases plan

end DnetEngine
