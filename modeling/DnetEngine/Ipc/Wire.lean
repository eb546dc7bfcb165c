import DnetEngine.Core.Probe
import DnetEngine.Ipc.Protocol
import DnetEngine.Lib.Json

/-! The wire form of an event. Every event says why it happened. -/

namespace DnetEngine.Ipc

open Lib

def degradedBecause (band : QualityBand) (staying : NoMove) : Except IpcError String := do
  let how ← match band with
    | .poor => .ok "the network carrying your connection is slow or dropping packets"
    | .unusable => .ok "the network carrying your connection is dropping most packets"
    | .good => .error (.invalidRequest "a degradation cannot be of a good network")
  let why := match staying with
    | .onlyPath => "it is the only network available, so there is nothing to switch to"
    | .noBetterPath => "the other networks are no better, so the connection stays where it is"
    | .proving =>
      "a better network exists but has not yet proven stable, so the connection has not moved"
    | .dwell => "the connection was moved a moment ago and waits before moving again"
    | .budget =>
      "the limit on moves in ten minutes has been reached, so the connection stays where it is"
  return how ++ ", and " ++ why

def bandStr : QualityBand → String
  | .good => "Good"
  | .poor => "Poor"
  | .unusable => "Unusable"

def stayingName : NoMove → String
  | .onlyPath => "OnlyPath"
  | .noBetterPath => "NoBetterPath"
  | .proving => "Proving"
  | .dwell => "Dwell"
  | .budget => "Budget"

def tierStr : FailoverTier → String
  | .tier1 => "Tier1"
  | .tier2 => "Tier2"

def coreBindingStr : CoreBinding → String
  | .primaryCore => "PrimaryCore"
  | .amneziaWgCore => "AmneziaWgCore"

def pathChangeBecause : FailoverTier → String
  | .tier1 => "the network connection carrying your traffic changed; this profile is Tier 1, so " ++
      "established connections should survive the move"
  | .tier2 => "the network connection carrying your traffic changed; this profile is Tier 2, so " ++
      "established connections will not survive the move"

def interfaceStr (id : InterfaceId) : String := toString id.luid.toNat

def failureCauseValue : FailureCause → Json
  | .noEndpointReachable => .object [("cause", "NoEndpointReachable")]
  | .allProfilesBlocked => .object [("cause", "AllProfilesBlocked")]
  | .captivePortalUnsatisfied => .object [("cause", "CaptivePortalUnsatisfied")]
  | .insufficientPrivilege => .object [("cause", "InsufficientPrivilege")]
  | .coreFailedPersistently core =>
    .object [("cause", "CoreFailedPersistently"), ("core", coreBindingStr core)]
  | .noUsablePath => .object [("cause", "NoUsablePath")]
  | .configurationInvalid detail =>
    .object [("cause", "ConfigurationInvalid"), ("detail", detail)]

def failureValueWithWords (cause : FailureCause) : Json :=
  let words := explain cause
  (((failureCauseValue cause).insert "title" words.title).insert "detail" words.detail).insert
    "action" words.action

def definitionsFields : DefinitionsChange → Json
  | .updated sequence endpointUpdates =>
    .object [("change", "Updated"), ("sequence", toString sequence),
      ("endpoint_updates", .number endpointUpdates)]
  | .evicted => .object [("change", "Evicted")]
  | .outOfDate => .object [("change", "OutOfDate")]
  | .discarded => .object [("change", "Discarded")]
  | .checkFailed reason =>
    .object [("change", "CheckFailed"), ("reason", match reason with
      | .unreachable => "Unreachable"
      | .refused => "Refused")]

def definitionsBecause : DefinitionsChange → String
  | .updated sequence 0 =>
    "connection method definitions updated (sequence " ++ toString sequence ++ ")"
  | .updated sequence endpointUpdates =>
    "connection method definitions updated (sequence " ++ toString sequence ++ "); " ++
      toString endpointUpdates ++ " of              them also propose a change to your server, " ++
      "which waits for your approval"
  | .evicted => "a newer set of signing keys no longer includes the key              that signed " ++
      "the last update, so the built-in definitions are back in use"
  | .outOfDate => "the connection method definitions have not been              refreshed lately " ++
      "and may be out of date; the last ones are still in use"
  | .discarded => "the saved update could not be checked again and was              set aside, so " ++
      "the built-in definitions are in use"
  | .checkFailed .unreachable => "the place connection method updates are published could not be " ++
      "reached, so the              definitions in use are unchanged"
  | .checkFailed .refused => "an update was found but did not pass verification, so it was not " ++
      "used and the              definitions in use are unchanged"

/-- The name of an event, the fields of its own, and why it happened. -/
def eventParts : ConnectionEvent → Except IpcError (String × Json × String)
  | .probeStarted => .ok ("ProbeStarted", .object [],
      "a connection was requested, so each configured profile is being tested for usable throughput")
  | .profileSelected profile because =>
    .ok ("ProfileSelected", .object [("profile", profile.name)], because)
  | .profileBlocked profile reason =>
    .ok ("ProfileBlocked", .object [("profile", profile.name)], reason)
  | .endpointMigrated source target because =>
    .ok ("EndpointMigrated", .object [("from", source.display), ("to", target.display)], because)
  | .pathChanged source target tierAtTime =>
    .ok ("PathChanged",
      .object [("from", (source.map interfaceStr).elim .null .string), ("to", interfaceStr target),
        ("tier_at_time", tierStr tierAtTime)],
      pathChangeBecause tierAtTime)
  | .degraded path band staying => do
      return ("Degraded",
        .object [("path", interfaceStr path), ("quality", bandStr band),
          ("staying", stayingName staying)],
        ← degradedBecause band staying)
  | .recovered path =>
    .ok ("Recovered", .object [("path", interfaceStr path)],
      "the network carrying your connection is working normally again")
  | .coreRestarted core attempt =>
    .ok ("CoreRestarted", .object [("core", coreBindingStr core), ("attempt", .number attempt)],
      coreDescription core ++ " stopped unexpectedly and was restarted (attempt " ++
        toString attempt ++ ")")
  | .definitionsChanged change =>
    .ok ("DefinitionsChanged", definitionsFields change, definitionsBecause change)
  | .failed cause =>
    .ok ("Failed", .object [("failure", failureValueWithWords cause)], (explain cause).detail)

/-- The JSON object for an event, without its sequence number. -/
def eventValue (event : ConnectionEvent) : Except IpcError Json := do
  let (name, fields, because) ← eventParts event
  validateBecause name because
  return (fields.insert "event" name).insert "because" because

theorem failureValueWithWords_isValue (cause : FailureCause) :
    (failureValueWithWords cause).IsValue := by
  have named : (failureCauseValue cause).IsValue := by
    cases cause <;> simp [failureCauseValue, Json.IsValue, Json.MembersAreValues]
  exact ((named.insert _ (Json.isValue_string _)).insert _ (Json.isValue_string _)).insert _ (Json.isValue_string _)

theorem definitionsFields_isValue (change : DefinitionsChange) :
    (definitionsFields change).IsValue ∧ (definitionsFields change).isObject = true := by
  cases change with
  | checkFailed reason =>
    cases reason <;>
      simp [definitionsFields, Json.IsValue, Json.MembersAreValues, Json.isObject]
  | updated | evicted | outOfDate | discarded =>
    simp [definitionsFields, Json.IsValue, Json.MembersAreValues, Json.isObject]

variable {event : ConnectionEvent}

theorem eventParts_isValue {name because : String} {fields : Json}
    (parts : eventParts event = .ok (name, fields, because)) :
    fields.IsValue ∧ fields.isObject = true := by
  cases event with
  | degraded =>
    obtain ⟨text, _, done⟩ := bind_ok.mp parts
    cases done
    simp [Json.IsValue, Json.MembersAreValues, Json.isObject]
  | pathChanged source =>
    cases parts
    cases source <;> simp [Json.IsValue, Json.MembersAreValues, Json.isObject]
  | definitionsChanged change =>
    cases parts
    exact definitionsFields_isValue change
  | failed cause =>
    cases parts
    have words := failureValueWithWords_isValue cause
    simp [Json.IsValue, Json.MembersAreValues, Json.isObject, words]
  | probeStarted | profileSelected | profileBlocked | endpointMigrated | recovered
  | coreRestarted =>
    cases parts
    simp [Json.IsValue, Json.MembersAreValues, Json.isObject]

theorem eventValue_isValue {value : Json} (valued : eventValue event = .ok value) :
    value.IsValue ∧ value.isObject = true := by
  obtain ⟨⟨name, fields, because⟩, parts, valued⟩ := bind_ok.mp valued
  obtain ⟨_, _, valued⟩ := bind_ok.mp valued
  cases valued
  obtain ⟨isValue, isObject⟩ := eventParts_isValue parts
  exact ⟨(isValue.insert _ (Json.isValue_string _)).insert _ (Json.isValue_string _), by simp [isObject]⟩

end DnetEngine.Ipc
