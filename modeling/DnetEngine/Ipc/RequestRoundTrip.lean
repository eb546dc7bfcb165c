import DnetEngine.Config.SecretStore
import DnetEngine.Ipc.Request

/-! What the reader accepts is in the form the writer writes: a request that was read is written and read
back as it is, unless its credentials have grown beyond what is read. -/

namespace DnetEngine.Ipc

open Lib

section Normal

theorem trim_trim (text : String) : trim (trim text) = trim text := by
  have front : (trim text).toList.dropWhile isWhitespace = (trim text).toList := by
    rw [trim, String.toList_ofList]
    cases kept : (text.toList.dropWhile isWhitespace).rdropWhile isWhitespace with
    | nil => rfl
    | cons =>
      obtain ⟨dropped, whole⟩ :=
        List.rdropWhile_prefix isWhitespace (text.toList.dropWhile isWhitespace)
      have first := List.head?_dropWhile_not isWhitespace text.toList
      rw [← whole, kept] at first
      exact List.dropWhile_cons_of_neg (Bool.not_eq_true _ ▸ first)
  rw [trim, front, trim, String.toList_ofList, List.rdropWhile_idempotent]

theorem checkLabel_accepted {label accepted : String} (checked : checkLabel label = .ok accepted) :
    checkLabel accepted = .ok accepted := by
  have trimmed : accepted = trim label := by
    unfold checkLabel at checked
    dsimp only at checked
    split at checked <;> cases checked
    rfl
  rw [trimmed] at checked ⊢
  unfold checkLabel at checked ⊢
  rw [trim_trim]
  exact checked

theorem checkHost_accepted {host accepted : String} (checked : checkHost host = .ok accepted) :
    checkHost accepted = .ok accepted := by
  have trimmed : accepted = trim host := by
    obtain ⟨_, checked⟩ := refused_ok.mp checked
    split at checked <;> cases checked
    rfl
  rw [trimmed] at checked ⊢
  unfold checkHost at checked ⊢
  rw [trim_trim]
  exact checked

theorem parseProfileId_ok {raw : String} {id : ProfileId} (parsed : parseProfileId raw = .ok id) :
    parseProfileId id.name = .ok id := by
  have same : id = ⟨raw⟩ := by
    unfold parseProfileId at parsed
    dsimp only at parsed
    split at parsed <;> cases parsed
    rfl
  rw [same] at parsed ⊢
  exact parsed

theorem parseChangeId_ok {raw id : String} (parsed : parseChangeId raw = .ok id) :
    parseChangeId id = .ok id := by
  have same : id = raw := by
    unfold parseChangeId at parsed
    split at parsed <;> cases parsed
    rfl
  rw [same] at parsed ⊢
  exact parsed

theorem parseEndpointId_display (id : EndpointId) : parseEndpointId id.display = .ok id := by
  rw [parseEndpointId, EndpointId.display, parseUuid_displayUuid]
  rfl

theorem parseRuleId_display (id : RuleId) : parseRuleId (displayUuid id.uuid) = .ok id := by
  rw [parseRuleId, parseUuid_displayUuid]
  rfl

variable {value : String} {matcher : RuleMatcher}

theorem programPath_ok {path : String} (checked : programPath value = .ok path) :
    programPath path = .ok path := by
  have same : path = value := by
    unfold programPath at checked
    dsimp only at checked
    split at checked <;> cases checked
    rfl
  rw [same] at checked ⊢
  exact checked

theorem personalMatcher_ok {kind : String} (made : personalMatcher kind value = .ok matcher) :
    personalMatcher (ruleWire matcher).1 (ruleWire matcher).2 = .ok matcher := by
  unfold personalMatcher at made
  split at made
  · cases made
    rfl
  · cases made
    rfl
  · cases parsed : IpCidr.parse value with
    | error =>
      rw [parsed] at made
      cases made
    | ok =>
      rw [parsed] at made
      cases made
      simp only [ruleWire, personalMatcher, IpCidr.parse_display]
      rfl
  · cases checked : programPath value with
    | error =>
      rw [checked] at made
      cases made
    | ok =>
      rw [checked] at made
      cases made
      simp only [ruleWire, personalMatcher, programPath_ok checked]
      rfl
  · cases made

theorem personalAction_ok {text : String} {action : RuleAction}
    (made : personalAction text = .ok action) : personalAction (actionWire action) = .ok action := by
  unfold personalAction at made
  split at made <;> cases made <;> rfl

theorem personalRule_ok {kind text : String} {action : RuleAction}
    (made : personalRule kind value text = .ok (matcher, action)) :
    personalRule (ruleWire matcher).1 (ruleWire matcher).2 (actionWire action) =
      .ok (matcher, action) := by
  obtain ⟨found, matches_, made⟩ := bind_ok.mp made
  obtain ⟨done, acts, made⟩ := bind_ok.mp made
  obtain ⟨rule, valid, made⟩ := bind_ok.mp made
  cases made
  apply bind_ok.mpr
  refine ⟨_, personalMatcher_ok matches_, bind_ok.mpr ?_⟩
  exact ⟨_, personalAction_ok acts, bind_ok.mpr ⟨rule, valid, rfl⟩⟩

theorem FeedImport.new_same (documents : FeedImport) :
    FeedImport.new documents.keys documents.feed = .ok documents := by
  obtain ⟨keys, feed, given, small⟩ := documents
  have absent : ¬ (keys = none ∧ feed = none) := by
    rintro ⟨rfl, rfl⟩
    simp at given
  have fits {document : Option String} (given : keys = document ∨ feed = document) :
      ¬ oversized document = true := by
    cases document with
    | none => simp [oversized]
    | some text => simpa [oversized] using small text given
  rw [FeedImport.new, dif_neg absent, dif_neg (fits (.inl rfl)), dif_neg (fits (.inr rfl))]

end Normal

section Checked

def Request.Checked : Request → Prop
  | .connect _ profile _ => ∀ id ∈ profile, parseProfileId id.name = .ok id
  | .addEndpoint new => checkLabel new.label = .ok new.label ∧ checkHost new.host = .ok new.host ∧
      new.credentials.isEmpty = false ∧ new.credentials.validate = .ok ()
  | .addRule matcher action =>
    personalRule (ruleWire matcher).1 (ruleWire matcher).2 (actionWire action) =
      .ok (matcher, action)
  | .enableBrutal profile upMbps downMbps warningRevision =>
    parseProfileId profile.name = .ok profile ∧ (1 ≤ upMbps ∧ upMbps ≤ maxBrutalMbps) ∧
      (1 ≤ downMbps ∧ downMbps ≤ maxBrutalMbps) ∧ warningRevision = brutalWarningRevision
  | .disableBrutal profile => parseProfileId profile.name = .ok profile
  | .finishServer label host report => checkLabel label = .ok label ∧ checkHost host = .ok host ∧
      checkReport report = .ok ()
  | .approveChange id | .rejectChange id => parseChangeId id = .ok id
  | .getVersion | .getState | .getSession | .getPaths | .getStats | .getComponents | .listEndpoints
  | .listProfiles | .listRules | .getDiagnostics | .listPending | .disconnect | .removeEndpoint _
  | .setEndpointEnabled _ _ | .removeRule _ | .setProfileParams | .setEncryptedDnsHandling _
  | .importFeed _ | .fetchFeed | .prepareServer _ | .startProvisioning | .cancelProvisioning
  | .subscribe => True

variable {Text : Type} {serde : SerdeJson Text} {quoted : String → String} {value : Json}
  {request : Request}

theorem decodeConnect_checked (decoded : decodeConnect value = .ok request) : request.Checked := by
  obtain ⟨_, _, decoded⟩ := bind_ok.mp decoded
  obtain ⟨raw, _, decoded⟩ := bind_ok.mp decoded
  obtain ⟨profile, parsed, decoded⟩ := bind_ok.mp decoded
  obtain ⟨_, _, decoded⟩ := bind_ok.mp decoded
  obtain ⟨_, _, decoded⟩ := bind_ok.mp decoded
  cases decoded
  intro id chosen
  cases raw with
  | none =>
    cases parsed
    cases chosen
  | some =>
    obtain ⟨found, read, same⟩ := bind_ok.mp parsed
    cases same
    cases chosen
    exact parseProfileId_ok read

variable {credentials : EndpointCredentials}

theorem validate_of_storable (stores : storable serde credentials = .ok ()) :
    credentials.validate = .ok () := by
  cases printed : credentials.toPlaintextJson serde with
  | error =>
    rw [storable, printed] at stores
    cases stores
  | ok =>
    obtain ⟨_, valid, _⟩ := bind_ok.mp printed
    exact valid

theorem NewEndpoint.new_ok {label host : String} {new : NewEndpoint}
    (made : NewEndpoint.new (storable serde) label host credentials = .ok new) :
    (Request.addEndpoint new).Checked := by
  obtain ⟨label_, named, made⟩ := bind_ok.mp made
  obtain ⟨host_, addressed, made⟩ := bind_ok.mp made
  obtain ⟨filled, made⟩ := refused_ok.mp made
  split at made
  · cases made
  next stores =>
    cases made
    exact ⟨checkLabel_accepted named, checkHost_accepted addressed, by simpa using filled,
      validate_of_storable stores⟩

theorem decodeAddEndpoint_checked (decoded : decodeAddEndpoint serde value = .ok request) :
    request.Checked := by
  obtain ⟨_, _, decoded⟩ := bind_ok.mp decoded
  obtain ⟨credentials, _, decoded⟩ := bind_ok.mp decoded
  obtain ⟨label, _, decoded⟩ := bind_ok.mp decoded
  obtain ⟨host, _, decoded⟩ := bind_ok.mp decoded
  obtain ⟨new, made, decoded⟩ := bind_ok.mp decoded
  cases decoded
  exact NewEndpoint.new_ok made

theorem decodeAddRule_checked (decoded : decodeAddRule value = .ok request) : request.Checked := by
  obtain ⟨_, _, decoded⟩ := bind_ok.mp decoded
  obtain ⟨kind, _, decoded⟩ := bind_ok.mp decoded
  obtain ⟨pattern, _, decoded⟩ := bind_ok.mp decoded
  obtain ⟨action, _, decoded⟩ := bind_ok.mp decoded
  obtain ⟨rule, made, decoded⟩ := bind_ok.mp decoded
  cases decoded
  exact personalRule_ok made

theorem fieldMbps_ok {key : String} {n : Nat} (given : fieldMbps value key = .ok n) :
    1 ≤ n ∧ n ≤ maxBrutalMbps := by
  obtain ⟨_, _, given⟩ := bind_ok.mp given
  obtain ⟨_, bounds⟩ := Option.filter_eq_some_iff.mp (orError_ok.mp given)
  exact of_decide_eq_true bounds

theorem fieldWarningRevision_ok {n : Nat} (given : fieldWarningRevision value = .ok n) :
    n = brutalWarningRevision := by
  obtain ⟨_, _, given⟩ := bind_ok.mp given
  obtain ⟨_, bounds⟩ := Option.filter_eq_some_iff.mp (orError_ok.mp given)
  exact of_decide_eq_true bounds

theorem decodeEnableBrutal_checked (decoded : decodeEnableBrutal value = .ok request) :
    request.Checked := by
  obtain ⟨_, _, decoded⟩ := bind_ok.mp decoded
  obtain ⟨_, _, decoded⟩ := bind_ok.mp decoded
  obtain ⟨_, profile, decoded⟩ := bind_ok.mp decoded
  obtain ⟨_, up, decoded⟩ := bind_ok.mp decoded
  obtain ⟨_, down, decoded⟩ := bind_ok.mp decoded
  obtain ⟨_, revision, decoded⟩ := bind_ok.mp decoded
  cases decoded
  exact ⟨parseProfileId_ok profile, fieldMbps_ok up, fieldMbps_ok down,
    fieldWarningRevision_ok revision⟩

theorem decodeDisableBrutal_checked (decoded : decodeDisableBrutal value = .ok request) :
    request.Checked := by
  obtain ⟨_, _, decoded⟩ := bind_ok.mp decoded
  obtain ⟨_, _, decoded⟩ := bind_ok.mp decoded
  obtain ⟨_, profile, decoded⟩ := bind_ok.mp decoded
  cases decoded
  exact parseProfileId_ok profile

theorem decodeFinishServer_checked (decoded : decodeFinishServer value = .ok request) :
    request.Checked := by
  obtain ⟨_, _, decoded⟩ := bind_ok.mp decoded
  obtain ⟨_, _, decoded⟩ := bind_ok.mp decoded
  obtain ⟨_, label, decoded⟩ := bind_ok.mp decoded
  obtain ⟨_, _, decoded⟩ := bind_ok.mp decoded
  obtain ⟨_, host, decoded⟩ := bind_ok.mp decoded
  obtain ⟨_, _, decoded⟩ := bind_ok.mp decoded
  obtain ⟨_, report, decoded⟩ := bind_ok.mp decoded
  cases decoded
  exact ⟨checkLabel_accepted label, checkHost_accepted host, report⟩

theorem decodeChange_ok {make : String → Request} (decoded : decodeChange make value = .ok request) :
    ∃ id, request = make id ∧ parseChangeId id = .ok id := by
  obtain ⟨_, _, decoded⟩ := bind_ok.mp decoded
  obtain ⟨_, _, decoded⟩ := bind_ok.mp decoded
  obtain ⟨id, parsed, decoded⟩ := bind_ok.mp decoded
  cases decoded
  exact ⟨id, rfl, parseChangeId_ok parsed⟩

theorem decodeNamed_checked {name : String} (decoded : decodeNamed serde quoted name value = .ok request) :
    request.Checked := by
  unfold decodeNamed at decoded
  split at decoded
  case h_12 => exact decodeConnect_checked decoded
  case h_14 => exact decodeAddEndpoint_checked decoded
  case h_17 => exact decodeAddRule_checked decoded
  case h_20 => exact decodeEnableBrutal_checked decoded
  case h_21 => exact decodeDisableBrutal_checked decoded
  case h_26 => exact decodeFinishServer_checked decoded
  case h_29 | h_30 =>
    obtain ⟨id, rfl, parsed⟩ := decodeChange_ok decoded
    exact parsed
  case h_32 => cases decoded
  all_goals
    -- The types of the other requests say all that is checked of them.
    repeat obtain ⟨_, _, decoded⟩ := bind_ok.mp decoded
    cases decoded
    exact True.intro

theorem decodeRequest_checked {wire : Text} (decoded : decodeRequest serde quoted wire = .ok request) :
    request.Checked := by
  obtain ⟨value, _, decoded⟩ := bind_ok.mp decoded
  obtain ⟨name, _, decoded⟩ := bind_ok.mp decoded
  exact decodeNamed_checked decoded

end Checked

section RoundTrip

variable {Text : Type} {serde : SerdeJson Text} {quoted : String → String} {value : Json}
  {request : Request}

variable {fields members : List (String × Option Json)} {key : String} {new : NewEndpoint}

theorem onlyFields_record {allowed : List String} (known : fields.map Prod.fst ⊆ allowed) :
    onlyFields (.record fields) allowed = .ok () := by
  apply if_neg
  rw [Bool.not_eq_true, List.any_eq_false]
  intro member present
  have listed := known (Json.names_given.subset (List.mem_map_of_mem present))
  simpa using listed

theorem onlyFields_bind {rest : Unit → Except IpcError Request} (read : rest () = .ok request) :
    onlyFields (.record fields) (fields.map Prod.fst) >>= rest = .ok request :=
  bind_of_ok (onlyFields_record (List.Subset.refl _)) read

theorem fieldStr_of_get {text : String} (given : value.get key = some (.string text)) :
    fieldStr value key = .ok text := by
  rw [fieldStr, field, optionalField, given]
  rfl

theorem fieldBool_of_get {flag : Bool} (given : value.get key = some (.bool flag)) :
    fieldBool value key = .ok flag := by
  rw [fieldBool, field, optionalField, given]
  rfl

theorem optionalString_of_get {text : Option String} (given : value.get key = text.map Json.string)
    : optionalString value key = .ok text := by
  rw [optionalString, optionalField, given]
  cases text <;> rfl

theorem asU64_number {n : Nat} (small : n < 2^64) : (Json.number n).asU64 = some n := by
  rw [Json.asU64, if_pos ⟨Int.natCast_nonneg n, small⟩]
  rfl

theorem fieldMbps_of_get {n : Nat} (given : value.get key = some (.number n))
    (bounds : 1 ≤ n ∧ n ≤ maxBrutalMbps) : fieldMbps value key = .ok n := by
  have small : n < 2^64 := bounds.2.trans_lt (by decide)
  rw [fieldMbps, field, optionalField, given, orError_some, ok_bind, asU64_number small]
  exact orError_ok.mpr (Option.filter_eq_some_iff.mpr ⟨rfl, decide_eq_true bounds⟩)

theorem optionalString_mapM {Value : Type} {parse : String → Except IpcError Value}
    {display : Value → String} {given : Option Value}
    (reads : ∀ value ∈ given, parse (display value) = .ok value)
    (written : value.get key = some (given.elim .null (fun value => .string (display value)))) :
    ∃ text, optionalString value key = .ok text ∧ text.mapM parse = .ok given := by
  rw [optionalString, optionalField, written]
  cases given with
  | none => exact ⟨none, rfl, rfl⟩
  | some value =>
    refine ⟨some (display value), rfl, ?_⟩
    rw [Option.mapM_some, reads value rfl]
    rfl

theorem decodeConnect_members (acknowledgeTier2 : Bool) {profile : Option ProfileId}
    (endpoint : Option EndpointId) (named : ∀ id ∈ profile, parseProfileId id.name = .ok id)
    (flag : value.get "acknowledge_tier2" = some (.bool acknowledgeTier2))
    (chosen : value.get "profile" = some (profile.elim .null (fun id => .string id.name)))
    (chosenEndpoint : value.get "endpoint" = some (endpoint.elim .null (fun id => .string id.display))) :
    decodeConnect value = .ok (.connect acknowledgeTier2 profile endpoint) := by
  have acknowledged : optionalFlag value "acknowledge_tier2" = .ok acknowledgeTier2 := by
    rw [optionalFlag, optionalField, flag]
  obtain ⟨_, profileText, profileRead⟩ := optionalString_mapM named chosen
  obtain ⟨_, endpointText, endpointRead⟩ :=
    optionalString_mapM (fun id _ => parseEndpointId_display id) chosenEndpoint
  apply bind_of_ok acknowledged
  apply bind_of_ok profileText
  apply bind_of_ok profileRead
  apply bind_of_ok endpointText
  exact bind_of_ok endpointRead rfl

/-- The credentials are not larger than what is read. -/
def Request.Fits (serde : SerdeJson Text) : Request → Prop
  | .addEndpoint new => ∀ text, new.credentials.toPlaintextJson serde = .ok text →
      serde.len text ≤ maxStoredLen
  | .getVersion | .getState | .getSession | .getPaths | .getStats | .getComponents | .listEndpoints
  | .listProfiles | .listRules | .getDiagnostics | .listPending | .connect _ _ _ | .disconnect
  | .removeEndpoint _ | .setEndpointEnabled _ _ | .addRule _ _ | .removeRule _ | .setProfileParams
  | .enableBrutal _ _ _ _ | .disableBrutal _ | .setEncryptedDnsHandling _ | .importFeed _ | .fetchFeed
  | .prepareServer _ | .finishServer _ _ _ | .startProvisioning | .cancelProvisioning
  | .approveChange _ | .rejectChange _ | .subscribe => True

variable (serde) in
theorem toPlaintextJson_of_valid {credentials : EndpointCredentials}
    (valid : credentials.validate = .ok ()) :
    credentials.toPlaintextJson serde = .ok (serde.toText credentials.toWire.print) :=
  bind_of_ok valid rfl

theorem addEndpoint_members (checked : (Request.addEndpoint new).Checked) :
    (Request.addEndpoint new).members serde = some [("label", some (.string new.label)),
      ("host", some (.string new.host)), ("credentials", some new.credentials.toWire.print)] := by
  obtain ⟨_, _, _, valid⟩ := checked
  have value := serde.fromStr_toText new.credentials.toWire.print_isValue
  rw [Request.members, toPlaintextJson_of_valid serde valid]
  simp [Except.toOption, value]

def newEndpointValue (new : NewEndpoint) (credentials : Json) : Json :=
  .record [("request", some (.string "AddEndpoint")), ("label", some (.string new.label)),
    ("host", some (.string new.host)), ("credentials", some credentials)]

variable (serde) in
theorem decodeCredentials_value (new : NewEndpoint) (wire : StoredWire) :
    decodeCredentials serde (newEndpointValue new wire.print) =
      (EndpointCredentials.fromPlaintextJson serde (serde.toText wire.print)).mapError
        (fun error => invalid ("`credentials`: " ++ error.display)) := by
  have found : field (newEndpointValue new wire.print) "credentials" = .ok wire.print := rfl
  rw [decodeCredentials, found, ok_bind]
  exact if_neg Bool.false_ne_true

theorem decodeAddEndpoint_value {wire : StoredWire} (checked : (Request.addEndpoint new).Checked)
    (read : EndpointCredentials.fromPlaintextJson serde (serde.toText wire.print) =
      .ok new.credentials) :
    decodeAddEndpoint serde (newEndpointValue new wire.print) = .ok (.addEndpoint new) := by
  obtain ⟨named, addressed, filled, valid⟩ := checked
  have stored := toPlaintextJson_of_valid serde valid
  have given : decodeCredentials serde (newEndpointValue new wire.print) = .ok new.credentials := by
    rw [decodeCredentials_value, read]
    rfl
  have made : NewEndpoint.new (storable serde) new.label new.host new.credentials = .ok new := by
    apply bind_of_ok named
    apply bind_of_ok addressed
    simp [filled, storable, stored, Except.mapError, Except.map]
  apply bind_of_ok given
  apply bind_of_ok (fieldStr_of_get (by rfl))
  apply bind_of_ok (fieldStr_of_get (by rfl))
  exact bind_of_ok made rfl

/-- A new endpoint is read back exactly when its credentials are not too large. -/
theorem decodeAddEndpoint_members (checked : (Request.addEndpoint new).Checked) :
    decodeAddEndpoint serde (newEndpointValue new new.credentials.toWire.print) =
      .ok (.addEndpoint new) ↔ (Request.addEndpoint new).Fits serde := by
  have stored := toPlaintextJson_of_valid serde checked.2.2.2
  have read := EndpointCredentials.fromPlaintextJson_toPlaintextJson stored
  have fits : (Request.addEndpoint new).Fits serde ↔
      ¬ maxStoredLen < serde.len (serde.toText new.credentials.toWire.print) := by
    simp [Request.Fits, stored]
  rw [fits]
  constructor
  · intro decoded large
    obtain ⟨_, _, decoded⟩ := bind_ok.mp decoded
    obtain ⟨_, given, _⟩ := bind_ok.mp decoded
    rw [decodeCredentials_value, read, if_pos large] at given
    cases given
  · intro small
    rw [if_neg small] at read
    exact decodeAddEndpoint_value checked read

theorem decodeNamed_members (checked : request.Checked)
    (written : request.members serde = some members) (fits : request.Fits serde) :
    decodeNamed serde quoted request.name
      (.record (("request", some (.string request.name)) :: members)) = .ok request := by
  cases request with
  | connect acknowledgeTier2 _ endpoint =>
    cases written
    exact decodeConnect_members acknowledgeTier2 endpoint checked rfl rfl rfl
  | addEndpoint =>
    rw [addEndpoint_members checked] at written
    cases written
    exact (decodeAddEndpoint_members checked).mpr fits
  | removeEndpoint endpoint =>
    cases written
    apply onlyFields_bind
    apply bind_of_ok (fieldStr_of_get (by rfl))
    apply bind_of_ok (parseEndpointId_display endpoint)
    rfl
  | setEndpointEnabled endpoint =>
    cases written
    apply onlyFields_bind
    apply bind_of_ok (fieldStr_of_get (by rfl))
    apply bind_of_ok (parseEndpointId_display endpoint)
    rfl
  | addRule =>
    cases written
    apply onlyFields_bind
    apply bind_of_ok (fieldStr_of_get (by rfl))
    apply bind_of_ok (fieldStr_of_get (by rfl))
    apply bind_of_ok (fieldStr_of_get (by rfl))
    exact bind_of_ok checked rfl
  | removeRule rule =>
    cases written
    apply onlyFields_bind
    apply bind_of_ok (fieldStr_of_get (by rfl))
    exact bind_of_ok (parseRuleId_display rule) rfl
  | enableBrutal =>
    cases written
    obtain ⟨named, up, down, rfl⟩ := checked
    apply bind_of_ok named
    apply bind_of_ok (fieldMbps_of_get (by rfl) up)
    apply bind_of_ok (fieldMbps_of_get (by rfl) down)
    rfl
  | disableBrutal | approveChange | rejectChange =>
    cases written
    apply onlyFields_bind
    apply bind_of_ok (fieldStr_of_get (by rfl))
    exact bind_of_ok checked rfl
  | setEncryptedDnsHandling =>
    cases written
    apply onlyFields_bind
    exact bind_of_ok (fieldBool_of_get (by rfl)) rfl
  | importFeed documents =>
    cases written
    apply onlyFields_bind
    apply bind_of_ok (optionalString_of_get (by simp; rfl))
    apply bind_of_ok (optionalString_of_get (by simp; rfl))
    exact bind_of_ok (FeedImport.new_same documents) rfl
  | prepareServer arch =>
    cases written
    cases arch <;> rfl
  | finishServer =>
    cases written
    obtain ⟨named, addressed, reported⟩ := checked
    apply onlyFields_bind
    apply bind_of_ok named
    apply bind_of_ok (fieldStr_of_get (by rfl))
    apply bind_of_ok addressed
    apply bind_of_ok (fieldStr_of_get (by rfl))
    exact bind_of_ok reported rfl
  | fetchFeed =>
    cases written
    rfl
  | getVersion | getState | getSession | getPaths | getStats | getComponents | listEndpoints
  | listProfiles | listRules | getDiagnostics | listPending | disconnect | setProfileParams
  | startProvisioning | cancelProvisioning | subscribe =>
    rfl

theorem fits_of_decodeNamed (checked : request.Checked)
    (written : request.members serde = some members)
    (decoded : decodeNamed serde quoted request.name
      (.record (("request", some (.string request.name)) :: members)) = .ok request) :
    request.Fits serde := by
  cases request with
  | addEndpoint =>
    rw [addEndpoint_members checked] at written
    cases written
    exact (decodeAddEndpoint_members checked).mp decoded
  | _ => exact True.intro

variable (serde) in
theorem members_written (checked : request.Checked) :
    ∃ members, request.members serde = some members ∧
      (Json.record (("request", some (.string request.name)) :: members)).IsValue := by
  cases request with
  | addEndpoint =>
    refine ⟨_, addEndpoint_members checked, ?_⟩
    apply Json.IsValue.record
    · simp
    · simp [StoredWire.print_isValue]
  | connect _ profile endpoint =>
    refine ⟨_, rfl, ?_⟩
    apply Json.IsValue.record
    · simp
    · cases profile <;> cases endpoint <;> simp [Json.IsValue]
  | _ =>
    refine ⟨_, rfl, ?_⟩
    apply Json.IsValue.record
    · simp
    · simp [Json.IsValue]

theorem decodeRequest_record {name : String}
    (isValue : (Json.record (("request", some (.string name)) :: fields)).IsValue) :
    decodeRequest serde quoted
      (serde.toText (.record (("request", some (.string name)) :: fields))) =
        decodeNamed serde quoted name (.record (("request", some (.string name)) :: fields)) := by
  rw [decodeRequest, serde.fromStr_toText isValue]
  rfl

variable (serde quoted) in
/-- What the writer makes of a request the reader has checked. -/
theorem decodeRequest_encodeRequest (checked : request.Checked) :
    ∃ wire, encodeRequest serde request = some wire ∧
      (decodeRequest serde quoted wire = .ok request ↔ request.Fits serde) := by
  obtain ⟨members, written, isValue⟩ := members_written serde checked
  refine ⟨_, by rw [encodeRequest, written]; rfl, ?_⟩
  rw [decodeRequest_record isValue]
  exact ⟨fits_of_decodeNamed checked written, decodeNamed_members checked written⟩

end RoundTrip

/-- Requests mean the same on both ends: what was read is written, and read back as it was exactly when
its credentials are not too large; and two requests that are written alike are one. -/
theorem requests_mean_the_same {Text : Type} (serde : SerdeJson Text) (quoted : String → String) :
    (∀ text request, decodeRequest serde quoted text = .ok request →
      ∃ wire, encodeRequest serde request = some wire ∧
        (decodeRequest serde quoted wire = .ok request ↔ request.Fits serde)) ∧
      ∀ text other request same, decodeRequest serde quoted text = .ok request →
        decodeRequest serde quoted other = .ok same →
        encodeRequest serde request = encodeRequest serde same → request = same := by
  constructor
  · intro text request decoded
    exact decodeRequest_encodeRequest serde quoted (decodeRequest_checked decoded)
  · intro text other request same decoded decodedOther alike
    -- A reader with no bound on what is stored reads back both.
    let unbounded : SerdeJson Text := { serde with len := fun _ => 0 }
    have fits (any : Request) : any.Fits unbounded := by
      cases any with
      | addEndpoint => exact fun _ _ => Nat.zero_le _
      | _ => exact True.intro
    obtain ⟨wire, first, readFirst⟩ :=
      decodeRequest_encodeRequest unbounded quoted (decodeRequest_checked decoded)
    obtain ⟨wireOther, second, readSecond⟩ :=
      decodeRequest_encodeRequest unbounded quoted (decodeRequest_checked decodedOther)
    cases first.symm.trans (alike.trans second)
    cases (readFirst.mpr (fits _)).symm.trans (readSecond.mpr (fits _))
    rfl

section TooLarge

/-- The stored form of one connection method and an origin. -/
def longWire (origin : String) (length : Nat) : StoredWire :=
  ⟨1, some origin, none, some (longPassword length).toWire, none, none⟩

theorem longWire_length (origin : String) (length : Nat) :
    (longWire origin length).print.textLength = 192 + Json.stringLength origin + length := by
  have letters : Json.stringLength (String.ofList (List.replicate length 'a')) = 2 + length := by
    simp [Json.stringLength, Json.charLength, Char.utf8Size]
  have shortest : (longWire "" 0).print.textLength = 194 := by decide +kernel
  have empty : Json.stringLength "" = 2 := rfl
  have noLetters : Json.stringLength (String.ofList (List.replicate 0 'a')) = 2 := by decide
  simp only [StoredWire.print, longWire, Json.record, Json.given, Json.textLength,
    Json.membersLength, Option.map_some, Option.map_none, Hy2Wire.print, Hysteria2Bundle.toWire,
    longPassword, List.length_cons] at shortest ⊢
  omega

/-- The measurement origin with the port that is left out of its text. -/
def exampleOrigin : Origin := ⟨"h", 80, by decide, by decide, Origin.http_port_set⟩

def largeEndpoint (length : Nat) : NewEndpoint where
  label := "home"
  host := "192.0.2.1"
  credentials := { hysteria2 := some (longPassword (length + 1)), measureOrigin := some exampleOrigin }

theorem largeEndpoint_checked (length : Nat) :
    (Request.addEndpoint (largeEndpoint length)).Checked :=
  ⟨(by decide +kernel : checkLabel "home" = .ok "home"),
    (by decide +kernel : checkHost "192.0.2.1" = .ok "192.0.2.1"), rfl, longPassword_valid length⟩

theorem largeEndpoint_read {length : Nat} (small : 202 + (length + 1) ≤ maxStoredLen) :
    EndpointCredentials.fromPlaintextJson SerdeJson.trees
      (SerdeJson.trees.toText (longWire "http://h" (length + 1)).print) =
        .ok (largeEndpoint length).credentials := by
  have fits : ¬ maxStoredLen <
      SerdeJson.trees.len (SerdeJson.trees.toText (longWire "http://h" (length + 1)).print) := by
    have same := longWire_length "http://h" (length + 1)
    have scheme : Json.stringLength "http://h" = 10 := rfl
    show ¬ maxStoredLen < (longWire "http://h" (length + 1)).print.textLength
    omega
  have made : EndpointCredentials.ofWire (longWire "http://h" (length + 1)) =
      .ok (largeEndpoint length).credentials := by
    rfl
  have known : oldestVersion ≤ (1 : BitVec 32).toNat ∧ (1 : BitVec 32).toNat ≤ formatVersion := by
    decide
  rw [EndpointCredentials.fromPlaintextJson_print known, if_neg fits, EndpointCredentials.readWire, made, ok_bind]
  exact bind_of_ok (longPassword_valid length) rfl

theorem largeEndpoint_grows {length : Nat} (large : maxStoredLen < 205 + (length + 1)) :
    ¬ (Request.addEndpoint (largeEndpoint length)).Fits SerdeJson.trees := by
  intro fits
  have written : (largeEndpoint length).credentials.toWire = longWire "http://h:80" (length + 1) := by
    rfl
  have small := fits _ (toPlaintextJson_of_valid SerdeJson.trees (longPassword_valid length))
  change (largeEndpoint length).credentials.toWire.print.textLength ≤ maxStoredLen at small
  have whole : Json.stringLength "http://h:80" = 13 := rfl
  rw [written, longWire_length] at small
  omega

theorem largeEndpoint_not_read_back (length : Nat) (small : 202 + (length + 1) ≤ maxStoredLen)
    (large : maxStoredLen < 205 + (length + 1)) :
    ∃ text request wire, decodeRequest SerdeJson.trees id text = .ok request ∧
      encodeRequest SerdeJson.trees request = some wire ∧
      decodeRequest SerdeJson.trees id wire ≠ .ok request := by
  have isValue :
      (newEndpointValue (largeEndpoint length) (longWire "http://h" (length + 1)).print).IsValue := by
    apply Json.IsValue.record
    · simp
    · simp [StoredWire.print_isValue]
  have decoded : decodeRequest SerdeJson.trees id (SerdeJson.trees.toText
      (newEndpointValue (largeEndpoint length) (longWire "http://h" (length + 1)).print)) =
        .ok (.addEndpoint (largeEndpoint length)) := by
    refine (decodeRequest_record isValue).trans ?_
    exact decodeAddEndpoint_value (largeEndpoint_checked length) (largeEndpoint_read small)
  obtain ⟨wire, written, read⟩ :=
    decodeRequest_encodeRequest SerdeJson.trees id (largeEndpoint_checked length)
  exact ⟨_, _, wire, decoded, written, fun again => largeEndpoint_grows large (read.mp again)⟩

/-- A request that is read and not read back: its origin is written with the port that was left out. -/
theorem request_not_read_back : ∃ text request wire,
    decodeRequest SerdeJson.trees id text = .ok request ∧
      encodeRequest SerdeJson.trees request = some wire ∧
      decodeRequest SerdeJson.trees id wire ≠ .ok request :=
  largeEndpoint_not_read_back 16181 (by decide) (by decide)

end TooLarge

end DnetEngine.Ipc
