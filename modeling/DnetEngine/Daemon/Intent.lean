import DnetEngine.Daemon.Service
import DnetEngine.Ipc.Request
import Mathlib

/-! The connection stays the way the person left it: what a connect and a disconnect leave in memory
and in a file, and the attempts that the service makes of its own accord, over any number of runs. -/

namespace DnetEngine.LeftOn

open Lib Ipc
open Service (Host notAvailable)

inductive Remembered
  /-- Nothing to resume: never connected, last asked to disconnect, or the record is unreadable. -/
  | off
  /-- Connect again, with this profile only, or with the best one. -/
  | on (profile : Option ProfileId)
  deriving DecidableEq

/-- What an attempt would name. -/
def Remembered.attempt : Remembered → Option (Option ProfileId)
  | .off => none
  | .on profile => some profile

section File

variable {Text : Type} (serde : SerdeJson Text)

def version : Nat := 1

/-- The same rule the control protocol applies to a profile a client names. -/
def isProfileId (raw : String) : Bool :=
  let chars := raw.toList
  !chars.isEmpty && decide (raw.utf8ByteSize ≤ maxProfileIdLen) &&
    chars.all (fun c => isLowerOrDigit c || c == '-') && chars.head? != some '-' &&
    chars.getLast? != some '-'

/-- The record of a connect; a map prints its members in the order of their names. -/
def encode (profile : Option ProfileId) : Json :=
  .object ([("connect", .bool true)] ++
    (profile.map fun id => ("profile", Json.string id.name)).toList ++
    [("version", .number version)])

def decodeProfile : Option Json → Option (Option ProfileId)
  | none => some none
  | some (.string id) => if isProfileId id then some (some ⟨id⟩) else none
  | some _ => none

def decodeRecord (record : List (String × Json)) : Option Remembered :=
  if record.any (fun member => !(["version", "connect", "profile"].contains member.1)) then none
  else do
    let written ← (← record.lookup "version").asU64
    let connect ← (← record.lookup "connect").asBool
    if written ≠ version || !connect then none
    else
      let profile ← decodeProfile (record.lookup "profile")
      return .on profile

def decode (text : Text) : Option Remembered :=
  match serde.fromStr text with
  | .ok (.object record) => decodeRecord record
  | _ => none

structure Named where
  id : ProfileId
  named : parseProfileId id.name = .ok id

theorem isProfileId_named (profile : Named) : isProfileId profile.id.name = true := by
  have parsed := profile.named
  obtain ⟨acceptable, parsed⟩ := required_ok.mp parsed
  exact acceptable

theorem encode_isValue (profile : Option ProfileId) : (encode profile).IsValue := by
  cases profile with
  | none | some => simp [encode, Json.IsValue, Json.MembersAreValues]

theorem decode_encode (profile : Option Named) :
    decode serde (serde.toText (encode (profile.map Named.id))) =
      some (.on (profile.map Named.id)) := by
  rw [decode, serde.fromStr_toText (encode_isValue _)]
  cases profile with
  | none => rfl
  | some profile =>
    have acceptable := isProfileId_named profile
    simp [encode, decodeRecord, decodeProfile, acceptable, Json.asU64, version,
      List.lookup]

end File

section Service

variable {Text : Type} (serde : SerdeJson Text)

/-- How an operation of the file went. One that failed, or in which the service was killed, may leave
anything behind. -/
inductive Fate (Text : Type)
  | done
  | failed (error : String) (left : Option Text)

/-- The result, and what the file then holds, of an operation that was to leave it with `wanted`. -/
def Fate.leaves (wanted : Option Text) : Fate Text → Except String Unit × Option Text
  | .done => (.ok (), wanted)
  | .failed error left => (.error error, left)

/-- The remembered intent. What was asked for in this run is in memory too, and wins over the file. -/
structure Intent (Text : Type) where
  file : Option Text
  wish : Option Remembered

namespace Intent

def readFile (readable : Bool) (intent : Intent Text) : Remembered :=
  if readable then
    match intent.file with
    | none => .off
    | some text => (decode serde text).getD .off
  else .off

def load (readable : Bool) (intent : Intent Text) : Remembered × Intent Text :=
  match intent.wish with
  | some remembered => (remembered, intent)
  | none =>
    let remembered := intent.readFile serde readable
    (remembered, { intent with wish := some remembered })

def rememberOn (profile : Option ProfileId) (fate : Fate Text) (_ : Intent Text) :
    Except String Unit × Intent Text :=
  let written := fate.leaves (some (serde.toText (encode profile)))
  (written.1, ⟨written.2, some (.on profile)⟩)

def forget (fate : Fate Text) (_ : Intent Text) : Except String Unit × Intent Text :=
  let removed := fate.leaves none
  (removed.1, ⟨removed.2, some .off⟩)

end Intent

structure Start where
  /-- Why the changes of an earlier run could not be undone, if they could not. -/
  recovery : Except String Unit
  configRefusal : Option String
  /-- The service found its own files. -/
  installed : Bool
  /-- The intent file could be read. -/
  readable : Bool

/-- The strict gate, before every request that changes something. -/
def Start.refuseWhileUnsafe (start : Start) : Except IpcError Unit :=
  match start.recovery with
  | .error error => .error (.internalError error)
  | .ok () =>
    match start.configRefusal with
    | some reason =>
      .error (.internalError (reason ++ ". DNet Engine will not connect or change anything " ++
        "until the file is corrected or removed, then the service restarted"))
    | none => .ok ()

/-- There is an orchestrator to connect with: `with_production_orchestrator` attached one. -/
def Start.available (start : Start) : Bool :=
  match start.recovery with
  | .error _ => false
  | .ok () => start.configRefusal.isNone && start.installed

/-- What the orchestrator would answer now. -/
structure Orchestrator where
  connect : Except IpcError Unit
  disconnect : Except IpcError Unit
  isIdle : Bool
  isConnected : Bool

def acceptedReply : String := "\x7b\"accepted\":true\x7d"

structure Running (Text : Type) where
  start : Start
  intent : Intent Text

namespace Running

def orchestrator (service : Running Text) (now : Orchestrator) : Option Orchestrator :=
  if service.start.available then some now else none

/-- A failure to remember or to forget is logged, and nothing else. -/
def remember (profile : Option ProfileId) (fate : Fate Text) (service : Running Text) :
    Running Text :=
  { service with intent := (service.intent.rememberOn serde profile fate).2 }

def forget (fate : Fate Text) (service : Running Text) : Running Text :=
  { service with intent := (service.intent.forget fate).2 }

def connect (profile : Option ProfileId) (endpoint : Option EndpointId) (now : Orchestrator)
    (fate : Fate Text) (service : Running Text) : Except IpcError String × Running Text :=
  match service.start.refuseWhileUnsafe with
  | .error error => (.error error, service)
  | .ok () =>
    match service.orchestrator now with
    | none => (.error (notAvailable "connecting"), service)
    | some orchestrator =>
      if endpoint.isSome then
        (.error (.invalidRequest ("choosing a particular endpoint is not supported yet; connect " ++
          "without one and the best endpoint is used")), service)
      else
        match orchestrator.connect with
        | .error error => (.error error, service)
        | .ok () => (.ok acceptedReply, service.remember serde profile fate)

/-- `apply` for a disconnect. The person said off, so it stays off whatever the answer. -/
def disconnect (now : Orchestrator) (fate : Fate Text) (service : Running Text) :
    Except IpcError String × Running Text :=
  match service.start.refuseWhileUnsafe with
  | .error error => (.error error, service)
  | .ok () =>
    let service := service.forget fate
    match service.orchestrator now with
    | none => (.error (notAvailable "disconnecting"), service)
    | some orchestrator =>
      match orchestrator.disconnect with
      | .error error => (.error error, service)
      | .ok () => (.ok acceptedReply, service)

/-- What one look at the service found, and did. -/
inductive Tick
  | idle
  | healthy
  | inProgress
  | attempted
  deriving DecidableEq

/-- The connect that was asked of the orchestrator, if one was, comes last. -/
def retryIfLeftOn (now : Orchestrator) (service : Running Text) :
    Tick × Running Text × Option (Option ProfileId) :=
  let loaded := service.intent.load serde service.start.readable
  let service := { service with intent := loaded.2 }
  match loaded.1 with
  | .off => (.idle, service, none)
  | .on profile =>
    match service.orchestrator now with
    | none => (.idle, service, none)
    | some orchestrator =>
      if !orchestrator.isIdle then
        (if orchestrator.isConnected then .healthy else .inProgress, service, none)
      else
        match orchestrator.connect with
        | .ok () => (.attempted, service, some profile)
        | .error _ => (.inProgress, service, some profile)

/-- Once, when the service starts: connect again if it was left on. -/
def resumeIfLeftOn (service : Running Text) : Running Text × Option (Option ProfileId) :=
  let loaded := service.intent.load serde service.start.readable
  let service := { service with intent := loaded.2 }
  match loaded.1 with
  | .off => (service, none)
  | .on profile => if service.start.available then (service, some profile) else (service, none)

def begin (start : Start) (file : Option Text) : Running Text × Option (Option ProfileId) :=
  resumeIfLeftOn serde ⟨start, ⟨file, none⟩⟩

end Running

end Service

section Histories

variable {Text : Type} (serde : SerdeJson Text)

/-- What comes to the service in a run: requests that are dispatched, and looks of the retry. -/
inductive Happening (Text : Type)
  | connect (profile : Option Named) (endpoint : Option EndpointId) (now : Orchestrator)
      (fate : Fate Text)
  | disconnect (now : Orchestrator) (fate : Fate Text)
  | retry (now : Orchestrator)

def Running.serve (running : Running Text) : Happening Text → Running Text
  | .connect profile endpoint now fate =>
    (running.connect serde (profile.map Named.id) endpoint now fate).2
  | .disconnect now fate => (running.disconnect now fate).2
  | .retry now => (running.retryIfLeftOn serde now).2.1

/-- The attempt that the service makes of its own accord: a connect it asks of the orchestrator,
whatever that answers. -/
def Running.attempt (running : Running Text) : Happening Text → Option (Option ProfileId)
  | .connect .. | .disconnect .. => none
  | .retry now => (running.retryIfLeftOn serde now).2.2

def Running.serveAll (running : Running Text) (happenings : List (Happening Text)) :
    Running Text :=
  happenings.foldl (Running.serve serde) running

structure Session (Text : Type) where
  start : Start
  happenings : List (Happening Text)

def Session.leaves (file : Option Text) (session : Session Text) : Option Text :=
  ((Running.begin serde session.start file).1.serveAll serde session.happenings).intent.file

/-- The file after some runs; before the first there was none. -/
def fileAfter (sessions : List (Session Text)) : Option Text :=
  sessions.foldl (Session.leaves serde) none

def Start.accepts (start : Start) (endpoint : Option EndpointId) (now : Orchestrator) : Bool :=
  start.available && endpoint.isNone && now.connect.isOk

/-- What the person asked for: an accepted connect, and a disconnect whatever its answer. -/
def Happening.asked (start : Start) : Happening Text → Option Remembered
  | .connect profile endpoint now _ =>
    if start.accepts endpoint now then some (.on (profile.map Named.id)) else none
  | .disconnect _ _ => some .off
  | .retry _ => none

/-- What of it passed the strict gate. -/
def Happening.heeded (start : Start) : Happening Text → Option Remembered
  | .disconnect _ _ => if start.refuseWhileUnsafe.isOk then some .off else none
  | happening => happening.asked start

/-- The operation of the file that comes of it, if one does. -/
def Happening.operation (start : Start) (happening : Happening Text) : Option (Fate Text) :=
  match happening with
  | .connect _ _ _ fate | .disconnect _ fate => (happening.heeded start).map fun _ => fate
  | .retry _ => none

namespace Session

def asked (session : Session Text) : List Remembered :=
  session.happenings.filterMap (Happening.asked session.start)

def heeded (session : Session Text) : List Remembered :=
  session.happenings.filterMap (Happening.heeded session.start)

def Succeeded (session : Session Text) : Prop :=
  ∀ happening ∈ session.happenings, ∀ fate, happening.operation session.start = some fate →
    fate = .done

end Session

def lastAsked (sessions : List (Session Text)) : Remembered :=
  (sessions.flatMap Session.asked).getLastD .off

/-- The last that passed the gate in some runs. -/
def lastHeeded (sessions : List (Session Text)) : Remembered :=
  (sessions.flatMap Session.heeded).getLastD .off

def lastConnect (sessions : List (Session Text)) : Option (Option ProfileId) :=
  ((sessions.flatMap Session.asked).filterMap Remembered.attempt).getLast?

/-- When the person says off, it stays off. -/
structure StaysOff (sessions : List (Session Text)) : Prop where
  /-- In one run every attempt of its own names the profile of the last accepted connect, and there
  is none where a disconnect came after it. -/
  inRun : ∀ earlier session later before happening after profile,
    sessions = earlier ++ session :: later → session.happenings = before ++ happening :: after →
    ((Running.begin serde session.start (fileAfter serde earlier)).1.serveAll serde before).attempt
      serde happening = some profile →
    ∀ last, (before.filterMap (Happening.asked session.start)).getLast? = some last →
      last = .on profile
  untouched : ∀ earlier session later before happening after profile,
    sessions = earlier ++ session :: later → session.happenings = before ++ happening :: after →
    ((Running.begin serde session.start (fileAfter serde earlier)).1.serveAll serde before).attempt
      serde happening = some profile →
    (∀ session ∈ earlier, session.Succeeded) →
    before.filterMap (Happening.asked session.start) = [] → lastConnect earlier = some profile
  /-- A start that can connect, after runs that kept the file, resumes what was last asked for. -/
  resumed : ∀ earlier session later, sessions = earlier ++ session :: later →
    session.start.available = true → (∀ session ∈ earlier, session.Succeeded) →
    (Running.begin serde session.start (fileAfter serde earlier)).2 = (lastAsked earlier).attempt

/-- Whenever a start can connect, after runs that kept the file, the last disconnect the person asked
for had passed the gate, and the file can be read unless it was left off. -/
def OffHeeded (sessions : List (Session Text)) : Prop :=
  ∀ earlier session later, sessions = earlier ++ session :: later →
    session.start.available = true → (∀ session ∈ earlier, session.Succeeded) →
    if session.start.readable then lastHeeded earlier = lastAsked earlier
    else lastAsked earlier = .off

theorem Remembered.attempt_inj {left right : Remembered} :
    left.attempt = right.attempt ↔ left = right := by
  cases left <;> cases right <;> simp [Remembered.attempt]

theorem getLastD_append {Value : Type} (first second : List Value) (start : Value) :
    (first ++ second).getLastD start = second.getLastD (first.getLastD start) := by
  induction first generalizing start with
  | nil => rfl
  | cons _ _ ih => simp only [List.cons_append, List.getLastD_cons, ih]

theorem getLastD_filterMap_cons {Value Result : Type} (f : Value → Option Result) (head : Value)
    (tail : List Value) (start : Result) :
    ((head :: tail).filterMap f).getLastD start =
      (tail.filterMap f).getLastD ((f head).getD start) := by
  cases found : f head with
  | none => rw [List.filterMap_cons_none found, Option.getD_none]
  | some => rw [List.filterMap_cons_some found, List.getLastD_cons, Option.getD_some]

theorem open_of_available {start : Start} (available : start.available = true) :
    start.refuseWhileUnsafe = .ok () := by
  simp only [Start.available] at available
  rw [Start.refuseWhileUnsafe]
  split at available
  · cases available
  next recovered =>
    rw [Bool.and_eq_true, Option.isNone_iff_eq_none] at available
    simp only [available.1]

theorem heeded_of_available {start : Start} (available : start.available = true)
    (happening : Happening Text) : happening.heeded start = happening.asked start := by
  cases happening with
  | disconnect =>
    simp [Happening.heeded, Happening.asked, open_of_available available,
      Except.toBool]
  | connect | retry => rfl

theorem heeded_connect (start : Start) (profile : Option Named) (endpoint : Option EndpointId)
    (now : Orchestrator) (fate : Fate Text) :
    (Happening.connect profile endpoint now fate).heeded start =
      if start.accepts endpoint now then some (.on (profile.map Named.id)) else none := rfl

section Steps

variable (running : Running Text)

theorem connect_eq (profile : Option ProfileId) (endpoint : Option EndpointId) (now : Orchestrator)
    (fate : Fate Text) :
    if running.start.accepts endpoint now then
      running.connect serde profile endpoint now fate =
        (.ok acceptedReply, running.remember serde profile fate)
    else
      (running.connect serde profile endpoint now fate).1.isOk = false ∧
        (running.connect serde profile endpoint now fate).2 = running := by
  rw [Running.connect, Running.orchestrator, Start.accepts]
  cases available : running.start.available with
  | false =>
    cases running.start.refuseWhileUnsafe <;> simp [Except.toBool]
  | true =>
    rw [open_of_available available]
    cases endpoint with
    | some => simp [Except.toBool]
    | none => cases taken : now.connect <;> simp [taken, Except.toBool]

variable {serde}

theorem disconnect_eq (now : Orchestrator) (fate : Fate Text) :
    (running.disconnect now fate).2 =
      if running.start.refuseWhileUnsafe.isOk then running.forget fate else running := by
  rw [Running.disconnect]
  cases running.start.refuseWhileUnsafe with
  | error => rfl
  | ok =>
    dsimp only
    split
    · rfl
    · split <;> rfl

theorem retry_start (now : Orchestrator) :
    (running.retryIfLeftOn serde now).2.1 =
      { running with intent := (running.intent.load serde running.start.readable).2 } := by
  rw [Running.retryIfLeftOn]
  split
  · rfl
  · split
    · rfl
    · split
      · rfl
      · split <;> rfl

/-- What the file holds where `remembered` was put into it. -/
def recordOf (serde : SerdeJson Text) : Remembered → Option Text
  | .off => none
  | .on profile => some (serde.toText (encode profile))

theorem load_file (readable : Bool) (intent : Intent Text) :
    (intent.load serde readable).2.file = intent.file := by
  rw [Intent.load]
  split <;> rfl

theorem load_wish {readable : Bool} {intent : Intent Text} {remembered : Remembered}
    (wished : intent.wish = some remembered) :
    intent.load serde readable = (remembered, intent) := by
  rw [Intent.load, wished]

theorem serve_start (happening : Happening Text) :
    (running.serve serde happening).start = running.start := by
  cases happening with
  | connect profile endpoint now fate =>
    have answered := connect_eq serde running (profile.map Named.id) endpoint now fate
    rw [Running.serve]
    split at answered
    · rw [answered]
      rfl
    · rw [answered.2]
  | disconnect =>
    rw [Running.serve, disconnect_eq]
    split <;> rfl
  | retry => rw [Running.serve, retry_start]

variable {running : Running Text} {happening : Happening Text}

variable {wish : Remembered} {sessions : List (Session Text)} {profile : Option ProfileId}

theorem serve_wish (wished : running.intent.wish = some wish) (happening : Happening Text) :
    (running.serve serde happening).intent.wish =
      some ((happening.heeded running.start).getD wish) := by
  cases happening with
  | connect profile endpoint now fate =>
    have answered := connect_eq serde running (profile.map Named.id) endpoint now fate
    rw [Running.serve, heeded_connect]
    split at answered
    next accepted =>
      rw [answered, if_pos accepted]
      rfl
    next refused =>
      rw [answered.2, if_neg refused]
      exact wished
  | disconnect =>
    rw [Running.serve, disconnect_eq, Happening.heeded]
    split
    · rfl
    · exact wished
  | retry =>
    rw [Running.serve, retry_start, load_wish wished]
    exact wished

theorem serve_file {left : Remembered} (kept : running.intent.file = recordOf serde left)
    (done : ∀ fate, happening.operation running.start = some fate → fate = .done) :
    (running.serve serde happening).intent.file =
      recordOf serde ((happening.heeded running.start).getD left) := by
  cases happening with
  | connect profile endpoint now fate =>
    have answered := connect_eq serde running (profile.map Named.id) endpoint now fate
    rw [Running.serve]
    split at answered
    next accepted =>
      have heeded : (Happening.connect profile endpoint now fate).heeded running.start =
          some (.on (profile.map Named.id)) := if_pos accepted
      have wrote : fate = .done := done fate (by rw [Happening.operation, heeded]; rfl)
      rw [answered, heeded, wrote]
      rfl
    next refused =>
      rw [answered.2, heeded_connect, if_neg refused]
      exact kept
  | disconnect _ fate =>
    rw [Running.serve, disconnect_eq, Happening.heeded]
    split
    next passed =>
      have removed : fate = .done :=
        done fate (by rw [Happening.operation, Happening.heeded, if_pos passed]; rfl)
      rw [removed]
      rfl
    · exact kept
  | retry =>
    rw [Running.serve, retry_start, load_file]
    exact kept

theorem serveAll_wish (serde : SerdeJson Text) (wished : running.intent.wish = some wish)
    (happenings : List (Happening Text)) :
    (running.serveAll serde happenings).start = running.start ∧
      (running.serveAll serde happenings).intent.wish =
        some ((happenings.filterMap (Happening.heeded running.start)).getLastD wish) := by
  induction happenings generalizing running wish with
  | nil => exact ⟨rfl, wished⟩
  | cons happening _ ih =>
    have first : (running.serve serde happening).intent.wish = _ := serve_wish wished happening
    have next := ih first
    rw [serve_start] at next
    rw [getLastD_filterMap_cons]
    exact next

theorem serveAll_file {left : Remembered} (kept : running.intent.file = recordOf serde left)
    {happenings : List (Happening Text)} (done : ∀ happening ∈ happenings, ∀ fate,
      happening.operation running.start = some fate → fate = .done) :
    (running.serveAll serde happenings).intent.file =
      recordOf serde ((happenings.filterMap (Happening.heeded running.start)).getLastD left) := by
  induction happenings generalizing running left with
  | nil => exact kept
  | cons happening _ ih =>
    have first := serve_file kept (done happening List.mem_cons_self)
    have next := ih first (by
      rw [serve_start]
      intro other member
      exact done other (List.mem_cons_of_mem _ member))
    rw [serve_start] at next
    rw [getLastD_filterMap_cons]
    exact next

theorem begin_eq (start : Start) (file : Option Text) :
    Running.begin serde start file =
      (⟨start, ⟨file, some (Intent.readFile serde start.readable ⟨file, none⟩)⟩⟩,
        if start.available then (Intent.readFile serde start.readable ⟨file, none⟩).attempt
        else none) := by
  rw [Running.begin, Running.resumeIfLeftOn, Intent.load]
  dsimp only
  split
  next off => simp [off, Remembered.attempt]
  next profile left =>
    rw [left]
    split <;> rfl

theorem fileAfter_eq (succeeded : ∀ session ∈ sessions, session.Succeeded) :
    fileAfter serde sessions = recordOf serde (lastHeeded sessions) := by
  induction sessions using List.reverseRecOn with
  | nil => rfl
  | append_singleton _ session ih =>
    have before := ih fun other member => succeeded other (List.mem_append_left _ member)
    have last := succeeded session (List.mem_append_right _ List.mem_cons_self)
    rw [fileAfter, List.foldl_append, List.foldl_cons, lastHeeded,
      List.flatMap_append, getLastD_append, List.flatMap_singleton]
    rw [Session.leaves, begin_eq]
    exact serveAll_file before last

theorem lastHeeded_named (sessions : List (Session Text)) :
    lastHeeded sessions = .off ∨
      ∃ profile : Option Named, lastHeeded sessions = .on (profile.map Named.id) := by
  have listed : lastHeeded sessions ∈ .off :: sessions.flatMap Session.heeded :=
    List.getLastD_mem_cons ..
  rcases List.mem_cons.mp listed with off | heeded
  · exact .inl off
  · obtain ⟨session, _, heeded⟩ := List.mem_flatMap.mp heeded
    obtain ⟨happening, _, heeded⟩ := List.mem_filterMap.mp heeded
    cases happening with
    | connect profile =>
      obtain ⟨_, heeded⟩ := Option.ite_none_right_eq_some.mp heeded
      exact .inr ⟨profile, (Option.some.inj heeded).symm⟩
    | disconnect =>
      obtain ⟨_, heeded⟩ := Option.ite_none_right_eq_some.mp heeded
      exact .inl (Option.some.inj heeded).symm
    | retry => cases heeded

theorem readFile_fileAfter (succeeded : ∀ session ∈ sessions, session.Succeeded) (readable : Bool) :
    Intent.readFile serde readable ⟨fileAfter serde sessions, none⟩ =
      if readable then lastHeeded sessions else .off := by
  rw [Intent.readFile, fileAfter_eq succeeded]
  rcases lastHeeded_named sessions with off | ⟨profile, on⟩
  · rw [off]
    rfl
  · rw [on]
    simp only [recordOf, decode_encode, Option.getD_some]

theorem begin_resumes {earlier : List (Session Text)} {start : Start}
    (available : start.available = true) (succeeded : ∀ session ∈ earlier, session.Succeeded) :
    (Running.begin serde start (fileAfter serde earlier)).2 =
      (if start.readable then lastHeeded earlier else .off).attempt := by
  rw [begin_eq, readFile_fileAfter succeeded, if_pos available]

theorem attempt_names (wished : running.intent.wish = some wish)
    (attempted : running.attempt serde happening = some profile) :
    running.start.available = true ∧ wish = .on profile := by
  cases happening with
  | connect | disconnect => cases attempted
  | retry =>
    rw [Running.attempt, Running.retryIfLeftOn, load_wish wished, Running.orchestrator] at attempted
    cases wish with
    | off => cases attempted
    | on =>
      cases available : running.start.available with
      | false => simp [available] at attempted
      | true =>
        rw [available, if_pos rfl] at attempted
        dsimp only at attempted
        split at attempted
        · cases attempted
        · split at attempted
          · exact ⟨rfl, congrArg Remembered.on (Option.some.inj attempted)⟩
          · exact ⟨rfl, congrArg Remembered.on (Option.some.inj attempted)⟩

theorem attempt_follows {start : Start} {file : Option Text} {before : List (Happening Text)}
    (attempted : ((Running.begin serde start file).1.serveAll serde before).attempt serde happening =
      some profile) :
    (before.filterMap (Happening.asked start)).getLastD
      (Intent.readFile serde start.readable ⟨file, none⟩) = .on profile := by
  rw [begin_eq] at attempted
  have wished : (Running.mk start ⟨file, some (Intent.readFile serde start.readable
      ⟨file, none⟩)⟩).intent.wish = some (Intent.readFile serde start.readable ⟨file, none⟩) := rfl
  have ran := serveAll_wish serde wished before
  obtain ⟨available, named⟩ := attempt_names ran.2 attempted
  rw [ran.1] at available
  rw [← named]
  congr 1
  apply List.filterMap_congr
  intro other _
  exact (heeded_of_available available other).symm

end Steps

theorem attempt_asked (start : Start) (happening : Happening Text) :
    (happening.asked start).bind Remembered.attempt =
      (happening.heeded start).bind Remembered.attempt := by
  cases happening with
  | connect | retry => rfl
  | disconnect =>
    rw [Happening.heeded]
    split <;> rfl

theorem attempts_asked (sessions : List (Session Text)) :
    (sessions.flatMap Session.asked).filterMap Remembered.attempt =
      (sessions.flatMap Session.heeded).filterMap Remembered.attempt := by
  induction sessions with
  | nil => rfl
  | cons _ _ ih =>
    simp only [List.flatMap_cons, List.filterMap_append, ih, Session.asked, Session.heeded,
      List.filterMap_filterMap, attempt_asked]

theorem lastConnect_of_lastHeeded {sessions : List (Session Text)} {profile : Option ProfileId}
    (left : lastHeeded sessions = .on profile) : lastConnect sessions = some profile := by
  rw [lastHeeded, List.getLastD_eq_getLast?] at left
  rw [lastConnect, attempts_asked]
  cases found : (sessions.flatMap Session.heeded).getLast? with
  | none => simp [found] at left
  | some =>
    rw [found, Option.getD_some] at left
    obtain ⟨older, listed⟩ := List.getLast?_eq_some_iff.mp found
    rw [listed, left]
    simp [Remembered.attempt]

theorem stays_off_iff (sessions : List (Session Text)) :
    StaysOff serde sessions ↔ OffHeeded sessions := by
  constructor
  · intro stays earlier session later listed available succeeded
    have resumed := stays.resumed earlier session later listed available succeeded
    rw [begin_resumes available succeeded, Remembered.attempt_inj] at resumed
    split
    next readable => rwa [if_pos readable] at resumed
    next unreadable =>
      rw [if_neg unreadable] at resumed
      exact resumed.symm
  · intro heeded
    refine ⟨?_, ?_, ?_⟩
    · intro earlier session later before happening after profile _ _ attempted last asked
      have named := attempt_follows attempted
      rwa [List.getLastD_eq_getLast?, asked, Option.getD_some] at named
    · intro earlier session later before happening after profile _ _ attempted succeeded nothing
      have named := attempt_follows attempted
      rw [nothing, readFile_fileAfter succeeded] at named
      split at named
      · exact lastConnect_of_lastHeeded named
      · cases named
    · intro earlier session later listed available succeeded
      have condition := heeded earlier session later listed available succeeded
      rw [begin_resumes available succeeded]
      split at condition
      next readable => rw [if_pos readable, condition]
      next unreadable => rw [if_neg unreadable, condition]

/-- The person connects; the service starts again and cannot undo what the run before did, and
refuses the disconnect; it starts once more, and can. -/
def refusedOff : List (Session Json) :=
  [⟨⟨.ok (), none, true, true⟩, [.connect none none ⟨.ok (), .ok (), true, false⟩ .done]⟩,
    ⟨⟨.error "the routes could not be restored", none, true, true⟩,
      [.disconnect ⟨.ok (), .ok (), true, false⟩ .done]⟩,
    ⟨⟨.ok (), none, true, true⟩, []⟩]

theorem refused_off_resumes : ¬ StaysOff SerdeJson.trees refusedOff := by
  intro stays
  have resumed := stays.resumed (refusedOff.take 2) ⟨⟨.ok (), none, true, true⟩, []⟩ [] rfl rfl (by
    intro session member happening present fate operated
    simp only [refusedOff, List.take_succ_cons, List.take_zero, List.mem_cons, List.not_mem_nil,
      or_false] at member
    rcases member with rfl | rfl
    · cases List.mem_singleton.mp present
      exact (Option.some.inj operated).symm
    · cases List.mem_singleton.mp present
      cases operated)
  exact absurd resumed (by decide +kernel)

end Histories

end DnetEngine.LeftOn
