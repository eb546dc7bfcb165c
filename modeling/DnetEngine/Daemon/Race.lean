import DnetEngine.Config.SecretStore
import DnetEngine.Core.EngineTried
import DnetEngine.Core.Stored
import DnetEngine.Feed.Document
import DnetEngine.Probe.RaceWith

/-! Which endpoints and profiles the engine is given, how a race of its profiles is carried out, and
whether what it then reports blocked was tried. -/

namespace DnetEngine.RealEffects

open Lib Engine Feed RaceWith

section Plan

def kindName : ProfileKind → String
  | .amneziaWg => "AmneziaWG"
  | .hysteria2 => "Hysteria 2"
  | .vlessReality => "VLESS+REALITY"

def serverPort : ProfileKind → EndpointCredentials → Option (BitVec 16)
  | .amneziaWg, credentials => credentials.amneziawg.map (·.serverPort)
  | .hysteria2, credentials => credentials.hysteria2.map (·.serverPort)
  | .vlessReality, credentials => credentials.reality.map (·.serverPort)

def originPort : BitVec 16 := 8080

def sessionMeasurementOrigin : Origin :=
  ⟨sessionOriginHost, originPort, by decide +kernel, by decide +kernel, by decide⟩

/-- Where the probes and live checks of a profile fetch from. -/
def originFor (kind : ProfileKind) (credentials : EndpointCredentials) : Option Origin :=
  if kind ≠ .amneziaWg ∧ credentials.session.isSome then some sessionMeasurementOrigin
  else credentials.measureOrigin

def raceOrigin (credentials : EndpointCredentials) : Option Origin := originFor .hysteria2 credentials

/-- The store as it reads: the credentials under a key, or the text of an error. -/
abbrev Secrets := SecretKey → Except String (Option EndpointCredentials)

def hostProblem (endpoint : StoredEndpoint) : Option String :=
  match parseIpAddr endpoint.address.host.toList with
  | some (.v4 _) => none
  | some (.v6 _) => some ("endpoint '" ++ endpoint.label ++
      "' is an IPv6 address, which is not supported yet; use an IPv4 address")
  | none => some ("endpoint '" ++ endpoint.label ++
      "' is a host name; connecting by name is not supported yet because " ++
      "the name would have to be resolved before the tunnel exists. Use its IP address")

/-- Why an endpoint cannot be used at all, if it cannot. -/
def endpointProblem (secrets : Secrets) (endpoint : StoredEndpoint) : Option String :=
  match SecretKey.parse endpoint.credentials with
  | .error _ => some ("endpoint '" ++ endpoint.label ++
      "' refers to its credentials in a form that is not valid")
  | .ok key =>
    match secrets key with
    | .error error => some ("endpoint '" ++ endpoint.label ++
        "': its credentials could not be read (" ++ error ++ ")")
    | .ok none => some ("endpoint '" ++ endpoint.label ++
        "' has no credentials stored; import or provision them")
    | .ok (some credentials) =>
      if credentials.measureOrigin.isNone then
        some ("endpoint '" ++ endpoint.label ++ "' has no measurement origin; without one a " ++
          "connection cannot be tested, and this project provides none to fall back on")
      else hostProblem endpoint

def storedCredentials (secrets : Secrets) (endpoint : StoredEndpoint) :
    Except String EndpointCredentials := do
  let key ← SecretKey.parse endpoint.credentials
  let found ← secrets key
  orError ("endpoint '" ++ endpoint.label ++ "' has no credentials stored") found

/-- The kinds of profile an endpoint can be used with, or why it cannot be used at all. -/
def endpointKinds (secrets : Secrets) (endpoint : StoredEndpoint) :
    Except String (List ProfileKind) :=
  match endpointProblem secrets endpoint with
  | some problem => .error problem
  | none =>
    match storedCredentials secrets endpoint with
    | .error _ => .ok []
    | .ok credentials => .ok ([.amneziaWg, .hysteria2, .vlessReality].filter fun kind =>
      (serverPort kind credentials).isSome)

/-- The endpoints a connection can use, why each of the others cannot, and the kinds served. -/
structure Assessment where
  usable : List StoredEndpoint := []
  problems : List String := []
  served : List ProfileKind := []

def Assessment.add (secrets : Secrets) (assessed : Assessment) (endpoint : StoredEndpoint) :
    Assessment :=
  match endpointKinds secrets endpoint with
  | .error problem => { assessed with problems := assessed.problems ++ [problem] }
  | .ok kinds =>
    { assessed with
      usable := assessed.usable ++ [endpoint]
      served := kinds.foldl (fun served kind =>
        if served.contains kind then served else served ++ [kind]) assessed.served }

def assessEndpoints (secrets : Secrets) (endpoints : List StoredEndpoint) : Assessment :=
  endpoints.foldl (Assessment.add secrets) {}

/-- The profiles worth offering the engine: all of them where nothing is served. -/
def servedProfiles (profiles : List StoredProfile) (served : List ProfileKind) :
    List StoredProfile :=
  if served.isEmpty then profiles else profiles.filter fun profile => served.contains profile.kind

def dialled (endpoint : StoredEndpoint) (profile : StoredProfile) (credentials : EndpointCredentials) :
    Except String (Ipv4Addr × BitVec 16) :=
  match serverPort profile.kind credentials with
  | none => .error ("endpoint '" ++ endpoint.label ++ "' has no credentials for the " ++
      kindName profile.kind ++ " profile; add them or choose another profile")
  | some port =>
    match parseIpAddr endpoint.address.host.toList with
    | some (.v4 ip) =>
      if port = 0 then .error "the endpoint address is not valid" else .ok (ip, port)
    | some (.v6 _) => .error ("endpoint '" ++ endpoint.label ++
        "' is an IPv6 address, which is not supported yet; use an IPv4 address")
    | none => .error ("endpoint '" ++ endpoint.label ++
        "' is a host name; connecting by name is not supported yet because the " ++
        "name would have to be resolved before the tunnel exists. Use its IP address")

structure ProbeJob where
  profile : StoredProfile
  socksPort : BitVec 16

/-- The configuration of a probe, as the generator makes or refuses it. -/
abbrev Generator := ClientDefinitions → StoredProfile → Ipv4Addr × BitVec 16 →
  EndpointCredentials → (socksPort : BitVec 16) → Except String Unit

def probeJob (generate : Generator) (client : ClientDefinitions) (profile : StoredProfile)
    (endpoint : StoredEndpoint) (credentials : EndpointCredentials) (socksPort : BitVec 16) :
    Except String ProbeJob := do
  let address ← dialled endpoint profile credentials
  if profile.kind.proxyProbeable then
    let _ ← (generate client profile address credentials socksPort).mapError fun error =>
      "the connection could not be tested: " ++ error
    return ⟨profile, socksPort⟩
  else .error ("the " ++ kindName profile.kind ++ " profile cannot be tested through a proxy")

end Plan

section Race

structure Report where
  decision : RaceDecision
  results : List (ProfileId × ProfileProbe)
  probed : List ProfileId
  deriving DecidableEq

def nothingUsable : Report := ⟨.noneUsable, [], []⟩

/-- `Prober::race`: every job has a profile and a port of its own, or nothing is run. -/
def proberRace (jobs : List ProbeJob) (looks : List Look) : Option Report :=
  let ids := jobs.map fun job => job.profile.id
  if ids.Nodup ∧ (jobs.map ProbeJob.socksPort).Nodup then
    (raceWith ids (.start (jobs.map fun job => job.profile.toConnectionProfile)) [] looks).map
      fun ended => ⟨ended.1, ended.2.map fun report => (report.id, report.probe), ids⟩
  else some nothingUsable

/-- What happens outside of the program while a race is carried out. -/
structure Conduct where
  /-- The store could be read. -/
  stored : Except String Unit
  /-- The free local ports. -/
  ports : Except String (List (BitVec 16))
  client : ClientDefinitions
  looks : List Look

/-- The store is read, and there is a port for each of `count` profiles. -/
def Conduct.Clean (conduct : Conduct) (count : Nat) : Prop :=
  conduct.stored = .ok () ∧
    ∃ ports, conduct.ports = .ok ports ∧ ports.length = count ∧ ports.Nodup

/-- What the service was built from. No endpoint has been probed yet. -/
structure Installation where
  profiles : List StoredProfile
  endpoints : List StoredEndpoint
  secrets : Secrets
  profilesApart : (profiles.map fun profile => profile.id).Nodup
  endpointsApart : (endpoints.map fun endpoint => endpoint.id).Nodup
  unprobed : ∀ endpoint ∈ endpoints, endpoint.health = {}

namespace Installation

variable (inst : Installation)

def usable : List StoredEndpoint := (assessEndpoints inst.secrets inst.endpoints).usable

def offered : List StoredProfile :=
  servedProfiles inst.profiles (assessEndpoints inst.secrets inst.endpoints).served

def engine : Engine :=
  Engine.new (inst.offered.map StoredProfile.toConnectionProfile)
    (inst.usable.map StoredEndpoint.toEndpoint)

def serves (profile : StoredProfile) (endpoint : StoredEndpoint) : Bool :=
  match storedCredentials inst.secrets endpoint with
  | .error _ => false
  | .ok credentials => (serverPort profile.kind credentials).isSome

def chosen (profiles : List ProfileId) : List StoredProfile :=
  profiles.filterMap fun id => inst.offered.find? fun profile => profile.id == id

def credentials (conduct : Conduct) (id : EndpointId) :
    Except String (StoredEndpoint × EndpointCredentials) := do
  let endpoint ← orError "the endpoint is not one that can be used"
    (inst.usable.find? fun endpoint => endpoint.id == id)
  let _ ← conduct.stored
  let credentials ← storedCredentials inst.secrets endpoint
  return (endpoint, credentials)

def jobs (generate : Generator) (conduct : Conduct) (endpoint : StoredEndpoint)
    (credentials : EndpointCredentials) (chosen : List StoredProfile) (ports : List (BitVec 16)) :
    List ProbeJob :=
  (chosen.zip ports).filterMap fun pair =>
    (probeJob generate conduct.client pair.1 endpoint credentials pair.2).toOption

def race (generate : Generator) (conduct : Conduct) (profiles : List ProfileId)
    (id : EndpointId) : Option Report :=
  match inst.credentials conduct id with
  | .error _ => some nothingUsable
  | .ok (endpoint, credentials) =>
    match raceOrigin credentials with
    | none => some nothingUsable
    | some _ =>
      match conduct.ports with
      | .error _ => some nothingUsable
      | .ok ports => proberRace
          (jobs generate conduct endpoint credentials (inst.chosen profiles) ports) conduct.looks

end Installation

end Race

section Property

variable (inst : Installation) (generate : Generator)

/-- Where nothing can go wrong outside of the program, races are carried out cleanly. -/
def Allowed (faults : Bool) (conduct : Conduct) (profiles : List ProfileId) : Prop :=
  faults = true ∨ conduct.Clean (inst.chosen profiles).length

/-- Every race result that the engine is told is of the race it asked for last. -/
def CarriedOut (faults : Bool) : History → Prop
  | [] => True
  | taken :: older =>
    (∀ decision results, taken.label.input = .raceFinished decision results →
      ∃ profiles endpoint conduct report, (replay older).race = some (profiles, endpoint) ∧
        Allowed inst faults conduct profiles ∧
        inst.race generate conduct profiles endpoint = some report ∧
        decision = report.decision ∧ results = report.results) ∧
      CarriedOut faults older

def ServesNamed (id : ProfileId) (endpoint : EndpointId) : Prop :=
  ∃ profile ∈ inst.offered, profile.id = id ∧
    ∃ known ∈ inst.usable, known.id = endpoint ∧ inst.serves profile known = true

/-- A step reports a profile blocked, or marks it. -/
def Blocks (taken : Taken Engine Observed) (id : ProfileId) : Prop :=
  SaysBlocked taken.label.actions id ∨ (¬ Blocked taken.before id ∧ Blocked taken.after id)

/-- Nothing is reported blocked that was never tried. -/
structure NothingUntried (faults : Bool) : Prop where
  /-- Profiles are tried only on an endpoint whose credentials serve them. -/
  paired : ∀ history e, Run Steps inst.engine history e →
    CarriedOut inst generate faults history → ∀ taken ∈ history, ∀ action ∈ taken.label.actions,
    ∀ tried endpoint, tries action = some tried → goesThrough action = some endpoint →
    ∀ id ∈ tried, ServesNamed inst id endpoint
  probed : ∀ history e, Run Steps inst.engine history e →
    CarriedOut inst generate faults history → ∀ newer taken older,
    history = newer ++ taken :: older → ∀ profiles endpoint,
    (replay older).race = some (profiles, endpoint) → ∀ conduct report,
    Allowed inst faults conduct profiles →
    inst.race generate conduct profiles endpoint = some report →
    taken.label.input = .raceFinished report.decision report.results →
    ∀ id, Blocks taken id → id ∈ report.probed
  /-- No attempt lacks a credential while an enabled endpoint and a profile are left that have it. -/
  attempted : ∀ history e, Run Steps inst.engine history e →
    CarriedOut inst generate faults history → ∀ taken ∈ history, ∀ action ∈ taken.label.actions,
    ∀ tried endpoint, tries action = some tried → goesThrough action = some endpoint →
    (∃ id ∈ tried, ¬ ServesNamed inst id endpoint) →
    ∀ known ∈ inst.usable, known.enabled = true → ∀ profile ∈ inst.offered,
      inst.serves profile known = false

/-- Every enabled endpoint serves every offered profile, and one that is raced can always be: its
probe's configuration is made, and nothing outside of the program fails. -/
def ServesAll (faults : Bool) : Prop :=
  ∀ endpoint ∈ inst.usable, endpoint.enabled = true → ∀ profile ∈ inst.offered,
    inst.serves profile endpoint = true ∧
      (profile.kind.proxyProbeable = true → faults = false ∧
        ∀ credentials, storedCredentials inst.secrets endpoint = .ok credentials →
          ∀ client port, (probeJob generate client profile endpoint credentials port).isOk = true)

end Property

section Facts

variable {inst : Installation} {generate : Generator}

theorem foldl_add_usable (secrets : Secrets) (endpoints : List StoredEndpoint)
    (assessed : Assessment) :
    (endpoints.foldl (Assessment.add secrets) assessed).usable =
      assessed.usable ++ endpoints.filter fun endpoint => (endpointKinds secrets endpoint).isOk := by
  induction endpoints generalizing assessed with
  | nil => simp
  | cons endpoint _ ih =>
    rw [List.foldl_cons, ih, Assessment.add]
    cases found : endpointKinds secrets endpoint with
    | error | ok => simp [found, Except.toBool]

variable {endpoint : StoredEndpoint} {report : Report} {conduct : Conduct}
  {profiles : List ProfileId} {credentials : EndpointCredentials}

theorem mem_usable :
    endpoint ∈ inst.usable ↔
      endpoint ∈ inst.endpoints ∧ (endpointKinds inst.secrets endpoint).isOk = true := by
  rw [Installation.usable, assessEndpoints, foldl_add_usable, List.nil_append, List.mem_filter]

theorem usable_sublist (inst : Installation) : inst.usable.Sublist inst.endpoints := by
  rw [Installation.usable, assessEndpoints, foldl_add_usable]
  exact List.filter_sublist

theorem offered_sublist (inst : Installation) : inst.offered.Sublist inst.profiles := by
  rw [Installation.offered, servedProfiles]
  split
  · exact List.Sublist.refl _
  · exact List.filter_sublist

theorem usable_apart (inst : Installation) :
    (inst.usable.map fun endpoint => endpoint.id).Nodup :=
  inst.endpointsApart.sublist ((usable_sublist inst).map _)

theorem offered_apart (inst : Installation) :
    (inst.offered.map fun profile => profile.id).Nodup :=
  inst.profilesApart.sublist ((offered_sublist inst).map _)

theorem usable_credentials (usable : endpoint ∈ inst.usable) :
    ∃ credentials, storedCredentials inst.secrets endpoint = .ok credentials ∧
      (raceOrigin credentials).isSome = true := by
  have fine := (mem_usable.mp usable).2
  rw [endpointKinds] at fine
  cases problem : endpointProblem inst.secrets endpoint with
  | some => simp [problem, Except.toBool] at fine
  | none =>
    rw [endpointProblem] at problem
    rw [storedCredentials]
    split at problem
    · cases problem
    next key parsed =>
      split at problem
      · cases problem
      · cases problem
      next credentials found =>
        split at problem
        · cases problem
        next origin =>
          refine ⟨credentials, by rw [parsed]; simp [found, bind, Except.bind], ?_⟩
          rw [raceOrigin, originFor]
          split
          · rfl
          · exact Option.isSome_iff_ne_none.mpr (by simpa using origin)

theorem raceWith_results {ids : List ProfileId} {race : ProbeRace}
    {results : List ProbeRace.Report} {looks : List Look}
    {ended : RaceDecision × List ProbeRace.Report} (before : ∀ result ∈ results, result.id ∈ ids)
    (ends : raceWith ids race results looks = some ended) :
    ∀ result ∈ ended.2, result.id ∈ ids := by
  induction looks generalizing race results with
  | nil => cases ends
  | cons look _ ih =>
    have heard : ∀ result ∈ results ++ look.heard ids, result.id ∈ ids := by
      intro result member
      rcases List.mem_append.mp member with old | new
      · exact before result old
      · exact List.contains_iff_mem.mp (List.mem_filter.mp new).2
    rw [raceWith] at ends
    split at ends
    · exact ih heard ends
    · cases ends
      exact heard

theorem proberRace_results {jobs : List ProbeJob} {looks : List Look}
    (ended : proberRace jobs looks = some report) :
    ∀ result ∈ report.results, result.1 ∈ report.probed := by
  rw [proberRace] at ended
  split at ended
  · obtain ⟨raced, found, rfl⟩ := Option.map_eq_some_iff.mp ended
    intro result member
    obtain ⟨report, inside, rfl⟩ := List.mem_map.mp member
    exact raceWith_results (by simp) found report inside
  · cases ended
    simp [nothingUsable]

theorem race_results {id : EndpointId}
    (ended : inst.race generate conduct profiles id = some report) :
    ∀ result ∈ report.results, result.1 ∈ report.probed := by
  rw [Installation.race] at ended
  split at ended
  · cases ended
    simp [nothingUsable]
  · split at ended
    · cases ended
      simp [nothingUsable]
    · split at ended
      · cases ended
        simp [nothingUsable]
      · exact proberRace_results ended

theorem probeJob_ok {client : ClientDefinitions} {profile : StoredProfile} {port : BitVec 16}
    {job : ProbeJob} (made : probeJob generate client profile endpoint credentials port = .ok job) :
    job = ⟨profile, port⟩ := by
  obtain ⟨address, _, rest⟩ := bind_ok.mp made
  obtain ⟨_, rest⟩ := required_ok.mp rest
  obtain ⟨_, _, done⟩ := bind_ok.mp rest
  cases done
  rfl

theorem chosen_ids (known : ∀ id ∈ profiles, ∃ profile ∈ inst.offered, profile.id = id) :
    (inst.chosen profiles).map (fun profile => profile.id) = profiles := by
  induction profiles with
  | nil => rfl
  | cons id _ ih =>
    obtain ⟨profile, offered, rfl⟩ := known id List.mem_cons_self
    have found := find?_key (fun profile : StoredProfile => profile.id) inst.offered profile
      (offered_apart inst) offered
    have later := ih fun other member => known other (List.mem_cons_of_mem _ member)
    rw [Installation.chosen] at later ⊢
    rw [List.filterMap_cons, found]
    exact congrArg (List.cons profile.id) later

theorem jobs_all {chosen : List StoredProfile} {ports : List (BitVec 16)}
    (room : ports.length = chosen.length) (made : ∀ profile ∈ chosen, ∀ port,
      (probeJob generate conduct.client profile endpoint credentials port).isOk = true) :
    (Installation.jobs generate conduct endpoint credentials chosen ports).map ProbeJob.profile =
        chosen ∧
      (Installation.jobs generate conduct endpoint credentials chosen ports).map ProbeJob.socksPort =
        ports := by
  induction chosen generalizing ports with
  | nil =>
    cases List.length_eq_zero_iff.mp room
    exact ⟨rfl, rfl⟩
  | cons profile _ ih =>
    cases ports with
    | nil => cases room
    | cons port =>
      have later := ih (Nat.succ.inj room) fun other member =>
        made other (List.mem_cons_of_mem _ member)
      have first := made profile List.mem_cons_self port
      cases job : probeJob generate conduct.client profile endpoint credentials port with
      | error => rw [job] at first; cases first
      | ok done =>
        have same : done = ⟨profile, port⟩ := probeJob_ok job
        rw [Installation.jobs] at later ⊢
        rw [List.zip_cons_cons, List.filterMap_cons_some (by rw [job]; rfl), List.map_cons,
          List.map_cons, later.1, later.2, same]
        exact ⟨rfl, rfl⟩

theorem race_eq (usable : endpoint ∈ inst.usable)
    (stored : storedCredentials inst.secrets endpoint = .ok credentials)
    (read : conduct.stored = .ok ()) {ports : List (BitVec 16)} (free : conduct.ports = .ok ports) :
    inst.race generate conduct profiles endpoint.id =
      proberRace (Installation.jobs generate conduct endpoint credentials (inst.chosen profiles) ports)
        conduct.looks := by
  obtain ⟨other, again, origin⟩ := usable_credentials usable
  cases stored.symm.trans again
  obtain ⟨from_, origin⟩ := Option.isSome_iff_exists.mp origin
  have found := find?_key (fun endpoint : StoredEndpoint => endpoint.id) inst.usable endpoint
    (usable_apart inst) usable
  have known : inst.credentials conduct endpoint.id = .ok (endpoint, credentials) := by
    rw [Installation.credentials, found, read]
    simp [stored, bind, Except.bind, pure, Except.pure]
  simp only [Installation.race, known, origin, free]

theorem race_probed (usable : endpoint ∈ inst.usable)
    (stored : storedCredentials inst.secrets endpoint = .ok credentials)
    (known : ∀ id ∈ profiles, ∃ profile ∈ inst.offered, profile.id = id) (once : profiles.Nodup)
    (clean : conduct.Clean (inst.chosen profiles).length)
    (made : ∀ profile ∈ inst.chosen profiles, ∀ port,
      (probeJob generate conduct.client profile endpoint credentials port).isOk = true)
    (ended : inst.race generate conduct profiles endpoint.id = some report) :
    report.probed = profiles := by
  obtain ⟨read, ports, free, room, apart⟩ := clean
  obtain ⟨jobsOf, portsOf⟩ := jobs_all room made
  have ids : ((Installation.jobs generate conduct endpoint credentials (inst.chosen profiles)
      ports).map fun job => job.profile.id) = profiles := by
    calc
      _ = ((Installation.jobs generate conduct endpoint credentials (inst.chosen profiles)
          ports).map ProbeJob.profile).map fun profile => profile.id := by
        rw [List.map_map]
        rfl
      _ = (inst.chosen profiles).map fun profile => profile.id := by rw [jobsOf]
      _ = profiles := chosen_ids known
  rw [race_eq usable stored read free, proberRace, ids, portsOf] at ended
  rw [if_pos ⟨once, apart⟩] at ended
  obtain ⟨raced, _, rfl⟩ := Option.map_eq_some_iff.mp ended
  rfl

variable {id : ProfileId} {faults : Bool} {taken : Taken Engine Observed} {endpoint : EndpointId}

theorem offered_of_kinds {kind : ProfileKind}
    (listed : (id, kind) ∈ (inst.offered.map StoredProfile.toConnectionProfile).map
      fun q => (q.id, q.kind)) :
    ∃ profile ∈ inst.offered, profile.id = id ∧ profile.kind = kind := by
  rw [List.map_map] at listed
  obtain ⟨profile, member, same⟩ := List.mem_map.mp listed
  exact ⟨profile, member, congrArg Prod.fst same, congrArg Prod.snd same⟩

theorem engine_profiles_apart (inst : Installation) :
    ((inst.offered.map StoredProfile.toConnectionProfile).map ConnectionProfile.id).Nodup := by
  rw [List.map_map]
  exact offered_apart inst

theorem engine_endpoints_apart (inst : Installation) :
    ((inst.usable.map StoredEndpoint.toEndpoint).map Endpoint.id).Nodup := by
  rw [List.map_map]
  exact usable_apart inst

theorem enabled_of_engine {id : EndpointId}
    (found : ∃ x ∈ inst.usable.map StoredEndpoint.toEndpoint, x.id = id ∧ x.enabled = true) :
    ∃ endpoint ∈ inst.usable, endpoint.id = id ∧ endpoint.enabled = true := by
  obtain ⟨x, member, named, enabled⟩ := found
  obtain ⟨endpoint, usable, rfl⟩ := List.mem_map.mp member
  exact ⟨endpoint, usable, named, enabled⟩

/-- Where every enabled endpoint serves all that is offered, so does the one something is tried on. -/
theorem paired_of_servesAll (serving : ServesAll inst generate faults) {history : History}
    {e : Engine} (run : Run Steps inst.engine history e) (member : taken ∈ history)
    {action : Action} (acted : action ∈ taken.label.actions) {tried : List ProfileId}
    (trying : tries action = some tried) (through : goesThrough action = some endpoint)
    (named : id ∈ tried) : ServesNamed inst id endpoint := by
  obtain ⟨known, reached⟩ :=
    run_tries (engine_profiles_apart inst) (engine_endpoints_apart inst) run member acted
  obtain ⟨kind, listed⟩ := known tried trying id named
  obtain ⟨profile, offered, same, _⟩ := offered_of_kinds listed
  obtain ⟨other, usable, chosen, enabled⟩ := enabled_of_engine (reached endpoint through)
  exact ⟨profile, offered, same, other, usable, chosen, (serving other usable enabled profile offered).1⟩

theorem race_asked {older : History} {before : Engine} (run : Run Steps inst.engine older before)
    (outstanding : (replay older).race = some (profiles, endpoint)) :
    profiles = before.raced ∧ profiles.Nodup ∧
      (∀ id ∈ profiles, ∃ profile ∈ inst.offered, profile.id = id ∧
        profile.kind.proxyProbeable = true) ∧
      ∃ known ∈ inst.usable, known.id = endpoint ∧ known.enabled = true := by
  have agrees := (run_disciplined run).2
  have racing : before.phase.racing = true := by
    by_contra quiet
    have nothing := agrees.2
    rw [if_neg quiet, outstanding] at nothing
    cases nothing
  obtain ⟨other, ghost⟩ := agrees.racing racing
  rw [ghost] at outstanding
  cases outstanding
  obtain ⟨taken, member, asked⟩ := replay_race (by rw [ghost])
  obtain ⟨_, reached⟩ :=
    run_tries (engine_profiles_apart inst) (engine_endpoints_apart inst) run member asked
  have known := (run_known (engine_profiles_apart inst) run).2
  refine ⟨rfl, known.once racing, ?_, enabled_of_engine (reached _ rfl)⟩
  intro id named
  obtain ⟨kind, listed, probeable⟩ := known.raced racing id named
  obtain ⟨profile, offered, same, isKind⟩ := offered_of_kinds listed
  exact ⟨profile, offered, same, isKind ▸ probeable⟩

theorem probed_of_servesAll (serving : ServesAll inst generate faults) {older : History}
    (run : Run Steps inst.engine older taken.before)
    (step : Steps taken.before taken.label taken.after)
    (outstanding : (replay older).race = some (profiles, endpoint))
    (allowed : Allowed inst faults conduct profiles)
    (ended : inst.race generate conduct profiles endpoint = some report)
    (told : taken.label.input = .raceFinished report.decision report.results)
    (blocks : Blocks taken id) : id ∈ report.probed := by
  have path := steps_path step
  rw [told] at path
  rcases race_blocks (run_known (engine_profiles_apart inst) run).1 path blocks with
    ⟨result, member, named⟩ | ⟨_, raced, _⟩
  · exact named ▸ race_results ended result member
  · obtain ⟨same, once, known, place, usable, rfl, enabled⟩ := race_asked run outstanding
    rw [← same] at raced
    obtain ⟨first, offered, _, probeable⟩ := known id raced
    have clean : conduct.Clean (inst.chosen profiles).length := by
      refine allowed.resolve_left ?_
      rw [((serving place usable enabled first offered).2 probeable).1]
      simp
    obtain ⟨credentials, stored, _⟩ := usable_credentials usable
    have all : report.probed = profiles := by
      refine race_probed usable stored (fun other member => ?_) once clean ?_ ended
      · obtain ⟨profile, offered, named, _⟩ := known other member
        exact ⟨profile, offered, named⟩
      · intro profile member port
        obtain ⟨other, inside, found⟩ := List.mem_filterMap.mp member
        have listed := List.mem_of_find?_eq_some found
        have named : profile.id = other := by simpa using List.find?_some found
        obtain ⟨again, offered, same, probeable⟩ := known other inside
        have one : profile = again :=
          List.inj_on_of_nodup_map (offered_apart inst) listed offered (named.trans same.symm)
        exact ((serving place usable enabled profile listed).2 (one ▸ probeable)).2 credentials stored
          conduct.client port
    rw [all]
    exact raced

theorem nothingUntried_of_servesAll (serving : ServesAll inst generate faults) :
    NothingUntried inst generate faults where
  paired history e run _ taken member action acted tried endpoint trying through id named :=
    paired_of_servesAll serving run member acted trying through named
  probed history e run _ newer taken older split profiles endpoint outstanding conduct report
      allowed ended told id blocks := by
    subst split
    obtain ⟨earlier, step, _⟩ := run_taken run
    exact probed_of_servesAll serving earlier step outstanding allowed ended told blocks
  attempted history e run _ taken member action acted tried endpoint trying through missing := by
    obtain ⟨id, named, unserved⟩ := missing
    exact absurd (paired_of_servesAll serving run member acted trying through named) unserved

end Facts

/-! An enabled endpoint can be made the best, and an offered profile asked for by name. -/

section Reached

variable {inst : Installation} {generate : Generator}

def answered : EndpointHealth :=
  { state := .healthy, lastProbe := some 0, consecutiveGoodQuality := 1, rttEwma := some 0,
    rttvarEwma := some 0 }

theorem answered_endpoints (inst : Installation) (endpoint : StoredEndpoint) :
    (inst.engine.probed endpoint.id answered).endpoints =
      (inst.usable.map StoredEndpoint.toEndpoint).map (fun x =>
        if x.id = endpoint.id then { x with health := answered } else x) :=
  updateFirst_eq_map Endpoint.id _ _ _ (engine_endpoints_apart inst)

variable {endpoint : StoredEndpoint} {profile : StoredProfile}

section

variable (usable : endpoint ∈ inst.usable)

include usable

theorem rank_answered (enabled : endpoint.enabled = true) :
    (rank (inst.engine.probed endpoint.id answered).endpoints).head? = some endpoint.id := by
  have better : ({ endpoint.toEndpoint with health := answered } : Endpoint) ∈
      (inst.engine.probed endpoint.id answered).endpoints := by
    rw [answered_endpoints]
    exact List.mem_map.mpr ⟨endpoint.toEndpoint, List.mem_map_of_mem usable, if_pos rfl⟩
  have candidate : isCandidate { endpoint.toEndpoint with health := answered } = true := by
    simp [isCandidate, enabled, answered]
  cases best : (rank (inst.engine.probed endpoint.id answered).endpoints).head? with
  | none => rw [rank_head_none _ best _ better] at candidate; cases candidate
  | some =>
    obtain ⟨x, member, rfl, lowest⟩ := rank_head_lowest best
    have least := lowest _ better candidate
    rw [answered_endpoints] at member
    obtain ⟨old, listed, rfl⟩ := List.mem_map.mp member
    obtain ⟨stored, known, rfl⟩ := List.mem_map.mp listed
    split at least
    next same => rw [if_pos same, same]
    next other =>
      have unprobed := inst.unprobed stored (mem_usable.mp known).1
      rw [rankKey, rankKey, unprobed, Prod.Lex.toLex_le_toLex] at least
      simp [answered, stateRank] at least

theorem classify_fresh (offered : profile ∈ inst.offered) (requested : Option ProfileId) :
    ((inst.engine.probed endpoint.id answered).forget requested).classify false = none := by
  have some_ : (inst.engine.probed endpoint.id answered).endpoints ≠ [] := by
    rw [answered_endpoints]
    simpa using List.ne_nil_of_mem usable
  obtain ⟨x, others, endpoints⟩ := List.exists_cons_of_ne_nil some_
  obtain ⟨first, rest, listed⟩ := List.exists_cons_of_ne_nil (List.ne_nil_of_mem offered)
  have endpoints : ((inst.engine.probed endpoint.id answered).forget requested).endpoints =
      x :: others := endpoints
  have profiles : ((inst.engine.probed endpoint.id answered).forget requested).profiles =
      (inst.offered.map StoredProfile.toConnectionProfile).map ConnectionProfile.resetViability := rfl
  have environment : ((inst.engine.probed endpoint.id answered).forget requested).environment = {} :=
    rfl
  rw [Engine.classify, profiles, environment, endpoints, listed]
  simp [DnetEngine.classify, ConnectionProfile.resetViability, Viability.isBlocked]

theorem probe_steps :
    Steps inst.engine ⟨.endpointProbe endpoint.id (.ok 0 false), 0, []⟩
      (inst.engine.probed endpoint.id answered) := by
  have found : inst.engine.endpoints.find? (fun x => x.id == endpoint.id) =
      some endpoint.toEndpoint :=
    find?_key Endpoint.id _ endpoint.toEndpoint (engine_endpoints_apart inst)
      (List.mem_map_of_mem usable)
  have unprobed := inst.unprobed endpoint (mem_usable.mp usable).1
  rw [Steps, Engine.step, endpointProbe, found]
  dsimp only
  rw [unprobed]
  rfl

def asked (inst : Installation) (endpoint : StoredEndpoint) (profile : StoredProfile) : Engine :=
  { (inst.engine.probed endpoint.id answered).forget (some profile.id) with
    endpoint := some endpoint.id }

theorem connect_steps (enabled : endpoint.enabled = true) (offered : profile ∈ inst.offered) :
    (inst.engine.probed endpoint.id answered).step (.connect (some profile.id)) 0 =
      .ok (if (asked inst endpoint profile).isProbeable profile.id then
          (asked inst endpoint profile).startRace [profile.id] endpoint.id .probing
        else (asked inst endpoint profile).startTunnel profile.id endpoint.id
          ("you asked for " ++ profile.id.name ++
            " by name; it cannot be tested ahead of time, so it is started directly")) := by
  have known : ((inst.engine.probed endpoint.id answered).forget (some profile.id)).profiles.any
      (fun p => p.id == profile.id) = true := by
    refine List.any_eq_true.mpr ⟨profile.toConnectionProfile.resetViability, ?_, ?_⟩
    · exact List.mem_map_of_mem (List.mem_map_of_mem offered)
    · exact beq_self_eq_true _
  have best : (rank ((inst.engine.probed endpoint.id answered).forget (some profile.id)).endpoints).head? =
      some endpoint.id := rank_answered usable enabled
  rw [Engine.step, Engine.connect]
  simp only [classify_fresh usable offered, known,
    Option.filter_some, best]
  change Except.ok (if (!(asked inst endpoint profile).isProbeable profile.id) = true then
      (asked inst endpoint profile).startTunnel _ _ _
    else (asked inst endpoint profile).startRace _ _ _) = _
  cases (asked inst endpoint profile).isProbeable profile.id <;> rfl

def connectHistory (inst : Installation) (endpoint : StoredEndpoint) (requested : Option ProfileId)
    (outcome : Outcome) : History :=
  [⟨inst.engine.probed endpoint.id answered, ⟨.connect requested, 0, outcome.2⟩, outcome.1⟩,
    ⟨inst.engine, ⟨.endpointProbe endpoint.id (.ok 0 false), 0, []⟩,
      inst.engine.probed endpoint.id answered⟩]

theorem connect_run {requested : Option ProfileId} {outcome : Outcome}
    (connects : (inst.engine.probed endpoint.id answered).step (.connect requested) 0 = .ok outcome)
    :
    Run Steps inst.engine (connectHistory inst endpoint requested outcome) outcome.1 :=
  (Run.start.next (probe_steps usable)).next connects

end

theorem connect_carriedOut (faults : Bool) (endpoint : StoredEndpoint)
    (requested : Option ProfileId) (outcome : Outcome) :
    CarriedOut inst generate faults (connectHistory inst endpoint requested outcome) := by
  simp [connectHistory, CarriedOut]

theorem serves_of_named (offered : profile ∈ inst.offered) (usable : endpoint ∈ inst.usable)
    (named : ServesNamed inst profile.id endpoint.id) : inst.serves profile endpoint = true := by
  obtain ⟨other, listed, same, known, present, equal, serves⟩ := named
  have profiles : other = profile :=
    List.inj_on_of_nodup_map (offered_apart inst) listed offered same
  have endpoints : known = endpoint :=
    List.inj_on_of_nodup_map (usable_apart inst) present usable equal
  rwa [profiles, endpoints] at serves

variable {faults : Bool}

theorem serves_of_nothingUntried (untried : NothingUntried inst generate faults)
    (usable : endpoint ∈ inst.usable) (enabled : endpoint.enabled = true)
    (offered : profile ∈ inst.offered) :
    inst.serves profile endpoint = true := by
  apply serves_of_named offered usable
  have connects := connect_steps usable enabled offered
  have paired := untried.paired _ _ (connect_run usable connects) (connect_carriedOut ..) _
    List.mem_cons_self
  split at paired
  · exact paired (.startRace [profile.id] endpoint.id) (by simp [startRace]) _ _ rfl rfl _
      List.mem_cons_self
  · exact paired (.startTunnel profile.id endpoint.id) (by simp [startTunnel]) _ _ rfl rfl _
      List.mem_cons_self

def racing (inst : Installation) (endpoint : StoredEndpoint) (profile : StoredProfile) : Engine :=
  { asked inst endpoint profile with raced := [profile.id], phase := .probing }

theorem race_lost_steps (inst : Installation) (endpoint : StoredEndpoint) (profile : StoredProfile) :
    ∃ after actions, Steps (racing inst endpoint profile)
        ⟨.raceFinished .noneUsable [], 0, actions⟩ after ∧
      after.profiles = ((racing inst endpoint profile).recordResults .noneUsable [] 0).1.profiles := by
  have answers := raceFinished_answers (racing inst endpoint profile) 0 .noneUsable []
  cases done : (racing inst endpoint profile).raceFinished .noneUsable [] 0 with
  | error =>
    rw [done] at answers
    cases answers with
    | missing _ unused => cases unused
  | ok outcome =>
    rw [done] at answers
    refine ⟨outcome.1, outcome.2, done, ?_⟩
    cases answers with | path path => cases path with
    | ignored ignores =>
      rcases ignores with quiet | pending | stale
      · cases quiet
      · cases pending
      · cases stale
    | told tells =>
      obtain ⟨_, _, connected, _⟩ := tells
      cases connected
    | raceFailed | raceFallback => rfl

theorem racing_blocked {after : Engine} (offered : profile ∈ inst.offered)
    (distinct : Distinct (racing inst endpoint profile)) (recorded : after.profiles =
      ((racing inst endpoint profile).recordResults .noneUsable [] 0).1.profiles) :
    ¬ Blocked (racing inst endpoint profile) profile.id ∧ Blocked after profile.id := by
  constructor
  · rintro ⟨q, member, _, blocked⟩
    obtain ⟨old, _, rfl⟩ := List.mem_map.mp member
    cases blocked
  · have member : profile.toConnectionProfile.resetViability ∈
        (racing inst endpoint profile).profiles :=
      List.mem_map_of_mem (List.mem_map_of_mem offered)
    have consistent : Consistent (racing inst endpoint profile) .noneUsable [] := by
      simp [Consistent]
    rw [recordResults_profiles _ _ _ _ distinct] at recorded
    refine ⟨_, recorded ▸ List.mem_map_of_mem member, ?_, ?_⟩
    · exact (sameProfile_recorded _ _ _ _ _).1
    · exact recorded_noneUsable 0 consistent _ List.mem_cons_self

variable (untried : NothingUntried inst generate faults)

include untried

theorem race_ne_nothingUsable (usable : endpoint ∈ inst.usable) (enabled : endpoint.enabled = true)
    (offered : profile ∈ inst.offered) (probeable : profile.kind.proxyProbeable = true)
    {conduct : Conduct} (allowed : Allowed inst faults conduct [profile.id]) :
    inst.race generate conduct [profile.id] endpoint.id ≠ some nothingUsable := by
  intro ended
  have connects := connect_steps usable enabled offered
  have raced : (asked inst endpoint profile).isProbeable profile.id = true := by
    refine List.any_eq_true.mpr ⟨profile.toConnectionProfile.resetViability, ?_, ?_⟩
    · exact List.mem_map_of_mem (List.mem_map_of_mem offered)
    · rw [Bool.and_eq_true]
      exact ⟨beq_self_eq_true _, probeable⟩
  rw [if_pos raced] at connects
  have run := connect_run usable connects
  obtain ⟨after, actions, lost, recorded⟩ := race_lost_steps inst endpoint profile
  have distinct := (run_known (engine_profiles_apart inst) run).1
  have blocks := racing_blocked offered distinct recorded
  have started : (replay (connectHistory inst endpoint (some profile.id)
      ((asked inst endpoint profile).startRace [profile.id] endpoint.id .probing))).race =
      some ([profile.id], endpoint.id) := rfl
  have carried : CarriedOut inst generate faults
      (⟨racing inst endpoint profile, ⟨.raceFinished .noneUsable [], 0, actions⟩, after⟩ ::
        connectHistory inst endpoint (some profile.id)
          ((asked inst endpoint profile).startRace [profile.id] endpoint.id .probing)) := by
    refine ⟨?_, connect_carriedOut ..⟩
    intro decision results told
    cases told
    exact ⟨_, _, conduct, _, started, allowed, ended, rfl, rfl⟩
  have probed := untried.probed _ _ (run.next lost) carried [] _ _ rfl _ _ started conduct _ allowed
    ended rfl profile.id (.inr blocks)
  cases probed

theorem faultless_of_nothingUntried (usable : endpoint ∈ inst.usable)
    (enabled : endpoint.enabled = true) (offered : profile ∈ inst.offered)
    (probeable : profile.kind.proxyProbeable = true) :
    faults = false := by
  cases faults with
  | false => rfl
  | true =>
    -- The store cannot be read while the race is on.
    have found := find?_key (fun endpoint : StoredEndpoint => endpoint.id) inst.usable endpoint
      (usable_apart inst) usable
    have allowed : Allowed inst true ⟨.error "", .error "", {}, []⟩ [profile.id] := .inl rfl
    refine absurd ?_ (race_ne_nothingUsable untried usable enabled offered probeable allowed)
    simp [Installation.race, Installation.credentials, found, bind, Except.bind]

theorem made_of_nothingUntried (usable : endpoint ∈ inst.usable) (enabled : endpoint.enabled = true)
    (offered : profile ∈ inst.offered) (probeable : profile.kind.proxyProbeable = true)
    {credentials : EndpointCredentials}
    (stored : storedCredentials inst.secrets endpoint = .ok credentials)
    (client : ClientDefinitions) (port : BitVec 16) :
    (probeJob generate client profile endpoint credentials port).isOk = true := by
  cases job : probeJob generate client profile endpoint credentials port with
  | ok => rfl
  | error =>
    -- The profile is left out, and a race of nothing is over at the first look.
    have alone : inst.chosen [profile.id] = [profile] := by
      have found := find?_key (fun profile : StoredProfile => profile.id) inst.offered profile
        (offered_apart inst) offered
      rw [Installation.chosen, List.filterMap_cons, found]
      rfl
    have clean : (Conduct.mk (.ok ()) (.ok [port]) client [⟨[], none, 0⟩]).Clean
        (inst.chosen [profile.id]).length := by
      rw [alone]
      exact ⟨rfl, [port], rfl, rfl, List.nodup_singleton _⟩
    refine absurd ?_ (race_ne_nothingUsable untried usable enabled offered probeable (.inr clean))
    rw [race_eq usable stored rfl rfl]
    simp [alone, Installation.jobs, job, Except.toOption, proberRace, raceWith, taken, Look.heard, ProbeRace.start, ProbeRace.decide, ProbeRace.best, minBy, nothingUsable]

end Reached

/-- An endpoint entered by hand, at an address kept for documentation. -/
def manualEndpoint (id : EndpointId) (key : String) : StoredEndpoint :=
  { id, label := key, origin := .manual, credentials := ⟨key⟩,
    address := ⟨"203.0.113.1", 443, by decide +kernel, by decide⟩ }

/-- Two endpoints: the first has credentials for AmneziaWG only, the second for Hysteria 2. -/
def servedApart : Installation where
  profiles := [.new ⟨"awg-default"⟩ .amneziaWg .empty, .new ⟨"hy2-default"⟩ .hysteria2 .empty]
  endpoints := [manualEndpoint ⟨1⟩ "first", manualEndpoint ⟨2⟩ "second"]
  secrets key := .ok (some (if key.name = "first" then
      { amneziawg := some ⟨⟨"key"⟩, "server", .ofOctets 10 0 0 2, 32, ⟨0, 0, 0, 0, 0, 0, 0, 0, 0⟩, 443⟩
        measureOrigin := some sessionMeasurementOrigin }
    else
      { hysteria2 := some ⟨443, ⟨"auth"⟩, ⟨"obfs"⟩, .salamander, .publicCa "example.net"⟩
        measureOrigin := some sessionMeasurementOrigin }))
  profilesApart := by decide
  endpointsApart := by decide
  unprobed := by decide

end DnetEngine.RealEffects
