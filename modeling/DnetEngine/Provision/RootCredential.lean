import DnetEngine.Provision.Passage

/-! What a job does with the account owner's credential once it knows that it is one. -/

namespace DnetEngine.Provision

open Lib Mortal

/-- The inspection shows the account owner's credential. -/
def Call.showsRoot : Call → Bool
  | .inspectCredential (.ok inspection) => decide (inspection.subject = .root)
  | _ => false

/-- Nothing is called, or one thing that is not an inspection. -/
def Calls (world after : World) : Prop :=
  after.calls = world.calls ∨
    ∃ call, call.isInspection = false ∧ after.calls = world.calls ++ [call]

section Calling

variable {Secret Value Result : Type}

/-- The program calls nothing that breaks what is kept. -/
def Keeps (kept : World → Prop) (program : Job Secret Value) : Prop :=
  Safe kept program (fun _ => kept) (fun _ => True)

variable {kept : World → Prop}

theorem Keeps.bind {first : Job Secret Value} {rest : Value → Job Secret Result}
    (keeps : Keeps kept first) (after : ∀ value, Keeps kept (rest value)) :
    Keeps kept (first >>= rest) :=
  Safe.bind keeps after

theorem keeps_pure (value : Value) :
    Keeps kept (pure value : Job Secret Value) :=
  safe_pure fun _ before => before

theorem keeps_look (view : World → Value) :
    Keeps kept (look view : Job Secret Value) :=
  safe_look fun _ before => before

theorem keeps_orStillThere (done : Except LedgerError CleanupReport) :
    Keeps kept (orStillThere done : Job Secret CleanupReport) := by
  cases done with
  | ok => exact keeps_pure _
  | error => exact keeps_look _

-- What holds of the calls and goes on holding when something else than an inspection is called.
variable {kept : World → Prop} (goesOn : ∀ world after, kept world → Calls world after → kept after)

include goesOn

theorem keeps_deed {effect : Fate Secret → World → Value × World}
    (calls : ∀ fate world, Calls world (effect fate world).2) : Keeps kept (deed effect) :=
  safe_act (fun _ _ => trivial) fun fate world before => goesOn world _ before (calls fate world)

theorem keeps_emit (event : Progress) : Keeps kept (emit event : Job Secret Unit) :=
  safe_change fun world before => goesOn world _ before (.inl rfl)

theorem keeps_record (event : Event) :
    Keeps kept (record event : Job Secret (Except LedgerError Unit)) := by
  apply keeps_deed goesOn
  intro fate world
  cases check world.entries event with
  | error => exact .inl rfl
  | ok => cases fate.written <;> exact .inl rfl

theorem keeps_find (kind : ResourceKind) (token region : String) :
    Keeps kept (find kind token region : Job Secret (Except ProviderError (Option String))) := by
  apply keeps_deed goesOn
  intro fate world
  refine .inr ⟨.find kind token region, rfl, ?_⟩
  split
  · rfl
  · split <;> rfl

theorem keeps_delete (kind : ResourceKind) (id region : String) :
    Keeps kept (delete kind id region : Job Secret (Except ProviderError DeleteOutcome)) := by
  apply keeps_deed goesOn
  intro fate world
  refine .inr ⟨.delete kind id region, rfl, ?_⟩
  split
  · rfl
  · split <;> rfl

variable (account : Account)

theorem keeps_deleteEntry (entry : LedgerEntry) (id : String) :
    Keeps kept (deleteEntry account entry id : Job Secret (Except String Unit)) := by
  refine (keeps_delete goesOn _ _ _).bind fun answer => ?_
  cases answer <;> exact keeps_pure _

theorem keeps_removeOne (entry : LedgerEntry) :
    Keeps kept (removeOne account entry : Job Secret (Except String Unit)) := by
  unfold removeOne
  cases entry.providerId with
  | some id => exact keeps_deleteEntry goesOn account entry id
  | none =>
    refine (keeps_find goesOn _ _ _).bind fun answer => ?_
    cases answer with
    | error => exact keeps_pure _
    | ok found =>
      cases found with
      | none => exact keeps_pure _
      | some id => exact keeps_deleteEntry goesOn account entry id

theorem keeps_removeEach (entries : List LedgerEntry) (left : List Unremovable) :
    Keeps kept (removeEach account entries left :
      Job Secret (Except LedgerError (List Unremovable))) := by
  induction entries generalizing left with
  | nil => exact keeps_pure _
  | cons entry _ ih =>
    refine (keeps_removeOne goesOn account entry).bind fun removed => ?_
    cases removed with
    | error => exact ih _
    | ok _ =>
      refine (keeps_record goesOn _).bind fun recorded => ?_
      cases recorded with
      | error => exact keeps_pure _
      | ok _ => exact ih _

theorem keeps_cleanup : Keeps kept (cleanup account : Job Secret (Except LedgerError CleanupReport)) := by
  refine (keeps_look _).bind fun entries => ?_
  refine (keeps_removeEach goesOn account _ _).bind fun removed => ?_
  cases removed with
  | error => exact keeps_pure _
  | ok => exact (keeps_look _).bind fun after => keeps_pure _

theorem keeps_cleanUp : Keeps kept (cleanUp account : Job Secret CleanupReport) := by
  refine (keeps_look _).bind fun entries => ?_
  split
  · refine (keeps_emit goesOn _).bind fun _ => ?_
    refine (keeps_cleanup goesOn account).bind fun done => ?_
    refine (keeps_orStillThere done).bind fun report => ?_
    exact (keeps_emit goesOn _).bind fun _ => keeps_pure _
  · exact keeps_pure _

end Calling

section Root

variable {Setup Secret Credentials Value : Type}

/-- No inspection showed the account owner's credential. -/
def NoRoot (world : World) : Prop := ∀ call ∈ world.calls, call.showsRoot = false

/-- The account was used for more than an inspection. -/
def Used (world : World) : Prop := ∃ call ∈ world.calls, call.isInspection = false

theorem noRoot_goesOn (world after : World) (holds : NoRoot world) (calls : Calls world after) :
    NoRoot after := by
  rcases calls with same | ⟨call, other, added⟩
  · intro call member
    rw [same] at member
    exact holds call member
  · intro made member
    rw [added] at member
    rcases List.mem_append.mp member with before | new
    · exact holds made before
    · rw [List.mem_singleton.mp new]
      cases call with
      | inspectCredential => cases other
      | _ => rfl

theorem used_goesOn (world after : World) (holds : Used world) (calls : Calls world after) :
    Used after := by
  obtain ⟨used, member, other⟩ := holds
  rcases calls with same | ⟨call, _, added⟩
  · exact ⟨used, same ▸ member, other⟩
  · exact ⟨used, added ▸ List.mem_append_left _ member, other⟩

theorem used_after {world : World} (calls : List Call) (call : Call)
    (other : call.isInspection = false) (added : world.calls = calls ++ [call]) : Used world :=
  ⟨call, by rw [added]; exact List.mem_append_right _ List.mem_cons_self, other⟩

variable (account : Account)

theorem deleteEntry_uses (entry : LedgerEntry) (id : String) :
    Safe (fun _ => True) (deleteEntry account entry id : Job Secret (Except String Unit))
      (fun _ => Used) (fun _ => True) := by
  have deletes : Safe (fun _ => True)
      (delete entry.kind id entry.region : Job Secret (Except ProviderError DeleteOutcome))
      (fun _ => Used) (fun _ => True) := by
    apply safe_act (fun _ _ => trivial)
    intro fate world _
    apply used_after world.calls (.delete entry.kind id entry.region) rfl
    dsimp only
    split
    · rfl
    · split <;> rfl
  refine deletes.bind fun answer => ?_
  cases answer <;> exact keeps_pure _

theorem removeOne_uses (entry : LedgerEntry) :
    Safe (fun _ => True) (removeOne account entry : Job Secret (Except String Unit))
      (fun _ => Used) (fun _ => True) := by
  unfold removeOne
  cases entry.providerId with
  | some id => exact deleteEntry_uses account entry id
  | none =>
    have finds : Safe (fun _ => True) (find entry.kind entry.token entry.region :
        Job Secret (Except ProviderError (Option String))) (fun _ => Used) (fun _ => True) := by
      apply safe_act (fun _ _ => trivial)
      intro fate world _
      apply used_after world.calls (.find entry.kind entry.token entry.region) rfl
      dsimp only
      split
      · rfl
      · split <;> rfl
    refine finds.bind fun answer => ?_
    cases answer with
    | error => exact keeps_pure _
    | ok found =>
      cases found with
      | none => exact keeps_pure _
      | some id => exact keeps_deleteEntry used_goesOn account entry id

theorem cleanUp_uses (entries : Entries) (left : entries.any isOutstanding = true) :
    Safe (fun world => world.entries = entries) (cleanUp account : Job Secret CleanupReport)
      (fun _ => Used) (fun _ => True) := by
  have seen : Safe (fun world => world.entries = entries)
      (look World.entries : Job Secret Entries)
      (fun value world => value = entries ∧ world.entries = entries) (fun _ => True) :=
    safe_look fun world same => ⟨same, same⟩
  have cleans : Safe (fun world => world.entries = entries)
      (cleanup account : Job Secret (Except LedgerError CleanupReport)) (fun _ => Used)
      (fun _ => True) := by
    refine seen.bind fun value => safe_from fun start holds => ?_
    obtain ⟨rfl, _⟩ := holds
    obtain ⟨entry, member, outstanding⟩ := List.any_eq_true.mp left
    have inside : entry ∈ value.reverse.filter isOutstanding :=
      List.mem_filter.mpr ⟨List.mem_reverse.mpr member, outstanding⟩
    cases todo : value.reverse.filter isOutstanding with
    | nil =>
      rw [todo] at inside
      cases inside
    | cons first rest =>
      have removes : Safe (fun _ => True) (removeEach account (first :: rest) [] :
          Job Secret (Except LedgerError (List Unremovable))) (fun _ => Used) (fun _ => True) := by
        refine (removeOne_uses account first).bind fun removed => ?_
        cases removed with
        | error => exact keeps_removeEach used_goesOn account _ _
        | ok _ =>
          refine Safe.bind (keeps_record used_goesOn _) fun recorded => ?_
          cases recorded with
          | error => exact keeps_pure _
          | ok _ => exact keeps_removeEach used_goesOn account _ _
      refine Safe.bind (removes.given fun _ _ => trivial) fun removed => ?_
      cases removed with
      | error => exact keeps_pure _
      | ok => exact Safe.bind (keeps_look _) fun after => keeps_pure _
  refine seen.bind fun value => safe_from fun start holds => ?_
  obtain ⟨rfl, same⟩ := holds
  rw [if_pos left]
  have announced : Safe (fun world => world = start) (emit .cleanupStarted : Job Secret Unit)
      (fun _ world => world.entries = value) (fun _ => True) := by
    apply safe_change
    intro world isStart
    rw [isStart]
    exact same
  refine announced.bind fun _ => ?_
  refine cleans.bind fun done => ?_
  refine Safe.bind (keeps_orStillThere done) fun report => ?_
  exact Safe.bind (keeps_emit used_goesOn _) fun _ => keeps_pure _

theorem cleanUp_idle (start : World) (nothing : start.entries.any isOutstanding = false) :
    Safe (fun world => world = start) (cleanUp account : Job Secret CleanupReport)
      (fun _ world => world = start) (fun _ => True) := by
  have seen : Safe (fun world => world = start) (look World.entries : Job Secret Entries)
      (fun value world => value = start.entries ∧ world = start) (fun _ => True) := by
    apply safe_look
    rintro world rfl
    exact ⟨rfl, rfl⟩
  refine seen.bind fun value => safe_from fun world holds => ?_
  obtain ⟨rfl, rfl⟩ := holds
  rw [if_neg (by simp [nothing])]
  exact keeps_pure _

/-- If the credential is shown to be the account owner's, it is used for nothing else, unless
something is left to remove. -/
def Verdict (entries : Entries) (world : World) : Prop :=
  (∃ call ∈ world.calls, call.showsRoot = true) →
    ((∀ call ∈ world.calls, call.isInspection = true) ↔ ∀ entry ∈ entries, entry.state = .removed)

theorem verdict_of_noRoot {entries : Entries} {world : World} (noRoot : NoRoot world) :
    Verdict entries world := by
  rintro ⟨call, member, shown⟩
  rw [noRoot call member] at shown
  cases shown

theorem outstanding_none {entries : Entries} :
    entries.any isOutstanding = false ↔ ∀ entry ∈ entries, entry.state = .removed := by
  simp [isOutstanding]

/-- Once the inspection has shown the account owner's credential, the job ends with a cleanup. -/
theorem stop_verdict (ends : CleanupReport → Outcome Credentials) (start : World)
    (succeeded : Value → World → Prop)
    (inspections : ∀ call ∈ start.calls, call.isInspection = true) :
    Safe (fun world => world = start) (stop account ends : Step Secret Credentials Value).run
      (Either succeeded (fun _ => Verdict start.entries)) (fun _ => True) := by
  cases left : start.entries.any isOutstanding with
  | false =>
    refine (cleanUp_idle account start left).bind fun report => safe_pure ?_
    rintro world rfl _
    exact iff_of_true inspections (outstanding_none.mp left)
  | true =>
    have uses : Safe (fun world => world = start) (cleanUp account : Job Secret CleanupReport)
        (fun _ => Used) (fun _ => True) :=
      (cleanUp_uses account start.entries left).given fun world isStart => by rw [isStart]
    refine uses.bind fun report => safe_pure ?_
    rintro world ⟨call, member, other⟩ _
    apply iff_of_false
    · intro all
      rw [all call member] at other
      cases other
    · intro all
      rw [outstanding_none.mpr all] at left
      cases left

theorem validate_root {inspection : Inspection} (root : inspection.subject = .root)
    (required : List String) : ∃ problem, validate inspection required = .error problem := by
  unfold validate
  cases inspection.standing with
  | valid => exact ⟨.rootCredential, if_pos root⟩
  | invalid => exact ⟨.invalid, rfl⟩
  | expired => exact ⟨.expired, rfl⟩
  | revoked => exact ⟨.revoked, rfl⟩

theorem stop_noRoot (ends : CleanupReport → Outcome Credentials) (entries : Entries)
    (succeeded : Value → World → Prop) :
    Safe NoRoot (stop account ends : Step Secret Credentials Value).run
      (Either succeeded (fun _ => Verdict entries)) (fun _ => True) :=
  Safe.bind (keeps_cleanUp noRoot_goesOn account) fun _ =>
    safe_pure fun _ holds => verdict_of_noRoot holds

variable (Secret Credentials) in
theorem noRoot_passage (entries : Entries) :
    Passage Secret account NoRoot (fun (_ : Outcome Credentials) => Verdict entries) (fun _ => True) where
  survives := fun _ _ => trivial
  still := fun world holds => noRoot_goesOn world _ holds (.inl rfl)
  called := fun world call other holds => noRoot_goesOn world _ holds (.inr ⟨call, other, rfl⟩)
  emitted := fun world _ holds => noRoot_goesOn world _ holds (.inl rfl)
  cancels := (keeps_cleanUp noRoot_goesOn account).mono fun _ _ => verdict_of_noRoot
  fails := fun _ _ => (keeps_cleanUp noRoot_goesOn account).mono fun _ _ => verdict_of_noRoot

section Creating

variable (account : Account) (params : JobParams Setup) (entries : Entries)

theorem makeInstance_noRoot : Passes NoRoot (fun _ => Verdict entries) (fun _ => True)
    (makeInstance account params : Step Secret Credentials InstanceInfo) := by
  have passage := noRoot_passage Secret Credentials account entries
  refine (passage.begin _).bind fun _ => ?_
  refine (passes_lift (keeps_record noRoot_goesOn _)).bind fun intended => ?_
  refine (passage.orFailWith _ _ _).bind fun _ => ?_
  refine (passes_lift (keeps_deed noRoot_goesOn fun _ _ => .inr ⟨_, rfl, rfl⟩)).bind fun answer => ?_
  have made : Passes NoRoot (fun _ => Verdict entries) (fun _ => True)
      (instanceMade account answer : Step Secret Credentials InstanceInfo) :=
    (passage.instanceMade answer).given fun _ holds => by cases answer <;> exact holds
  refine made.bind fun machine => ?_
  refine (passes_lift (keeps_record noRoot_goesOn _)).bind fun noted => ?_
  refine (passage.orFailWith _ _ _).bind fun _ => ?_
  exact (passage.tell _).bind fun _ => passes_pure _

theorem configureNetwork_noRoot : Passes NoRoot (fun _ => Verdict entries) (fun _ => True)
    (configureNetwork account params : Step Secret Credentials NetworkInfo) := by
  have passage := noRoot_passage Secret Credentials account entries
  refine (passage.begin _).bind fun _ => ?_
  refine (passes_lift (keeps_record noRoot_goesOn _)).bind fun intended => ?_
  refine (passage.orFailWith _ _ _).bind fun _ => ?_
  refine (passes_lift (keeps_deed noRoot_goesOn fun _ _ => .inr ⟨_, rfl, rfl⟩)).bind fun answer => ?_
  refine (passage.orFailWith _ _ _).bind fun rules => ?_
  refine (passes_lift (keeps_record noRoot_goesOn _)).bind fun noted => ?_
  refine (passage.orFailWith _ _ _).bind fun _ => ?_
  exact (passage.tell _).bind fun _ => passes_pure _

end Creating

/-- Nothing has been asked of the provider. -/
def Unasked (entries : Entries) (world : World) : Prop := world.entries = entries ∧ world.calls = []

theorem Unasked.noRoot {entries : Entries} {world : World} (unasked : Unasked entries world) :
    NoRoot world := by
  intro call member
  rw [unasked.2] at member
  cases member

theorem begin_verdict (account : Account) (stage : Stage) (entries : Entries) :
    Safe (Unasked entries) (begin account stage : Step Secret Credentials Unit).run
      (Either (fun _ => Unasked entries) (fun _ => Verdict entries)) (fun _ => True) := by
  have looks : Safe (Unasked entries) (deed fun fate world => (fate.cancelled, world) : Job Secret Bool)
      (fun _ => Unasked entries) (fun _ => True) :=
    safe_act (fun _ _ => trivial) fun _ _ unasked => unasked
  refine Safe.attempt (safe_lift looks) fun cancelled => ?_
  split
  · exact (stop_noRoot account _ entries _).given fun _ unasked => unasked.noRoot
  · exact safe_lift (safe_change fun _ unasked => unasked)

/-- The one inspection of the run. -/
def Inspected (entries : Entries) (answer : Except ProviderError Inspection) (world : World) : Prop :=
  world.entries = entries ∧ world.calls = [.inspectCredential answer]

theorem Inspected.noRoot {entries : Entries} {answer : Except ProviderError Inspection} {world : World}
    (inspected : Inspected entries answer world)
    (other : Call.showsRoot (.inspectCredential answer) = false) : NoRoot world := by
  intro call member
  rw [inspected.2, List.mem_singleton] at member
  rw [member]
  exact other

variable (account : Account)

theorem inspected_verdict (entries : Entries) (answer : Except ProviderError Inspection) :
    Safe (Inspected entries answer) (inspected account answer : Step Secret Credentials Inspection).run
      (Either (fun inspection => Inspected entries (.ok inspection)) (fun _ => Verdict entries))
      (fun _ => True) := by
  unfold inspected
  split
  · exact safe_return fun _ holds => holds
  · exact (stop_noRoot account _ entries _).given fun _ holds => holds.noRoot rfl
  · exact (stop_noRoot account _ entries _).given fun _ holds => holds.noRoot rfl

theorem validated_verdict (entries : Entries) (inspection : Inspection) :
    Safe (Inspected entries (.ok inspection))
      (orFailWith account .credentialValidation .credential
        (validate inspection account.requiredPermissions) :
        Step Secret Credentials (List String)).run
      (Either (fun _ => NoRoot) (fun _ => Verdict entries)) (fun _ => True) := by
  by_cases root : inspection.subject = .root
  · obtain ⟨problem, refused⟩ := validate_root root account.requiredPermissions
    rw [refused]
    apply safe_from
    rintro start ⟨rfl, calls⟩
    apply stop_verdict account _ start
    intro call member
    rw [calls, List.mem_singleton] at member
    rw [member]
    rfl
  · have other : Call.showsRoot (.inspectCredential (.ok inspection)) = false := by
      simp [Call.showsRoot, root]
    cases validate inspection account.requiredPermissions with
    | error => exact (stop_noRoot account _ entries _).given fun _ holds => holds.noRoot other
    | ok => exact safe_return fun _ holds => holds.noRoot other

theorem validateCredential_verdict (params : JobParams Setup) (entries : Entries) :
    Safe (Unasked entries) (validateCredential account params : Step Secret Credentials Unit).run
      (Either (fun _ => NoRoot) (fun _ => Verdict entries)) (fun _ => True) := by
  refine (begin_verdict account _ entries).attempt fun _ => ?_
  have asks : Safe (Unasked entries)
      (ask (fun fate => .inspectCredential fate.inspection) Fate.inspection :
        Job Secret (Except ProviderError Inspection)) (Inspected entries) (fun _ => True) := by
    apply safe_act (fun _ _ => trivial)
    rintro fate world ⟨same, none_⟩
    exact ⟨same, congrArg (· ++ [Call.inspectCredential fate.inspection]) none_⟩
  refine Safe.attempt (safe_lift asks) fun answer => ?_
  refine (inspected_verdict account entries answer).attempt fun inspection => ?_
  refine (validated_verdict account entries inspection).attempt fun extra => ?_
  have passage := noRoot_passage Secret Credentials account entries
  refine (passage.acknowledge params extra fun _ => verdict_of_noRoot).attempt fun _ => ?_
  exact passage.tell _

variable (kit : Kit Setup Secret Credentials) (params : JobParams Setup)

theorem stages_verdict (entries : Entries) :
    Safe (Unasked entries) (stages account kit params).run
      (Either (fun _ => NoRoot) (fun _ => Verdict entries)) (fun _ => True) := by
  have checks : Safe (Unasked entries) (orFailWith account .credentialValidation .invalidRequest
      (checkParams params) : Step Secret Credentials Unit).run
      (Either (fun _ => Unasked entries) (fun _ => Verdict entries)) (fun _ => True) := by
    cases checkParams params with
    | error =>
      exact (stop_noRoot account _ entries _).given fun _ unasked => unasked.noRoot
    | ok _ => exact safe_return fun _ unasked => unasked
  refine checks.attempt fun _ => ?_
  refine (validateCredential_verdict account params entries).attempt fun _ => ?_
  have passage := noRoot_passage Secret Credentials account entries
  refine (passage.checkCapacity params fun _ _ => verdict_of_noRoot).attempt fun _ => ?_
  exact passes_creating passage kit params (makeInstance_noRoot account params entries)
    (configureNetwork_noRoot account params entries)

theorem run_verdict (entries : Entries) :
    Safe (Unasked entries) (run account kit params) (fun _ => Verdict entries) (fun _ => True) := by
  refine (stages_verdict account kit params entries).bind fun result => ?_
  cases result with
  | error => exact keeps_pure _
  | ok => exact safe_pure fun _ holds => verdict_of_noRoot holds

end Root

section Concrete

/-- A provider, and the owner's credential for it. -/
def ownerAccount : Account := ⟨"cloud", ["manage instances"], id⟩

def anyKit : Kit Unit Unit Unit := ⟨fun _ _ _ _ => .ok "", fun _ _ _ _ _ => .ok (), fun _ => none, fun _ => ""⟩

def smallJob : JobParams Unit := ⟨"job", "home", "small", "mine", ⟨1, 2, 3⟩, false, ()⟩

def ownerFate : Fate Unit := { inspection := .ok ⟨.root, .valid, []⟩ }

end Concrete

end DnetEngine.Provision
