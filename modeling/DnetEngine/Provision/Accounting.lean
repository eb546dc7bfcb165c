import DnetEngine.Provision.Passage

/-! Whether what exists at the provider is in the ledger, over any sequence of jobs and cleanups on one
ledger, each of them killed anywhere. -/

namespace DnetEngine.Provision

open Lib Mortal

/-- Everything that exists is in the ledger, in a state other than removed. -/
def Accounted (entries : Entries) (existing : List String) : Prop :=
  ∀ token ∈ existing, Outstanding entries token

/-- A resource was made that the ledger has as removed. -/
def Create.careless (create : Create) : Bool := create.made && decide (create.state = some .removed)

def Careful (world : World) : Prop := ∀ create ∈ world.creates, create.careless = false

/-- What is true of the ledger and the provider after every effect. -/
structure Sound (earlier : List Create) (world : World) : Prop where
  since : ∀ create ∈ earlier, create ∈ world.creates
  distinct : (tokens world.entries).Nodup
  ids : ∀ entry ∈ world.entries, ∀ id, entry.providerId = some id →
    (id, entry.token) ∈ world.answered
  recorded : ∀ token ∈ world.recorded, token ∈ tokens world.entries
  intents : ∀ create ∈ world.creates, create.recorded = true
  accounted : Careful world → Accounted world.entries world.existing ∧
    ∀ moment ∈ world.moments, Accounted moment.1 moment.2
  exposed : ∀ create ∈ world.creates, create.careless = true →
    ∃ moment ∈ world.moments, ¬ Accounted moment.1 moment.2

section Effects

variable {earlier : List Create} {world after : World}

/-- An effect that is no create call. -/
theorem Sound.next (sound : Sound earlier world) (creates : after.creates = world.creates)
    (moments : after.moments = world.moments) (distinct : (tokens after.entries).Nodup)
    (ids : ∀ entry ∈ after.entries, ∀ id, entry.providerId = some id →
      (id, entry.token) ∈ after.answered)
    (recorded : ∀ token ∈ after.recorded, token ∈ tokens after.entries)
    (accounted : Accounted world.entries world.existing → Accounted after.entries after.existing) :
    Sound earlier after.noted where
  since := by
    intro create member
    exact creates ▸ sound.since create member
  distinct := distinct
  ids := ids
  recorded := recorded
  intents := by
    intro create member
    exact sound.intents create (creates ▸ member)
  accounted := by
    intro careful
    have before : Careful world := fun create member => careful create (creates ▸ member)
    obtain ⟨now, past⟩ := sound.accounted before
    refine ⟨accounted now, fun moment member => ?_⟩
    rcases List.mem_append.mp member with old | new
    · exact past moment (moments ▸ old)
    · rw [List.mem_singleton.mp new]
      exact accounted now
  exposed := by
    intro create member careless
    obtain ⟨moment, inside, not⟩ := sound.exposed create (creates ▸ member) careless
    exact ⟨moment, List.mem_append_left _ (moments ▸ inside), not⟩

/-- An effect of which the ledger knows nothing, and that brings nothing into existence. -/
theorem Sound.still (sound : Sound earlier world) (creates : after.creates = world.creates)
    (moments : after.moments = world.moments) (entries : after.entries = world.entries)
    (answered : world.answered ⊆ after.answered) (recorded : after.recorded = world.recorded)
    (existing : after.existing ⊆ world.existing) : Sound earlier after.noted := by
  apply sound.next creates moments
  · rw [entries]
    exact sound.distinct
  · intro entry member id has
    exact answered (sound.ids entry (entries ▸ member) id has)
  · rw [entries, recorded]
    exact sound.recorded
  · intro before token member
    rw [entries]
    exact before token (existing member)

theorem Sound.called (sound : Sound earlier world) (calls : List Call) :
    Sound earlier (World.noted { world with calls }) :=
  sound.still rfl rfl rfl (List.Subset.refl _) rfl (List.Subset.refl _)

/-- What the ledger may be told. -/
def Fits (world : World) : Event → Prop
  | .intent _ _ _ => True
  | .created token id => (id, token) ∈ world.answered
  | .removed token => token ∉ world.existing

variable {entries : Entries}

theorem ids_apply {answered : List (String × String)} (event : Event)
    (distinct : (tokens entries).Nodup)
    (ids : ∀ entry ∈ entries, ∀ id, entry.providerId = some id → (id, entry.token) ∈ answered)
    (fits : ∀ token id, event = .created token id → (id, token) ∈ answered) :
    ∀ entry ∈ apply entries event, ∀ id, entry.providerId = some id →
      (id, entry.token) ∈ answered := by
  intro entry member id has
  cases event with
  | intent =>
    rw [apply] at member
    split at member
    · exact ids entry member id has
    · rcases List.mem_append.mp member with old | new
      · exact ids entry old id has
      · rw [List.mem_singleton.mp new] at has
        cases has
  | created token =>
    rw [apply_created distinct] at member
    obtain ⟨before, present, rfl⟩ := List.mem_map.mp member
    split at has
    next same =>
      split at has
      next gone =>
        rw [if_pos same, if_pos gone]
        exact ids before present id has
      next there =>
        cases has
        rw [if_pos same, if_neg there]
        exact same ▸ fits token _ rfl
    next other =>
      rw [if_neg other]
      exact ids before present id has
  | removed =>
    rw [apply_removed distinct] at member
    obtain ⟨before, present, rfl⟩ := List.mem_map.mp member
    split at has
    next same =>
      rw [if_pos same]
      exact ids before present id has
    next other =>
      rw [if_neg other]
      exact ids before present id has

theorem accounted_apply {existing : List String} (event : Event) (distinct : (tokens entries).Nodup)
    (gone : ∀ token, event = .removed token → token ∉ existing)
    (accounted : Accounted entries existing) : Accounted (apply entries event) existing := by
  intro token member
  have before := accounted token member
  cases event with
  | intent kind other region => exact outstanding_intent before kind other region
  | created other id => exact outstanding_created distinct before other id
  | removed =>
    apply outstanding_removed distinct ?_ before
    rintro rfl
    exact gone token rfl member

theorem Sound.write (sound : Sound earlier world) {event : Event} (fits : Fits world event) :
    Sound earlier (world.write event).noted := by
  refine sound.next rfl rfl (distinct_apply sound.distinct event) ?_ ?_ ?_
  · apply ids_apply event sound.distinct sound.ids
    rintro token id rfl
    exact fits
  · intro token member
    apply mem_tokens_apply.mpr
    cases event with
    | intent kind new region =>
      rcases List.mem_cons.mp member with rfl | old
      · exact .inr ⟨kind, region, rfl⟩
      · exact .inl (sound.recorded token old)
    | created | removed => exact .inl (sound.recorded token member)
  · apply accounted_apply event sound.distinct
    rintro token rfl
    exact fits

theorem stateOf_of_mem (distinct : (tokens entries).Nodup) {entry : LedgerEntry}
    (member : entry ∈ entries) : stateOf entries entry.token = some entry.state := by
  have found : entries.find? (fun other => other.token == entry.token) = some entry := by
    cases search : entries.find? (fun other => other.token == entry.token) with
    | none => simpa using List.find?_eq_none.mp search entry member
    | some other =>
      have same : other.token = entry.token := by simpa using List.find?_some search
      exact congrArg some
        (List.inj_on_of_nodup_map distinct (List.mem_of_find?_eq_some search) member same)
  rw [stateOf, found]
  rfl

theorem outstanding_iff (distinct : (tokens entries).Nodup) {token : String}
    (known : token ∈ tokens entries) :
    Outstanding entries token ↔ stateOf entries token ≠ some .removed := by
  obtain ⟨entry, member, rfl⟩ := List.mem_map.mp known
  rw [stateOf_of_mem distinct member]
  constructor
  · rintro ⟨other, present, same, state⟩ gone
    rw [List.inj_on_of_nodup_map distinct present member same] at state
    exact state (Option.some.inj gone)
  · intro state
    exact ⟨entry, member, rfl, fun gone => state (congrArg some gone)⟩

/-- A create call after the intent was recorded: what it made is accounted for, unless the ledger has
it as removed. -/
theorem Sound.create (sound : Sound earlier world) {token : String} (known : token ∈ world.recorded)
    (call : Call) (makes : Bool) (id : Option String) :
    Sound earlier (world.create call token makes id).noted := by
  have listed := sound.recorded token known
  have outstanding := outstanding_iff sound.distinct listed
  refine ⟨?_, sound.distinct, ?_, sound.recorded, ?_, ?_, ?_⟩
  · intro create member
    exact List.mem_cons_of_mem _ (sound.since create member)
  · intro entry member id has
    exact List.mem_append_right _ (sound.ids entry member id has)
  · intro create member
    rcases List.mem_cons.mp member with rfl | old
    · exact decide_eq_true known
    · exact sound.intents create old
  · intro careful
    have before : Careful world := fun create member => careful create (List.mem_cons_of_mem _ member)
    obtain ⟨now, past⟩ := sound.accounted before
    have whole : Accounted world.entries (world.create call token makes id).existing := by
      have fresh := careful _ List.mem_cons_self
      cases makes with
      | false => exact now
      | true =>
        intro other member
        rcases List.mem_cons.mp member with rfl | old
        · apply outstanding.mpr
          intro gone
          rw [gone] at fresh
          cases fresh
        · exact now other old
    refine ⟨whole, fun moment member => ?_⟩
    rcases List.mem_append.mp member with old | new
    · exact past moment old
    · rw [List.mem_singleton.mp new]
      exact whole
  · intro create member careless
    rcases List.mem_cons.mp member with rfl | old
    · refine ⟨_, List.mem_append_right _ List.mem_cons_self, fun accounted => ?_⟩
      rw [Create.careless, Bool.and_eq_true, decide_eq_true_eq] at careless
      obtain ⟨made, gone⟩ := careless
      dsimp only at made gone
      have exists_ : token ∈ (world.create call token makes id).existing := by
        rw [made]
        exact List.mem_cons_self
      exact outstanding.mp (accounted token exists_) gone
    · obtain ⟨moment, inside, not⟩ := sound.exposed create old careless
      exact ⟨moment, List.mem_append_left _ inside, not⟩

end Effects

section Cleanup

variable {Secret : Type} {earlier : List Create}

theorem record_safe {pre post failed killed : World → Prop} (event : Event)
    (survives : ∀ world, pre world → killed world) (refused : ∀ world, pre world → failed world.noted)
    (written : ∀ world, pre world → post (world.write event).noted) :
    Safe pre (record event : Job Secret (Except LedgerError Unit))
      (Either (fun _ => post) (fun _ => failed)) killed := by
  apply safe_act survives
  intro fate world before
  dsimp only
  cases check world.entries event with
  | error => exact refused world before
  | ok =>
    cases fate.written with
    | true => exact written world before
    | false => exact refused world before

/-- Whatever is outstanding is still to be removed, or was left. -/
structure Pending (earlier : List Create) (todo : List LedgerEntry) (left : List Unremovable)
    (world : World) : Prop where
  sound : Sound earlier world
  ids : ∀ entry ∈ todo, ∀ id, entry.providerId = some id → (id, entry.token) ∈ world.answered
  rest : ∀ token, Outstanding world.entries token →
    token ∈ tokens todo ∨ token ∈ left.map Unremovable.token

variable {todo : List LedgerEntry} {left : List Unremovable} {world after : World}

theorem Pending.still (pending : Pending earlier todo left world)
    (creates : after.creates = world.creates) (moments : after.moments = world.moments)
    (entries : after.entries = world.entries) (answered : world.answered ⊆ after.answered)
    (recorded : after.recorded = world.recorded) (existing : after.existing ⊆ world.existing) :
    Pending earlier todo left after.noted where
  sound := pending.sound.still creates moments entries answered recorded existing
  ids := fun entry member id has => answered (pending.ids entry member id has)
  rest := fun token outstanding => pending.rest token (entries ▸ outstanding)

theorem Pending.called (pending : Pending earlier todo left world) (calls : List Call) :
    Pending earlier todo left (World.noted { world with calls }) :=
  pending.still rfl rfl rfl (List.Subset.refl _) rfl (List.Subset.refl _)

theorem lose_subset (world : World) (id : String) : (world.lose id).existing ⊆ world.existing :=
  List.filter_subset_self _

variable (account : Account)

theorem deleteEntry_pending (entry : LedgerEntry) (id : String) :
    Safe (fun world => Pending earlier todo left world ∧ (id, entry.token) ∈ world.answered)
      (deleteEntry account entry id : Job Secret (Except String Unit))
      (Either (fun _ world => Pending earlier todo left world ∧ entry.token ∉ world.existing)
        (fun _ => Pending earlier todo left))
      (Sound earlier) := by
  have deletes : Safe
      (fun world => Pending earlier todo left world ∧ (id, entry.token) ∈ world.answered)
      (delete entry.kind id entry.region : Job Secret (Except ProviderError DeleteOutcome))
      (Either (fun _ world => Pending earlier todo left world ∧ entry.token ∉ world.existing)
        (fun _ => Pending earlier todo left)) (Sound earlier) := by
    apply safe_act fun _ before => before.1.sound
    rintro fate world ⟨pending, has⟩
    dsimp only
    cases fate.deletion with
    | ok =>
      exact ⟨pending.still rfl rfl rfl (List.Subset.refl _) rfl (lose_subset _ _), by simp [World.lose, World.noted, has]⟩
    | error =>
      cases fate.takes with
      | true => exact pending.still rfl rfl rfl (List.Subset.refl _) rfl (lose_subset _ _)
      | false => exact pending.called _
  refine deletes.bind fun answer => ?_
  cases answer with
  | ok | error => exact safe_pure fun _ holds => holds

/-- What a search for a token answers is true of the provider. -/
def Located (token : String) (world : World) : Option String → Prop
  | some id => (id, token) ∈ world.answered
  | none => token ∉ world.existing

theorem removeOne_pending (entry : LedgerEntry) (rest : List LedgerEntry) :
    Safe (Pending earlier (entry :: rest) left)
      (removeOne account entry : Job Secret (Except String Unit))
      (Either (fun _ world => Pending earlier (entry :: rest) left world ∧
          entry.token ∉ world.existing)
        (fun _ => Pending earlier (entry :: rest) left))
      (Sound earlier) := by
  unfold removeOne
  cases has : entry.providerId with
  | some id =>
    refine (deleteEntry_pending account entry id).given fun world pending => ⟨pending, ?_⟩
    exact pending.ids entry List.mem_cons_self id has
  | none =>
    have finds : Safe (Pending earlier (entry :: rest) left) (find entry.kind entry.token entry.region :
        Job Secret (Except ProviderError (Option String)))
        (Either (fun found world => Pending earlier (entry :: rest) left world ∧
            Located entry.token world found)
          (fun _ => Pending earlier (entry :: rest) left)) (Sound earlier) := by
      apply safe_act fun _ before => before.sound
      intro fate world pending
      dsimp only
      cases fate.found with
      | error => exact pending.called _
      | ok =>
        dsimp only
        by_cases there : entry.token ∈ world.existing
        · rw [if_pos there]
          exact ⟨pending.still rfl rfl rfl (List.subset_cons_self _ _) rfl (List.Subset.refl _),
            List.mem_cons_self⟩
        · rw [if_neg there]
          exact ⟨pending.called _, there⟩
    refine finds.bind fun answer => ?_
    cases answer with
    | error => exact safe_pure fun _ holds => holds
    | ok found =>
      cases found with
      | none => exact safe_pure fun _ holds => holds
      | some id => exact deleteEntry_pending account entry id

variable {rest : List LedgerEntry}

theorem Pending.left_over {entry : LedgerEntry}
    (pending : Pending earlier (entry :: rest) left world) (reason : String) :
    Pending earlier rest (left ++ [unremovable entry reason]) world where
  sound := pending.sound
  ids := fun other member => pending.ids other (List.mem_cons_of_mem _ member)
  rest := by
    intro token outstanding
    rw [List.map_append, List.mem_append]
    rcases pending.rest token outstanding with ahead | before
    · rcases List.mem_cons.mp ahead with rfl | later
      · exact .inr (.inr List.mem_cons_self)
      · exact .inl later
    · exact .inr (.inl before)

theorem Pending.removed {entry : LedgerEntry} (pending : Pending earlier (entry :: rest) left world)
    (gone : entry.token ∉ world.existing) :
    Pending earlier rest left (world.write (.removed entry.token)).noted where
  sound := pending.sound.write gone
  ids := fun other member => pending.ids other (List.mem_cons_of_mem _ member)
  rest := by
    intro token outstanding
    obtain ⟨before, other⟩ := outstanding_of_removed pending.sound.distinct outstanding
    rcases pending.rest token before with ahead | old
    · rcases List.mem_cons.mp ahead with same | later
      · exact absurd same other
      · exact .inl later
    · exact .inr old

theorem removeEach_pending (todo : List LedgerEntry) (left : List Unremovable) :
    Safe (Pending earlier todo left)
      (removeEach account todo left : Job Secret (Except LedgerError (List Unremovable)))
      (Either (fun left => Pending earlier [] left) (fun _ => Sound earlier)) (Sound earlier) := by
  induction todo generalizing left with
  | nil => exact safe_pure fun _ pending => pending
  | cons entry rest ih =>
    refine (removeOne_pending account entry rest).bind fun removed => ?_
    cases removed with
    | error reason => exact (ih _).given fun _ pending => Pending.left_over pending reason
    | ok _ =>
      have records : Safe (fun world => Pending earlier (entry :: rest) left world ∧
          entry.token ∉ world.existing) (record (.removed entry.token) :
            Job Secret (Except LedgerError Unit))
          (Either (fun _ => Pending earlier rest left) (fun _ => Sound earlier))
          (Sound earlier) := by
        apply record_safe
        · exact fun _ before => before.1.sound
        · rintro world ⟨pending, _⟩
          exact pending.sound.called _
        · rintro world ⟨pending, gone⟩
          exact pending.removed gone
      refine records.bind fun recorded => ?_
      cases recorded with
      | error => exact safe_pure fun _ sound => sound
      | ok => exact ih left

/-- Nothing that is not recorded as removed is left, if the report is complete. -/
def Reported (earlier : List Create) (report : CleanupReport) (world : World) : Prop :=
  Sound earlier world ∧ (report.isComplete = true → ∀ token, ¬ Outstanding world.entries token)

theorem cleanup_sound : Safe (Sound earlier)
    (cleanup account : Job Secret (Except LedgerError CleanupReport))
    (Either (Reported earlier) (fun _ => Sound earlier)) (Sound earlier) := by
  have seen : Safe (Sound earlier) (look World.entries : Job Secret Entries)
      (fun entries => Pending earlier (entries.reverse.filter isOutstanding) []) (Sound earlier) := by
    apply safe_look
    intro world sound
    refine ⟨sound, ?_, ?_⟩
    · intro entry member
      exact sound.ids entry (List.mem_reverse.mp (List.mem_filter.mp member).1)
    · rintro token ⟨entry, member, rfl, state⟩
      exact .inl (List.mem_map_of_mem (List.mem_filter.mpr
        ⟨List.mem_reverse.mpr member, decide_eq_true state⟩))
  refine seen.bind fun entries => ?_
  refine (removeEach_pending account _ _).bind fun removed => ?_
  cases removed with
  | error => exact safe_pure fun _ sound => sound
  | ok left =>
    have looks : Safe (Pending earlier [] left) (look World.entries : Job Secret Entries)
        (fun _ => Pending earlier [] left) (Sound earlier) :=
      safe_look fun _ pending => pending
    refine looks.bind fun after => safe_pure fun world pending => ⟨pending.sound, ?_⟩
    intro complete token outstanding
    have none_ : left = [] := List.isEmpty_iff.mp complete
    rcases pending.rest token outstanding with ahead | before
    · cases ahead
    · rw [none_] at before
      cases before

theorem none_outstanding {entries : Entries} (none_ : entries.any isOutstanding = false)
    (token : String) : ¬ Outstanding entries token := by
  rintro ⟨entry, member, _, state⟩
  have gone := List.any_eq_false.mp none_ entry member
  exact gone (decide_eq_true state)

theorem Sound.emitted (sound : Sound earlier world) (event : Progress) :
    Sound earlier { world with events := world.events ++ [event] } :=
  ⟨sound.since, sound.distinct, sound.ids, sound.recorded, sound.intents, sound.accounted,
    sound.exposed⟩

theorem cleanUp_sound : Safe (Sound earlier) (cleanUp account : Job Secret CleanupReport)
    (Reported earlier) (Sound earlier) := by
  have seen : Safe (Sound earlier) (look World.entries : Job Secret Entries)
      (fun entries world => Sound earlier world ∧ world.entries = entries) (Sound earlier) :=
    safe_look fun _ sound => ⟨sound, rfl⟩
  refine seen.bind fun entries => ?_
  split
  · have starts : Safe (fun world => Sound earlier world ∧ world.entries = entries)
        (emit .cleanupStarted : Job Secret Unit) (fun _ => Sound earlier) (Sound earlier) :=
      safe_change fun _ before => before.1.emitted _
    refine starts.bind fun _ => ?_
    refine (cleanup_sound account).bind fun done => ?_
    have reports : Safe (Either (Reported earlier) (fun _ => Sound earlier) done)
        (orStillThere done : Job Secret CleanupReport) (Reported earlier) (Sound earlier) := by
      cases done with
      | ok => exact safe_pure fun _ reported => reported
      | error =>
        apply safe_look
        intro world sound
        refine ⟨sound, fun complete => none_outstanding ?_⟩
        simpa [CleanupReport.isComplete] using complete
    refine reports.bind fun report => ?_
    have ends : Safe (Reported earlier report) (emit (.cleanupFinished report.isComplete) :
        Job Secret Unit) (fun _ => Reported earlier report) (Sound earlier) :=
      safe_change fun _ reported => ⟨reported.1.emitted _, reported.2⟩
    exact ends.bind fun _ => safe_pure fun _ reported => reported
  next nothing =>
    refine safe_pure ?_
    rintro world ⟨sound, rfl⟩
    exact ⟨sound, fun _ => none_outstanding (Bool.eq_false_iff.mpr nothing)⟩

end Cleanup

section Stages

variable {Setup Secret Credentials : Type} {earlier : List Create}

/-- What is true where a job ends. -/
def Ended (earlier : List Create) (outcome : Outcome Credentials) (world : World) : Prop :=
  match outcome with
  | .provisioned _ => Sound earlier world
  | .needsAcknowledgement _ | .capacityUnavailable _ => Sound earlier world ∧ world.made = []
  | .cancelled report | .failed _ _ report => Reported earlier report world

/-- Nothing has been made yet. -/
def Unmade (earlier : List Create) (world : World) : Prop := Sound earlier world ∧ world.made = []

variable (Secret Credentials earlier) in
theorem sound_passage (account : Account) :
    Passage Secret account (Sound earlier) (Ended earlier : Outcome Credentials → World → Prop)
      (Sound earlier) where
  survives := fun _ sound => sound
  still := fun _ sound => sound.called _
  called := fun _ _ _ sound => sound.called _
  emitted := fun _ event sound => sound.emitted event
  cancels := cleanUp_sound account
  fails := fun _ _ => cleanUp_sound account

variable (Secret Credentials earlier) in
theorem unmade_passage (account : Account) :
    Passage Secret account (Unmade earlier) (Ended earlier : Outcome Credentials → World → Prop)
      (Sound earlier) where
  survives := fun _ unmade => unmade.1
  still := fun _ unmade => ⟨unmade.1.called _, unmade.2⟩
  called := fun _ _ _ unmade => ⟨unmade.1.called _, unmade.2⟩
  emitted := fun _ event unmade => ⟨unmade.1.emitted event, unmade.2⟩
  cancels := (cleanUp_sound account).given fun _ unmade => unmade.1
  fails := fun _ _ => (cleanUp_sound account).given fun _ unmade => unmade.1

variable (account : Account)

theorem record_intent_sound (kind : ResourceKind) (token region : String) :
    Safe (Sound earlier) (record (.intent kind token region) : Job Secret (Except LedgerError Unit))
      (Either (fun _ world => Sound earlier world ∧ token ∈ world.recorded) (fun _ => Sound earlier))
      (Sound earlier) := by
  apply record_safe
  · exact fun _ sound => sound
  · exact fun _ sound => sound.called _
  · exact fun world sound => ⟨sound.write trivial, List.mem_cons_self⟩

theorem record_created_sound (token id : String) :
    Safe (fun world => Sound earlier world ∧ (id, token) ∈ world.answered)
      (record (.created token id) : Job Secret (Except LedgerError Unit))
      (Either (fun _ => Sound earlier) (fun _ => Sound earlier)) (Sound earlier) := by
  apply record_safe
  · exact fun _ before => before.1
  · exact fun _ before => before.1.called _
  · exact fun world before => before.1.write before.2

theorem create_sound {Info : Type} (call : Call) (token : String)
    (answer : Fate Secret → Except ProviderError Info) (id : Info → String) :
    Safe (fun world => Sound earlier world ∧ token ∈ world.recorded)
      (deed fun fate world =>
        (answer fate, world.create call token fate.makes ((answer fate).toOption.map id)))
      (Either (fun info world => Sound earlier world ∧ (id info, token) ∈ world.answered)
        (fun _ => Sound earlier))
      (Sound earlier) := by
  apply safe_act fun _ before => before.1
  rintro fate world ⟨sound, known⟩
  have after := sound.create known call fate.makes ((answer fate).toOption.map id)
  dsimp only
  cases given : answer fate with
  | error =>
    rw [given] at after
    exact after
  | ok =>
    rw [given] at after
    exact ⟨after, List.mem_cons_self⟩

variable (account : Account) (params : JobParams Setup)

theorem makeInstance_sound : Passes (Sound earlier) (Ended earlier) (Sound earlier)
    (makeInstance account params : Step Secret Credentials InstanceInfo) := by
  have passage := sound_passage Secret Credentials earlier account
  refine (passage.begin _).attempt fun _ => ?_
  refine (safe_lift (record_intent_sound _ _ _)).attempt fun intended => ?_
  refine (passage.settles _ _ _).attempt fun _ => ?_
  refine (safe_lift (create_sound _ _ _ _)).attempt fun answer => ?_
  refine (passage.instanceMade answer).attempt fun machine => ?_
  refine (safe_lift (record_created_sound _ _)).attempt fun noted => ?_
  refine (passage.settles _ _ _).attempt fun _ => ?_
  exact (passage.tell _).bind fun _ => passes_pure _

theorem configureNetwork_sound : Passes (Sound earlier) (Ended earlier) (Sound earlier)
    (configureNetwork account params : Step Secret Credentials NetworkInfo) := by
  have passage := sound_passage Secret Credentials earlier account
  refine (passage.begin _).attempt fun _ => ?_
  refine (safe_lift (record_intent_sound _ _ _)).attempt fun intended => ?_
  refine (passage.settles _ _ _).attempt fun _ => ?_
  refine (safe_lift (create_sound _ _ _ _)).attempt fun answer => ?_
  refine (passage.settles _ _ _).attempt fun rules => ?_
  refine (safe_lift (record_created_sound _ _)).attempt fun noted => ?_
  refine (passage.settles _ _ _).attempt fun _ => ?_
  exact (passage.tell _).bind fun _ => passes_pure _

theorem validateCredential_sound : Passes (Unmade earlier) (Ended earlier) (Sound earlier)
    (validateCredential account params : Step Secret Credentials Unit) := by
  have passage := unmade_passage Secret Credentials earlier account
  refine (passage.begin _).bind fun _ => ?_
  have asks : Safe (Unmade earlier)
      (ask (fun fate => .inspectCredential fate.inspection) Fate.inspection :
        Job Secret (Except ProviderError Inspection)) (fun _ => Unmade earlier) (Sound earlier) :=
    safe_act (fun _ unmade => unmade.1) fun _ _ unmade =>
      ⟨unmade.1.called _, unmade.2⟩
  refine (passes_lift asks).bind fun answer => ?_
  refine (passage.inspected answer).bind fun inspection => ?_
  refine (passage.orFailWith _ _ _).bind fun extra => ?_
  refine (passage.acknowledge params extra fun _ unmade => unmade).bind fun _ => ?_
  exact passage.tell _

variable (kit : Kit Setup Secret Credentials)

theorem run_sound :
    Safe (Unmade earlier) (run account kit params) (Ended earlier) (Sound earlier) := by
  have passage := unmade_passage Secret Credentials earlier account
  have whole : Safe (Unmade earlier) (stages account kit params).run
      (Either (fun _ => Sound earlier) (Ended earlier)) (Sound earlier) := by
    refine (passage.orFailWith _ _ _).attempt fun _ => ?_
    refine (validateCredential_sound account params).attempt fun _ => ?_
    refine (passage.checkCapacity params fun _ _ unmade => unmade).attempt fun _ => ?_
    refine Safe.given ?_ fun _ unmade => unmade.1
    exact passes_creating (sound_passage _ _ _ account) kit params (makeInstance_sound account params)
      (configureNetwork_sound account params)
  refine whole.bind fun result => ?_
  cases result with
  | error | ok => exact safe_pure fun _ holds => holds

end Stages

section Sequences

variable {Setup Secret Credentials : Type}

/-- What is done with the ledger, and the fates of its effects; it is killed where they end. -/
inductive Operation (Setup Secret Credentials : Type)
  | job (account : Account) (kit : Kit Setup Secret Credentials) (params : JobParams Setup)
      (fates : List (Fate Secret))
  | cleanup (account : Account) (fates : List (Fate Secret))

/-- The ledger and the provider, and how the jobs that returned have ended. -/
structure History (Credentials : Type) where
  world : World := {}
  ended : List (Outcome Credentials × World) := []

/-- A new process has recorded and made nothing. -/
def World.restarted (world : World) : World :=
  { world with calls := [], events := [], recorded := [], made := [] }

def operate (history : History Credentials) :
    Operation Setup Secret Credentials → History Credentials
  | .job account kit params fates =>
    match run account kit params fates history.world.restarted with
    | (some (outcome, _), after) => ⟨after, (outcome, after) :: history.ended⟩
    | (none, after) => ⟨after, history.ended⟩
  | .cleanup account fates => ⟨(cleanup account fates history.world.restarted).2, history.ended⟩

/-- The outcomes that tell that nothing is left of the job. -/
def Outcome.leavesNothing : Outcome Credentials → Bool
  | .provisioned _ => false
  | .needsAcknowledgement _ | .capacityUnavailable _ => true
  | .cancelled report | .failed _ _ report => report.isComplete

/-- At every moment what exists is accounted for, no create call went ahead of its intent, and nothing
is left of a job that told so. -/
structure NothingUnaccounted (history : History Credentials) : Prop where
  accounted : ∀ moment ∈ history.world.moments, Accounted moment.1 moment.2
  intents : ∀ create ∈ history.world.creates, create.recorded = true
  ended : ∀ job ∈ history.ended, job.1.leavesNothing = true →
    ∀ token ∈ job.2.made, token ∉ job.2.existing

/-- What is true of every history. -/
structure Kept (history : History Credentials) : Prop where
  sound : Sound [] history.world
  ended : ∀ job ∈ history.ended, ∃ earlier, Ended earlier job.1 job.2 ∧
    ∀ create ∈ job.2.creates, create ∈ history.world.creates

variable {earlier : List Create}

variable {world : World} {outcome : Outcome Credentials}

theorem Sound.restarted (sound : Sound earlier world) :
    Sound world.creates world.restarted :=
  ⟨fun _ member => member, sound.distinct, sound.ids, fun _ member => absurd member List.not_mem_nil,
    sound.intents, sound.accounted, sound.exposed⟩

theorem Sound.anew (sound : Sound earlier world) :
    Sound [] world :=
  { sound with since := fun _ member => absurd member List.not_mem_nil }

theorem Ended.sound (ended : Ended earlier outcome world) : Sound earlier world := by
  cases outcome with
  | provisioned => exact ended
  | needsAcknowledgement | capacityUnavailable | cancelled | failed => exact ended.1

theorem operate_kept {history : History Credentials} (kept : Kept history)
    (operation : Operation Setup Secret Credentials) : Kept (operate history operation) := by
  have starts := kept.sound.restarted
  have later {after : World} (sound : Sound history.world.creates after) :
      ∀ job ∈ history.ended, ∃ earlier, Ended earlier job.1 job.2 ∧
        ∀ create ∈ job.2.creates, create ∈ after.creates := by
    intro job member
    obtain ⟨earlier, ended, before⟩ := kept.ended job member
    exact ⟨earlier, ended, fun create made => sound.since create (before create made)⟩
  cases operation with
  | job account kit params fates =>
    have safe := run_sound account params kit fates history.world.restarted ⟨starts, rfl⟩
    rw [operate]
    generalize run account kit params fates history.world.restarted = done at safe ⊢
    obtain ⟨returned, after⟩ := done
    cases returned with
    | none => exact ⟨safe.anew, later safe⟩
    | some =>
      have sound := Ended.sound safe
      refine ⟨sound.anew, fun job member => ?_⟩
      rcases List.mem_cons.mp member with rfl | old
      · exact ⟨_, safe, fun _ made => made⟩
      · exact later sound job old
  | cleanup account fates =>
    have safe := cleanup_sound account fates history.world.restarted starts
    have sound : Sound history.world.creates (cleanup account fates history.world.restarted).2 := by
      generalize cleanup account fates history.world.restarted = done at safe ⊢
      obtain ⟨returned, after⟩ := done
      cases returned with
      | none => exact safe
      | some returned =>
        obtain ⟨result, rest⟩ := returned
        cases result with
        | error => exact safe
        | ok => exact safe.1
    exact ⟨sound.anew, later sound⟩

theorem operations_kept (operations : List (Operation Setup Secret Credentials)) :
    Kept (operations.foldl operate {}) := by
  have initial : Kept ({} : History Credentials) := by
    refine ⟨⟨?_, List.nodup_nil, ?_, ?_, ?_, ?_, ?_⟩, ?_⟩
    all_goals simp [Accounted]
  exact List.foldlRecOn operations _ initial fun _ kept operation _ => operate_kept kept operation

theorem Ended.nothing_left (ended : Ended earlier outcome world) (careful : Careful world)
    (leaves : outcome.leavesNothing = true) : ∀ token ∈ world.made, token ∉ world.existing := by
  have reported {report : CleanupReport} (reports : Reported earlier report world)
      (complete : report.isComplete = true) : ∀ token ∈ world.made, token ∉ world.existing :=
    fun token _ there => reports.2 complete token ((reports.1.accounted careful).1 token there)
  cases outcome with
  | provisioned => cases leaves
  | needsAcknowledgement | capacityUnavailable =>
    intro token member
    rw [ended.2] at member
    cases member
  | cancelled | failed => exact reported ended leaves

section Concrete

def usualFate : Fate Unit :=
  { inspection := .ok ⟨.dedicatedUser, .valid, ["manage instances"]⟩, found := .ok "i-1" }

def usualAccount : Account := ⟨"cloud", ["manage instances"], id⟩

def usualKit : Kit Unit Unit Unit :=
  ⟨fun _ _ _ _ => .ok "", fun _ _ _ _ _ => .ok (), fun _ => none, fun _ => ""⟩

def usualJob : JobParams Unit := ⟨"job", "home", "small", "mine", ⟨1, 2, 3⟩, false, ()⟩

end Concrete

end Sequences

end DnetEngine.Provision
