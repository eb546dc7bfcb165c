import DnetEngine.Core.EnginePaths

/-! What the result of a race leaves on each profile, and what a step says of it. -/

namespace DnetEngine.Engine

open Lib

def Blocked (e : Engine) (id : ProfileId) : Prop :=
  ∃ q ∈ e.profiles, q.id = id ∧ q.viability.isBlocked = true

/-- The results are of the race in progress, and the decision is one they allow. -/
def Consistent (e : Engine) (decision : RaceDecision) (results : List (ProfileId × ProfileProbe)) :
    Prop :=
  (results.map Prod.fst).Nodup ∧ (∀ result ∈ results, result.1 ∈ e.raced) ∧
    match decision with
    | .pending => True
    | .selected winner _ _ =>
      ∀ result ∈ results, result.1 = winner → (judge result.2).isUsable = true
    | .noneUsable => ∀ result ∈ results, (judge result.2).isUsable = false

instance (e : Engine) (decision : RaceDecision) (results : List (ProfileId × ProfileProbe)) :
    Decidable (Consistent e decision results) :=
  match decision with
  | .pending => inferInstanceAs (Decidable (_ ∧ _ ∧ True))
  | .selected winner _ _ => inferInstanceAs (Decidable (_ ∧ _ ∧
      ∀ result ∈ results, result.1 = winner → (judge result.2).isUsable = true))
  | .noneUsable => inferInstanceAs (Decidable (_ ∧ _ ∧
      ∀ result ∈ results, (judge result.2).isUsable = false))

section Marks

variable (now : Instant)

def markResult (q : ConnectionProfile) (result : ProfileId × ProfileProbe) : ConnectionProfile :=
  if q.id = result.1 then
    match judge result.2 with
    | .usable _ => q.markWorking now
    | .unusable why => q.markBlocked now (unusableReason why)
  else q

def markSilent (q : ConnectionProfile) (id : ProfileId) : ConnectionProfile :=
  if q.id = id then q.markBlocked now "did not respond in time" else q

/-- What a mark of any kind leaves alone. -/
def SameProfile (before after : ConnectionProfile) : Prop :=
  after.id = before.id ∧ after.kind = before.kind

variable (q : ConnectionProfile)

theorem sameProfile_markResult (result : ProfileId × ProfileProbe) :
    SameProfile q (markResult now q result) := by
  unfold markResult
  repeat' split
  all_goals exact ⟨rfl, rfl⟩

theorem sameProfile_markSilent (id : ProfileId) :
    SameProfile q (markSilent now q id) := by
  unfold markSilent
  split <;> exact ⟨rfl, rfl⟩

theorem sameProfile_foldl {Item : Type} {mark : ConnectionProfile → Item → ConnectionProfile}
    (one : ∀ q item, SameProfile q (mark q item)) (items : List Item) (q : ConnectionProfile) :
    SameProfile q (items.foldl mark q) := by
  induction items generalizing q with
  | nil => exact ⟨rfl, rfl⟩
  | cons item _ ih =>
    obtain ⟨id, kind⟩ := one q item
    obtain ⟨restId, restKind⟩ := ih (mark q item)
    exact ⟨restId.trans id, restKind.trans kind⟩

theorem map_id_of_sameProfile {mark : ConnectionProfile → ConnectionProfile}
    (keeps : ∀ q, SameProfile q (mark q)) (profiles : List ConnectionProfile) :
    (profiles.map mark).map ConnectionProfile.id = profiles.map ConnectionProfile.id := by
  rw [List.map_map]
  exact List.map_congr_left (fun q _ => (keeps q).1)

theorem foldl_marks_of_absent {Item : Type} {mark : ConnectionProfile → Item → ConnectionProfile}
    (key : Item → ProfileId) (other : ∀ q item, q.id ≠ key item → mark q item = q)
    (items : List Item) (q : ConnectionProfile) (absent : ∀ item ∈ items, q.id ≠ key item) :
    items.foldl mark q = q := by
  induction items with
  | nil => rfl
  | cons item _ ih =>
    rw [List.foldl_cons, other q item (absent item List.mem_cons_self)]
    exact ih (fun later member => absent later (List.mem_cons_of_mem _ member))

theorem markResult_of_ne (result : ProfileId × ProfileProbe) (other : q.id ≠ result.1) :
    markResult now q result = q := if_neg other

theorem markSilent_of_ne (id : ProfileId) (other : q.id ≠ id) :
    markSilent now q id = q := if_neg other

theorem foldl_markResult_of_mem (results : List (ProfileId × ProfileProbe))
    (q : ConnectionProfile) (once : (results.map Prod.fst).Nodup)
    (result : ProfileId × ProfileProbe) (member : result ∈ results) (named : q.id = result.1) :
    results.foldl (markResult now) q = markResult now q result := by
  induction results with
  | nil => cases member
  | cons first rest ih =>
    obtain ⟨fresh, onceRest⟩ := List.nodup_cons.mp once
    rcases List.mem_cons.mp member with rfl | inside
    · have same := (sameProfile_markResult now q result).1
      refine foldl_marks_of_absent Prod.fst (markResult_of_ne now) rest _ ?_
      intro later inRest equal
      exact fresh (List.mem_map.mpr ⟨later, inRest, by rw [← equal, same, named]⟩)
    · have other : q.id ≠ first.1 := by
        intro equal
        exact fresh (List.mem_map.mpr ⟨result, inside, named.symm.trans equal⟩)
      rw [List.foldl_cons, markResult_of_ne now q first other]
      exact ih onceRest inside

theorem foldl_markSilent_blocked (ids : List ProfileId) (q : ConnectionProfile)
    (either : q.viability.isBlocked = true ∨ q.id ∈ ids) :
    (ids.foldl (markSilent now) q).viability.isBlocked = true := by
  induction ids generalizing q with
  | nil => exact either.resolve_right (by simp)
  | cons id _ ih =>
    refine ih _ ?_
    by_cases named : q.id = id
    · left
      rw [markSilent, if_pos named]
      rfl
    · rw [markSilent, if_neg named]
      exact either.imp_right (fun member => (List.mem_cons.mp member).resolve_left named)

end Marks

variable (e : Engine) (now : Instant)

/-- One profile after the race: its result, the silence of a profile that gave none, the win. -/
def recorded (decision : RaceDecision) (results : List (ProfileId × ProfileProbe))
    (q : ConnectionProfile) : ConnectionProfile :=
  let judged := results.foldl (markResult now) q
  match decision with
  | .pending => judged
  | .selected winner _ _ => if judged.id = winner then judged.markWorking now else judged
  | .noneUsable =>
    (e.raced.filter (fun id => !(results.map Prod.fst).contains id)).foldl (markSilent now) judged

theorem foldl_profiles {Item : Type} {mark : Outcome → Item → Outcome}
    {one : ConnectionProfile → Item → ConnectionProfile}
    (keeps : ∀ q item, SameProfile q (one q item))
    (each : ∀ outcome item, (outcome.1.profiles.map ConnectionProfile.id).Nodup →
      (mark outcome item).1.profiles = outcome.1.profiles.map (fun q => one q item))
    (items : List Item) (outcome : Outcome)
    (distinct : (outcome.1.profiles.map ConnectionProfile.id).Nodup) :
    (items.foldl mark outcome).1.profiles =
      outcome.1.profiles.map (fun q => items.foldl one q) := by
  induction items generalizing outcome with
  | nil => exact (List.map_id _).symm
  | cons item _ ih =>
    have marked := each outcome item distinct
    rw [List.foldl_cons, ih _ (by rwa [marked, map_id_of_sameProfile (keeps · item)]), marked,
      List.map_map]
    rfl

theorem recordResult_profiles (outcome : Outcome) (result : ProfileId × ProfileProbe)
    (distinct : (outcome.1.profiles.map ConnectionProfile.id).Nodup) :
    (recordResult now outcome result).1.profiles =
      outcome.1.profiles.map (fun q => markResult now q result) := by
  cases verdict : judge result.2 with
  | usable =>
    simp only [recordResult, markResult, verdict]
    exact updateFirst_eq_map _ _ _ _ distinct
  | unusable =>
    simp only [recordResult, markResult, verdict, andThen_engine, markBlocked_engine]
    exact updateFirst_eq_map _ _ _ _ distinct

theorem recordSilent_profiles (outcome : Outcome) (id : ProfileId)
    (distinct : (outcome.1.profiles.map ConnectionProfile.id).Nodup) :
    (recordSilent now outcome id).1.profiles =
      outcome.1.profiles.map (fun q => markSilent now q id) := by
  rw [recordSilent, andThen_engine, markBlocked_engine]
  exact updateFirst_eq_map _ _ _ _ distinct

theorem recordResults_profiles (decision : RaceDecision)
    (results : List (ProfileId × ProfileProbe))
    (distinct : (e.profiles.map ConnectionProfile.id).Nodup) :
    (e.recordResults decision results now).1.profiles =
      e.profiles.map (e.recorded now decision results) := by
  have judged := foldl_profiles (sameProfile_markResult now) (recordResult_profiles now) results
    (e, []) distinct
  have kept : ((results.foldl (recordResult now) (e, [])).1.profiles.map
      ConnectionProfile.id).Nodup := by
    rw [judged, map_id_of_sameProfile (sameProfile_foldl (sameProfile_markResult now) results)]
    exact distinct
  cases decision with
  | pending => exact judged
  | selected =>
    refine (updateFirst_eq_map _ _ _ _ kept).trans ?_
    rw [judged, List.map_map]
    rfl
  | noneUsable =>
    have raced : (results.foldl (recordResult now) (e, [])).1.raced = e.raced := by
      rw [onlyProfiles_foldl (recordResult now) (onlyProfiles_recordResult now) results (e, [])]
    have silent := foldl_profiles (sameProfile_markSilent now) (recordSilent_profiles now)
      (e.raced.filter (fun id => !(results.map Prod.fst).contains id)) _ kept
    rw [judged, List.map_map] at silent
    simp only [recordResults, raced]
    exact silent

theorem sameProfile_recorded (decision : RaceDecision)
    (results : List (ProfileId × ProfileProbe)) (q : ConnectionProfile) :
    SameProfile q (e.recorded now decision results q) := by
  have judged := sameProfile_foldl (sameProfile_markResult now) results q
  cases decision with
  | pending => exact judged
  | selected =>
    simp only [recorded]
    split
    · exact judged
    · exact judged
  | noneUsable =>
    have silent := sameProfile_foldl (sameProfile_markSilent now)
      (e.raced.filter (fun id => !(results.map Prod.fst).contains id))
      (results.foldl (markResult now) q)
    exact ⟨silent.1.trans judged.1, silent.2.trans judged.2⟩

section Consistent

variable {e : Engine} {decision : RaceDecision} {results : List (ProfileId × ProfileProbe)}
  (consistent : Consistent e decision results) (q : ConnectionProfile)

include consistent

theorem recorded_unraced (current : e.staleWinner decision = false) (outside : q.id ∉ e.raced) :
    e.recorded now decision results q = q := by
  have judged : results.foldl (markResult now) q = q := by
    refine foldl_marks_of_absent Prod.fst (markResult_of_ne now) results q ?_
    intro result member named
    exact outside (named ▸ consistent.2.1 result member)
  cases decision with
  | pending => exact judged
  | selected winner =>
    have ran : winner ∈ e.raced := by simpa [staleWinner] using current
    have other : q.id ≠ winner := by
      intro same
      exact outside (same ▸ ran)
    simp only [recorded, judged, if_neg other]
  | noneUsable =>
    simp only [recorded, judged]
    refine foldl_marks_of_absent id (markSilent_of_ne now) _ q ?_
    intro id member named
    exact outside (named ▸ (List.mem_filter.mp member).1)

theorem recorded_unusable (result : ProfileId × ProfileProbe) (member : result ∈ results)
    (named : q.id = result.1) {why : Unusable} (failed : judge result.2 = .unusable why) :
    (e.recorded now decision results q).viability.isBlocked = true := by
  have judged : results.foldl (markResult now) q = q.markBlocked now (unusableReason why) := by
    rw [foldl_markResult_of_mem now results q consistent.1 result member named, markResult,
      if_pos named]
    simp only [failed]
  cases decision with
  | pending =>
    simp only [recorded, judged]
    rfl
  | selected winner =>
    have other : q.id ≠ winner := by
      intro same
      have usable := consistent.2.2 result member (named.symm.trans same)
      rw [failed] at usable
      cases usable
    have kept : (q.markBlocked now (unusableReason why)).id ≠ winner := other
    simp only [recorded, judged, if_neg kept]
    rfl
  | noneUsable =>
    simp only [recorded, judged]
    exact foldl_markSilent_blocked now _ _ (.inl rfl)

end Consistent

theorem recorded_noneUsable {e : Engine} {results : List (ProfileId × ProfileProbe)}
    (consistent : Consistent e .noneUsable results) (q : ConnectionProfile)
    (raced : q.id ∈ e.raced) :
    (e.recorded now .noneUsable results q).viability.isBlocked = true := by
  by_cases reported : q.id ∈ results.map Prod.fst
  · obtain ⟨result, member, named⟩ := List.mem_map.mp reported
    have unusable := consistent.2.2 result member
    cases verdict : judge result.2 with
    | usable =>
      rw [verdict] at unusable
      cases unusable
    | unusable => exact recorded_unusable now consistent q result member named.symm verdict
  · refine foldl_markSilent_blocked now _ _ (.inr ?_)
    have same := (sameProfile_foldl (sameProfile_markResult now) results q).1
    rw [same]
    exact List.mem_filter.mpr ⟨raced, by simpa using reported⟩

theorem recorded_winner {winner : ProfileId} {tier : FailoverTier} {bitsPerSec : Nat}
    (results : List (ProfileId × ProfileProbe)) (q : ConnectionProfile) (won : q.id = winner) :
    (e.recorded now (.selected winner tier bitsPerSec) results q).viability = .working now := by
  have same := (sameProfile_foldl (sameProfile_markResult now) results q).1
  simp only [recorded, same, if_pos won]
  rfl

section Said

theorem mem_foldl_actions {Item : Type} {mark : Outcome → Item → Outcome}
    {tells : Item → Action → Prop}
    (each : ∀ outcome item action, action ∈ (mark outcome item).2 →
      action ∈ outcome.2 ∨ tells item action)
    (items : List Item) (outcome : Outcome) (action : Action)
    (member : action ∈ (items.foldl mark outcome).2) :
    action ∈ outcome.2 ∨ ∃ item ∈ items, tells item action := by
  induction items generalizing outcome with
  | nil => exact .inl member
  | cons item _ ih =>
    rcases ih _ member with earlier | ⟨later, inRest, said⟩
    · exact (each outcome item action earlier).imp_right
        (fun said => ⟨item, List.mem_cons_self, said⟩)
    · exact .inr ⟨later, List.mem_cons_of_mem _ inRest, said⟩

theorem mem_markBlocked (id : ProfileId) (reason : String) (action : Action)
    (member : action ∈ (e.markBlocked id now reason).2) :
    action = .emit (.profileBlocked id reason) := by
  unfold markBlocked at member
  split at member
  · exact List.mem_singleton.mp member
  · cases member

/-- The profiles a race reports blocked: those with an unusable result and, where none is usable,
those it ran that gave none. -/
theorem mem_recordResults (decision : RaceDecision) (results : List (ProfileId × ProfileProbe))
    (action : Action) (member : action ∈ (e.recordResults decision results now).2) :
    ∃ id reason, action = .emit (.profileBlocked id reason) ∧
      ((∃ result ∈ results, result.1 = id ∧ ∃ why, judge result.2 = .unusable why) ∨
        (decision = .noneUsable ∧ id ∈ e.raced)) := by
  have judged : ∀ outcome result action, action ∈ (recordResult now outcome result).2 →
      action ∈ outcome.2 ∨ ∃ why, judge result.2 = .unusable why ∧
        action = .emit (.profileBlocked result.1 (unusableReason why)) := by
    intro outcome result action member
    cases verdict : judge result.2 with
    | usable =>
      simp only [recordResult, verdict] at member
      exact .inl member
    | unusable why =>
      simp only [recordResult, verdict, andThen_actions, List.mem_append] at member
      exact member.imp_right (fun said => ⟨why, rfl, mem_markBlocked _ now _ _ action said⟩)
  have reported (member : action ∈ (results.foldl (recordResult now) (e, [])).2) :
      ∃ id reason, action = .emit (.profileBlocked id reason) ∧
        ((∃ result ∈ results, result.1 = id ∧ ∃ why, judge result.2 = .unusable why) ∨
          (decision = .noneUsable ∧ id ∈ e.raced)) := by
    obtain ⟨result, inResults, why, failed, rfl⟩ :=
      (mem_foldl_actions judged results (e, []) action member).resolve_left (by simp)
    exact ⟨_, _, rfl, .inl ⟨result, inResults, rfl, why, failed⟩⟩
  cases decision with
  | pending | selected => exact reported member
  | noneUsable =>
    have raced : (results.foldl (recordResult now) (e, [])).1.raced = e.raced := by
      rw [onlyProfiles_foldl (recordResult now) (onlyProfiles_recordResult now) results (e, [])]
    simp only [recordResults, raced] at member
    have silent : ∀ outcome id action, action ∈ (recordSilent now outcome id).2 →
        action ∈ outcome.2 ∨ action = .emit (.profileBlocked id "did not respond in time") := by
      intro outcome id action member
      simp only [recordSilent, andThen_actions, List.mem_append] at member
      exact member.imp_right (mem_markBlocked _ now _ _ action)
    rcases mem_foldl_actions silent _ _ action member with earlier | ⟨id, inRaced, rfl⟩
    · exact reported earlier
    · exact ⟨_, _, rfl, .inr ⟨rfl, (List.mem_filter.mp inRaced).1⟩⟩

theorem emit_mem_startTunnel (profile : ProfileId) (endpoint : EndpointId) (because : String)
    (event : ConnectionEvent) (said : .emit event ∈ (e.startTunnel profile endpoint because).2) :
    event = .profileSelected profile because := by
  unfold startTunnel at said
  dsimp only at said
  split at said <;> simpa using said

theorem emit_mem_startRace (profiles : List ProfileId) (endpoint : EndpointId) (phase : Phase)
    (event : ConnectionEvent) (said : .emit event ∈ (e.startRace profiles endpoint phase).2) :
    event = .probeStarted := by
  unfold startRace at said
  split at said
  · simpa using said
  · simp at said

theorem emit_mem_fail (cause : FailureCause) (stop : Bool) (event : ConnectionEvent)
    (said : .emit event ∈ (e.fail cause stop).2) : event = .failed cause := by
  cases stop <;> simpa [fail] using said

theorem emit_mem_blockCarrier (profile : ProfileId) (failures : Nat) (event : ConnectionEvent)
    (said : .emit event ∈ (e.blockCarrier profile failures now).2) :
    ∃ reason, event = .profileBlocked profile reason := by
  simp only [blockCarrier, List.mem_append, List.mem_singleton, reduceCtorEq, or_false] at said
  have same := mem_markBlocked e now _ _ _ said
  cases same
  exact ⟨_, rfl⟩

end Said

def SaysBlocked (actions : List Action) (id : ProfileId) : Prop :=
  ∃ reason, .emit (.profileBlocked id reason) ∈ actions

inductive Marks (e : Engine) (now : Instant) (input : Input) (outcome : Outcome) : Prop
  | nothing (same : outcome.1.profiles = e.profiles)
      (silent : ∀ id, ¬ SaysBlocked outcome.2 id)
  | renew (requested : Option ProfileId) (told : input = .connect requested)
      (rest : e.phase.atRest = true)
      (renewed : outcome.1.profiles = e.profiles.map ConnectionProfile.resetViability)
      (silent : ∀ id, ¬ SaysBlocked outcome.2 id)
  | race (decision : RaceDecision) (results : List (ProfileId × ProfileProbe))
      (told : input = .raceFinished decision results) (racing : e.phase.racing = true)
      (current : e.staleWinner decision = false)
      (recorded : outcome.1.profiles = (e.recordResults decision results now).1.profiles)
      (said : ∀ id, SaysBlocked outcome.2 id →
        SaysBlocked (e.recordResults decision results now).2 id)
  | up (profile : ProfileId) (endpoint : EndpointId)
      (starting : e.phase = .starting profile endpoint)
      (marked : outcome.1.profiles = (e.markWorking profile now).profiles)
      (silent : ∀ id, ¬ SaysBlocked outcome.2 id)
  | block (check : LiveCheck) (profile : ProfileId) (endpoint : EndpointId) (failures : Nat)
      (told : input = .liveCheck check) (connected : e.phase = .connected profile endpoint)
      (marked : outcome.1.profiles =
        ((e.checked check).blockCarrier profile failures now).1.profiles)
      (said : ∀ id, SaysBlocked outcome.2 id → id = profile)

theorem silent_fail (e : Engine) (cause : FailureCause) (stop : Bool) (id : ProfileId) :
    ¬ SaysBlocked (e.fail cause stop).2 id := by
  rintro ⟨reason, said⟩
  cases emit_mem_fail e cause stop _ said

theorem silent_startTunnel (e : Engine) (profile : ProfileId) (endpoint : EndpointId)
    (because : String) (id : ProfileId) :
    ¬ SaysBlocked (e.startTunnel profile endpoint because).2 id := by
  rintro ⟨reason, said⟩
  cases emit_mem_startTunnel e profile endpoint because _ said

theorem silent_startRace (e : Engine) (profiles : List ProfileId) (endpoint : EndpointId)
    (phase : Phase) (id : ProfileId) :
    ¬ SaysBlocked (e.startRace profiles endpoint phase).2 id := by
  rintro ⟨reason, said⟩
  cases emit_mem_startRace e profiles endpoint phase _ said

/-- Only the first part of a step speaks of blocked profiles. -/
theorem saysBlocked_append {first second : List Action} {id : ProfileId}
    (silent : ¬ SaysBlocked second id) (said : SaysBlocked (first ++ second) id) :
    SaysBlocked first id := by
  obtain ⟨reason, member⟩ := said
  rcases List.mem_append.mp member with inFirst | inSecond
  · exact ⟨reason, inFirst⟩
  · exact absurd ⟨reason, inSecond⟩ silent

theorem saysBlocked_blockCarrier {e : Engine} {now : Instant} {profile id : ProfileId}
    {failures : Nat} (said : SaysBlocked (e.blockCarrier profile failures now).2 id) :
    id = profile := by
  obtain ⟨reason, member⟩ := said
  obtain ⟨other, same⟩ := emit_mem_blockCarrier e now profile failures _ member
  cases same
  rfl

theorem path_marks {e : Engine} {now : Instant} {input : Input} {outcome : Outcome}
    (path : Path e now input outcome) : Marks e now input outcome := by
  cases path with
  | ignored | environment | reach | checkQuiet | probed =>
    exact .nothing rfl (by simp [SaysBlocked])
  | told tells =>
    refine .nothing rfl ?_
    obtain ⟨_, _, _, ⟨_, _, _, _, rfl⟩ | ⟨_, _, rfl⟩ | ⟨_, _, rfl⟩⟩ := tells <;>
      simp [SaysBlocked]
  | connectFailed rest => exact .renew _ rfl rest rfl (silent_fail _ _ _)
  | connectDirect rest =>
    exact .renew _ rfl rest rfl (silent_startTunnel _ _ _ _)
  | connectRace rest => exact .renew _ rfl rest rfl (silent_startRace _ _ _ _)
  | disconnected =>
    refine .nothing rfl ?_
    unfold disconnect
    split <;> simp [SaysBlocked]
  | raceWon racing raced =>
    exact .race _ _ rfl racing (by simpa [staleWinner] using raced) rfl
      (fun id => saysBlocked_append (silent_startTunnel _ _ _ _ id))
  | raceFailed racing =>
    exact .race _ _ rfl racing rfl rfl (fun id => saysBlocked_append (silent_fail _ _ _ id))
  | raceFallback racing =>
    exact .race _ _ rfl racing rfl rfl
      (fun id => saysBlocked_append (silent_startTunnel _ _ _ _ id))
  | cameUp starting => exact .up _ _ starting rfl (by simp [SaysBlocked])
  | startFailed | checkFailed | checkLost | probedTunnelLost =>
    exact .nothing rfl (silent_fail _ _ _)
  | checkMoved | probedTunnelMoved =>
    exact .nothing rfl (by simp [SaysBlocked, movedTunnel])
  | blockedAll connected =>
    exact .block _ _ _ _ rfl connected rfl (fun id said =>
      saysBlocked_blockCarrier (saysBlocked_append (silent_fail _ _ _ id) said))
  | blockedDirect connected =>
    exact .block _ _ _ _ rfl connected rfl (fun id said =>
      saysBlocked_blockCarrier (saysBlocked_append (silent_startTunnel _ _ _ _ id) said))
  | blockedRace connected =>
    exact .block _ _ _ _ rfl connected rfl (fun id said =>
      saysBlocked_blockCarrier (saysBlocked_append (silent_startRace _ _ _ _ id) said))
  | probedRaceMoved => exact .nothing rfl (by simp [SaysBlocked, movedRace])
  | probedRaceLost =>
    exact .nothing rfl (by simp [SaysBlocked, fail])

end DnetEngine.Engine
