import DnetEngine.Feed.Service

/-! Whether the stored feed is the feed in effect. Accepted keys are stored first and the feed they
drop is removed after that, so that a removal that fails, or is never reached, leaves a file behind
that a later keys document may bring back. -/

namespace DnetEngine.Feed

open Lib

section Eviction

variable {VerifyingKey : Type} [DecidableEq VerifyingKey] {crates : Crates VerifyingKey}
  (trust : FeedTrust crates)

/-- The keys document that this step stored drops the feed. -/
def Evicts (taken : Taken (System VerifyingKey) Performed) (applied : AppliedFeed) : Prop :=
  ∃ envelope now fates service state,
    taken.label.operation = .offerKeys envelope now fates ∧
      taken.before.service = some service ∧
      acceptKeysDocument crates trust service.state envelope now = .ok (.accepted state true) ∧
      taken.after.files.keys = some envelope ∧ service.state.feed = some applied

def Accepts (crates : Crates VerifyingKey) (taken : Taken (System VerifyingKey) Performed)
    (applied : AppliedFeed) : Prop :=
  ∃ envelope now trial fates notes service state,
    taken.label = ⟨.offerFeed envelope now trial fates, some (.ok notes)⟩ ∧
      taken.before.service = some service ∧
      acceptFeed crates service.state envelope now = .ok (.accepted state) ∧
      state.feed = some applied

/-- No feed was in effect, but a file of one was there, and it verifies under the keys of now. -/
def BringsBack (crates : Crates VerifyingKey) (taken : Taken (System VerifyingKey) Performed) :
    Prop :=
  ∃ envelope now fates service later stored applied,
    taken.label.operation = .offerKeys envelope now fates ∧
      taken.before.service = some service ∧ service.state.feed = none ∧
      taken.after.service = some later ∧ taken.before.files.feed = some stored ∧
      restoreFeed crates later.state.keys stored = .ok applied

/-- What is promised of a step, with everything that was done before it. -/
structure Promised (taken : Taken (System VerifyingKey) Performed)
    (older : List (Taken (System VerifyingKey) Performed)) : Prop where
  refused : ∀ refusal, taken.label.answer = some (.error refusal) → taken.after = taken.before
  published : ∀ service ∈ taken.after.service, service.definitions = definitionsOf service.state
  restarts : taken.label.answer.isSome = true → ∀ service ∈ taken.after.service,
    (taken.after.files.restored trust).feed = service.state.feed
  evicted : ∀ applied since evicting earlier, taken :: older = since ++ evicting :: earlier →
    Evicts trust evicting applied → (∀ later ∈ since, ¬ Accepts crates later applied) →
      ∀ service ∈ taken.after.service, service.state.feed ≠ some applied

variable {trust} {before after : System VerifyingKey} {performed : Performed} {files : Files}

theorem restored_keys_eq_some {keys : AcceptedKeys VerifyingKey} :
    (files.restored trust).keys = some keys ↔
      files.keys = some keys.envelope ∧ KeysAuthorised trust keys := by
  change (discarding (restoreKeys crates trust) files.keys).1 = some keys ↔ _
  simp only [discarding_eq_some, restoreKeys_iff]
  constructor
  · rintro ⟨stored, there, rfl, own⟩
    exact ⟨there, own⟩
  · rintro ⟨there, own⟩
    exact ⟨_, there, rfl, own⟩

variable {applied : AppliedFeed} {state : FeedState VerifyingKey}
  {accepted : AcceptedKeys VerifyingKey}

theorem restored_feed_eq_some :
    (files.restored trust).feed = some applied ↔ files.feed = some applied.envelope ∧
      ∃ keys, (files.restored trust).keys = some keys ∧ FeedAuthorised crates keys applied := by
  change (discarding (restoreFeed crates (files.restored trust).keys) files.feed).1 = some applied ↔ _
  simp only [discarding_eq_some, restoreFeed_iff]
  constructor
  · rintro ⟨stored, there, rfl, own⟩
    exact ⟨there, own⟩
  · rintro ⟨there, own⟩
    exact ⟨_, there, rfl, own⟩

/-- The stored keys are the ones in effect, and the definitions are those of the feed. -/
structure Faithful (trust : FeedTrust crates) (system : System VerifyingKey) : Prop where
  keys : ∀ service ∈ system.service, (system.files.restored trust).keys = service.state.keys
  published : ∀ service ∈ system.service, service.definitions = definitionsOf service.state

variable {envelope : Bytes} {service : FeedService VerifyingKey}

theorem KeysReplaced.restored {next : FeedState VerifyingKey}
    (replaced : KeysReplaced crates trust state next envelope accepted)
    (stored : files.keys = some envelope) : (files.restored trust).keys = some accepted := by
  obtain ⟨same, own⟩ := replaced.authorised
  rw [restored_keys_eq_some, same]
  exact ⟨stored, own⟩

theorem faithful_gone {system : System VerifyingKey} (gone : system.service = none) :
    Faithful trust system := by
  constructor <;> rw [gone] <;> exact fun service there => absurd there (Option.not_mem_none service)

theorem faithful_step (faithful : Faithful trust before) (does : Does trust before after performed) :
    Faithful trust after := by
  have running {service : FeedService VerifyingKey} (only : after.service = some service)
      (keys : (after.files.restored trust).keys = service.state.keys)
      (published : service.definitions = definitionsOf service.state) : Faithful trust after := by
    constructor
    · rw [only]
      rintro _ ⟨⟩
      exact keys
    · rw [only]
      rintro _ ⟨⟩
      exact published
  cases does with
  | started files service => exact running service (by rw [files]) rfl
  | died _ gone => exact faithful_gone gone
  | nothing same =>
    rw [same]
    exact faithful
  | keysStored _ _ replaced keys _ ends =>
    obtain ⟨_, _, gone⟩ | ⟨_, committed⟩ := ends
    · exact faithful_gone gone
    · exact running committed ((replaced.restored keys).trans replaced.keys.symm) rfl
  | feedStored ran _ replaced files committed =>
    refine running committed ?_ rfl
    have kept := faithful.keys _ ran
    rw [files]
    exact kept.trans replaced.keysKept.symm

/-- What a start would put into effect is what is in effect. -/
def FeedKept (trust : FeedTrust crates) (system : System VerifyingKey) : Prop :=
  ∀ service ∈ system.service, (system.files.restored trust).feed = service.state.feed

/-- Of a feed that the new keys would restore: it was in effect, unless a file was left behind. -/
theorem keysStored_restored (kept : (before.files.restored trust).feed = service.state.feed)
    (replaced : KeysReplaced crates trust service.state state envelope accepted)
    (keys : after.files.keys = some envelope)
    (feed : after.files.feed = before.files.feed ∨ after.files.feed = none)
    (quiet : service.state.feed = none → ∀ stored, before.files.feed = some stored →
      restoreFeed crates (some accepted) stored ≠ .ok applied)
    (restored : (after.files.restored trust).feed = some applied) : state.feed = some applied := by
  obtain ⟨there, under, held, own⟩ := restored_feed_eq_some.mp restored
  cases (replaced.restored keys).symm.trans held
  obtain same | gone := feed
  · rw [same] at there
    have now : service.state.feed = some applied := by
      cases was : service.state.feed with
      | none =>
        have back : restoreFeed crates (some accepted) applied.envelope = .ok applied :=
          restoreFeed_iff.mpr ⟨rfl, accepted, rfl, own⟩
        exact absurd back (quiet was _ there)
      | some =>
        obtain ⟨stored, _, _, others⟩ := restored_feed_eq_some.mp (kept.trans was)
        have bytes := Option.some.inj (stored.symm.trans there)
        rw [others.unique own bytes]
    rw [replaced.feed, now, Option.filter_some, own.threshold]
    rfl
  · rw [gone] at there
    cases there

theorem keysStored_keeps (kept : (before.files.restored trust).feed = service.state.feed)
    (replaced : KeysReplaced crates trust service.state state envelope accepted)
    (keys : after.files.keys = some envelope) (feed : after.files.feed = before.files.feed)
    (stays : state.feed = some applied) : (after.files.restored trust).feed = some applied := by
  rw [replaced.feed] at stays
  obtain ⟨was, meets⟩ := Option.filter_eq_some_iff.mp stays
  obtain ⟨stored, _, _, own⟩ := restored_feed_eq_some.mp (kept.trans was)
  rw [restored_feed_eq_some, feed]
  exact ⟨stored, accepted, replaced.restored keys, own.parsed, own.document, own.digest, meets⟩

section

variable (faithful : Faithful trust before)

include faithful

theorem feedKept_step (kept : FeedKept trust before) (does : Does trust before after performed)
    (quiet : ¬ BringsBack crates ⟨before, performed, after⟩) : FeedKept trust after := by
  intro later there
  cases does with
  | started files service =>
    rw [service] at there
    cases there
    rw [files]
  | died _ gone =>
    rw [gone] at there
    cases there
  | nothing same =>
    rw [same] at there ⊢
    exact kept later there
  | @keysStored envelope now fates _ service state _ _ ran accepts replaced keys feed ends =>
    obtain ⟨_, _, gone⟩ | ⟨_, committed⟩ := ends
    · rw [gone] at there
      cases there
    · rw [committed] at there
      cases there
      have matched := kept service ran
      apply Option.ext
      intro applied
      constructor
      · apply keysStored_restored matched replaced keys (feed.imp id And.right)
        intro was stored left back
        apply quiet
        exact ⟨envelope, now, fates, service, _, stored, applied, rfl, ran, was, committed, left,
          replaced.keys ▸ back⟩
      · intro stays
        apply keysStored_keeps matched replaced keys _ stays
        obtain same | ⟨dropped, _⟩ := feed
        · exact same
        · have none_ := acceptKeysDocument_evicted accepts
          rw [dropped, show state.feed = some applied from stays, Option.isNone_some,
            Bool.and_false] at none_
          cases none_
  | @feedStored _ _ _ _ _ service state under _ ran _ replaced files committed =>
      rw [committed] at there
      cases there
      change (after.files.restored trust).feed = state.feed
      rw [replaced.feed, restored_feed_eq_some, files, replaced.envelope]
      exact ⟨rfl, under, (faithful.keys service ran).trans replaced.keys, replaced.authorised⟩

theorem evicts_stores (files : after.files = before.files) :
    ¬ Evicts trust ⟨before, performed, after⟩ applied := by
  rintro ⟨envelope, now, fates, service, state, _, ran, accepts, stored, _⟩
  obtain ⟨accepted, replaced⟩ := acceptKeysDocument_ok accepts
  have current := (replaced.restored stored).symm.trans
    ((congrArg (fun files => (files.restored trust).keys) files).trans (faithful.keys service ran))
  exact lt_irrefl _ (replaced.newer accepted current.symm)

theorem restored_step (kept : FeedKept trust before) (does : Does trust before after performed)
    (quiet : ¬ BringsBack crates ⟨before, performed, after⟩)
    (restored : (after.files.restored trust).feed = some applied) :
    Accepts crates ⟨before, performed, after⟩ applied ∨
      (before.files.restored trust).feed = some applied ∧
        ¬ Evicts trust ⟨before, performed, after⟩ applied := by
  have unchanged (same : after.files = before.files) :
      (before.files.restored trust).feed = some applied ∧
        ¬ Evicts trust ⟨before, performed, after⟩ applied :=
    ⟨same ▸ restored, evicts_stores faithful same⟩
  cases does with
  | started files | died files => exact .inr (unchanged files)
  | nothing same => exact .inr (unchanged (congrArg System.files same))
  | @keysStored envelope now fates _ service state _ _ ran accepts replaced keys feed ends =>
    have matched := kept service ran
    have stays : state.feed = some applied := by
      refine keysStored_restored matched replaced keys (feed.imp id And.right) ?_ restored
      intro was stored left back
      obtain ⟨dropped, _, _⟩ | ⟨_, committed⟩ := ends
      · have none_ := acceptKeysDocument_evicted accepts
        rw [dropped, was] at none_
        cases none_
      · apply quiet
        exact ⟨envelope, now, fates, service, _, stored, applied, rfl, ran, was, committed, left,
          replaced.keys ▸ back⟩
    refine .inr ⟨?_, ?_⟩
    · rw [replaced.feed] at stays
      exact matched.trans (Option.filter_eq_some_iff.mp stays).1
    · rintro ⟨_, _, _, _, dropped, operation, running, evicts, _, _⟩
      cases operation
      cases ran.symm.trans running
      cases accepts.symm.trans evicts
      have none_ := acceptKeysDocument_evicted accepts
      rw [stays, Option.isNone_some, Bool.and_false] at none_
      cases none_
  | @feedStored envelope now trial fates notes service state _ new ran accepts replaced files =>
    obtain ⟨there, _, _, own⟩ := restored_feed_eq_some.mp restored
    rw [files] at there
    have bytes : new.envelope = applied.envelope :=
      replaced.envelope.trans (Option.some.inj there)
    cases replaced.authorised.unique own bytes
    exact .inl ⟨envelope, now, trial, fates, notes, service, state, rfl, ran, accepts,
      replaced.feed⟩

end

section Runs

variable {display : FeedError → String} {history : List (Taken (System VerifyingKey) Performed)}
  {system : System VerifyingKey}

theorem faithful_run (run : Run (System.Steps trust display) ⟨files, none⟩ history system) :
    Faithful trust system :=
  run_state_invariant (Faithful trust) (faithful_gone rfl)
    (fun _ _ _ faithful steps => faithful_step faithful (steps_does steps)) run

theorem feedKept_run (run : Run (System.Steps trust display) ⟨files, none⟩ history system)
    (quiet : ∀ taken ∈ history, ¬ BringsBack crates taken) : FeedKept trust system := by
  refine run_invariant
    (fun history system => (∀ taken ∈ history, ¬ BringsBack crates taken) → FeedKept trust system)
    (fun _ service there => absurd there (Option.not_mem_none service)) ?_ run quiet
  intro older state label next run kept steps quiet
  have earlier := kept fun taken member => quiet taken (List.mem_cons_of_mem _ member)
  exact feedKept_step (faithful_run run) earlier (steps_does steps) (quiet _ List.mem_cons_self)

/-- A feed that was dropped is not what a start would restore, as long as it is not accepted anew. -/
theorem stays_evicted {since earlier : List (Taken (System VerifyingKey) Performed)}
    {evicting : Taken (System VerifyingKey) Performed} {applied : AppliedFeed}
    (run : Run (System.Steps trust display) ⟨files, none⟩ (since ++ evicting :: earlier) system)
    (quiet : ∀ taken ∈ since ++ evicting :: earlier, ¬ BringsBack crates taken)
    (evicts : Evicts trust evicting applied)
    (notAccepted : ∀ later ∈ since, ¬ Accepts crates later applied) :
    (system.files.restored trust).feed ≠ some applied := by
  induction since generalizing system with
  | nil =>
    intro restored
    cases run with
    | next older steps =>
      have kept := feedKept_run older fun taken member => quiet taken (List.mem_cons_of_mem _ member)
      obtain accepts | ⟨_, not⟩ := restored_step (faithful_run older) kept (steps_does steps)
        (quiet _ List.mem_cons_self) restored
      · obtain ⟨_, _, _, _, _, _, _, offersFeed, _⟩ := accepts
        obtain ⟨_, _, _, _, _, offersKeys, _⟩ := evicts
        cases (congrArg Performed.operation offersFeed).symm.trans offersKeys
      · exact not evicts
  | cons taken rest ih =>
    intro restored
    cases run with
    | next older steps =>
      have quietBefore : ∀ taken ∈ rest ++ evicting :: earlier, ¬ BringsBack crates taken :=
        fun taken member => quiet taken (List.mem_cons_of_mem _ member)
      have kept := feedKept_run older quietBefore
      obtain accepts | ⟨was, _⟩ := restored_step (faithful_run older) kept (steps_does steps)
        (quiet _ List.mem_cons_self) restored
      · exact notAccepted _ List.mem_cons_self accepts
      · exact ih older quietBefore
          (fun later member => notAccepted later (List.mem_cons_of_mem _ member)) was

theorem does_refused (does : Does trust before after performed) {refusal : FeedRefusal}
    (answered : performed.answer = some (.error refusal)) : after = before := by
  cases does with
  | started | died | feedStored => cases answered
  | nothing same => exact same
  | keysStored _ _ _ _ _ ends =>
    obtain ⟨_, none_, _⟩ | ⟨⟨notes, ok⟩, _⟩ := ends
    · cases none_.symm.trans answered
    · cases ok.symm.trans answered

/-- The step after which a restart would not restore what is in effect. -/
theorem bringsBack_breaks (faithful : Faithful trust after)
    (does : Does trust before after performed)
    (back : BringsBack crates ⟨before, performed, after⟩) :
    performed.answer.isSome = true ∧ ∃ service ∈ after.service, ∃ applied,
      (after.files.restored trust).feed = some applied ∧ service.state.feed = none := by
  obtain ⟨envelope, now, fates, service, later, stored, applied, offers, ran, was, runs, left,
    restored⟩ := back
  have breaks (same : after.files.feed = before.files.feed) (none_ : later.state.feed = none) :
      ∃ service ∈ after.service, ∃ applied,
        (after.files.restored trust).feed = some applied ∧ service.state.feed = none := by
    refine ⟨later, runs, applied, ?_, none_⟩
    rw [← faithful.keys later runs] at restored
    obtain ⟨bytes, keys, held, own⟩ := restoreFeed_iff.mp restored
    exact restored_feed_eq_some.mpr ⟨by rw [same, bytes]; exact left, keys, held, own⟩
  cases does with
  | started | feedStored => cases offers
  | died _ gone => cases gone.symm.trans runs
  | nothing same =>
    cases (congrArg System.service same).symm.trans runs |>.symm.trans ran
    exact ⟨rfl, breaks (congrArg (·.files.feed) same) was⟩
  | keysStored running accepts replaced _ feed ends =>
    cases running.symm.trans ran
    obtain ⟨_, _, gone⟩ | ⟨⟨notes, answered⟩, committed⟩ := ends
    · cases gone.symm.trans runs
    · cases committed.symm.trans runs
      refine ⟨by rw [answered]; rfl, breaks ?_ ?_⟩
      · obtain same | ⟨dropped, _⟩ := feed
        · exact same
        · have none_ := acceptKeysDocument_evicted accepts
          rw [dropped, was] at none_
          cases none_
      · rw [show (FeedService.commit _ _).state.feed = _ from replaced.feed, was]
        rfl

end Runs

end Eviction

section Relisted

def plainRunning (files : Files) (state : FeedState Nat) : System Nat :=
  ⟨files, some { state, definitions := definitionsOf state }⟩

def plainApplied : System Nat :=
  plainRunning ⟨some [0, 1, 0, 11], some [1, 1, 7, 11]⟩
    (reached plainTrust [keysOffered 1 11, feedOffered 1 7 11])

def plainDropped : FeedState Nat :=
  reached plainTrust [keysOffered 1 11, feedOffered 1 7 11, keysOffered 2 12]

theorem run_plainApplied : ∃ history, Run (System.Steps plainTrust fun _ => "") ⟨⟨none, none⟩, none⟩
    history plainApplied ∧ ∀ taken ∈ history, ¬ BringsBack plainCrates taken := by
  let withKeys := plainRunning ⟨some [0, 1, 0, 11], none⟩ (reached plainTrust [keysOffered 1 11])
  have started : System.Steps plainTrust (fun _ => "") ⟨⟨none, none⟩, none⟩
      ⟨.start [.done, .done], some (.ok [])⟩ (plainRunning ⟨none, none⟩ {}) := by decide +kernel
  have keysAccepted : System.Steps plainTrust (fun _ => "") (plainRunning ⟨none, none⟩ {})
      ⟨.offerKeys [0, 1, 0, 11] 500 [.done], some (.ok [])⟩ withKeys := by decide +kernel
  have feedAccepted : System.Steps plainTrust (fun _ => "") withKeys
      ⟨.offerFeed [1, 1, 7, 11] 500 (fun _ => .ok ()) [.done], some (.ok [.updated 7 0])⟩
      plainApplied := by
    decide +kernel
  refine ⟨_, ((Run.start.next started).next keysAccepted).next feedAccepted, ?_⟩
  rintro taken member ⟨_, _, _, _, _, _, _, offers, _, _, _, left, _⟩
  simp only [List.mem_cons, List.not_mem_nil, or_false] at member
  -- Only the keys are an offer of keys, and no file of a feed is there yet.
  rcases member with rfl | rfl | rfl <;> cases offers
  cases left

end Relisted

end DnetEngine.Feed
