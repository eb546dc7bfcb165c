import DnetEngine.Feed.Rollback

/-! Who stands behind what is in effect. A feed is checked when it is offered, against the keys of
that time and with the clock; later keys documents keep it only if their own keys signed it, and a
start checks the stored bytes again without the clock. All of them agree. -/

namespace DnetEngine.Feed

open Lib

section Authorised

variable {VerifyingKey : Type} [DecidableEq VerifyingKey] {crates : Crates VerifyingKey}
  (trust : FeedTrust crates)

/-- Accepted keys are what their stored bytes verify to. -/
structure KeysAuthorised (keys : AcceptedKeys VerifyingKey) : Prop where
  verified : verifyKeys crates trust keys.envelope = .ok keys
  floor : trust.minKeysVersion ≤ keys.document.keysVersion

/-- An applied feed is what its stored bytes parse to, and enough of these keys signed it. -/
structure FeedAuthorised (crates : Crates VerifyingKey) (keys : AcceptedKeys VerifyingKey)
    (applied : AppliedFeed) : Prop where
  parsed : parseEnvelope crates applied.envelope feedPayloadType .feed = .ok applied.verified
  document : FeedDocument.parse crates applied.verified.payload = .ok applied.document
  digest : applied.digest = crates.sha256 applied.verified.payload
  threshold : meetsThresholdIgnoringWindows crates applied.verified keys.document = true

structure Authorised (state : FeedState VerifyingKey) : Prop where
  keys : ∀ keys ∈ state.keys, KeysAuthorised trust keys
  feed : ∀ applied ∈ state.feed, ∃ keys ∈ state.keys, FeedAuthorised crates keys applied

/-- The feed was not signed under later keys than the ones there are. -/
def VersionsAgree (state : FeedState VerifyingKey) : Prop :=
  ∀ applied ∈ state.feed, ∀ keys ∈ state.keys,
    applied.document.keysVersion ≤ keys.document.keysVersion

variable {bytes : Bytes} {accepted keys : AcceptedKeys VerifyingKey}
  {state after : FeedState VerifyingKey} {applied : AppliedFeed}

theorem verifyKeys_ok (verified : verifyKeys crates trust bytes = .ok accepted) :
    accepted.envelope = bytes ∧ ∃ envelope,
      parseEnvelope crates bytes keysPayloadType .keys = .ok envelope ∧
      rootThreshold ≤ countSigners crates envelope.signedMessage envelope.signatures trust.roots ∧
      KeysDocument.parse crates envelope.payload trust = .ok accepted.document := by
  obtain ⟨envelope, parsed, rest⟩ := bind_ok.mp verified
  obtain ⟨_, enough, rest⟩ := bind_ok.mp rest
  obtain ⟨document, documented, rest⟩ := bind_ok.mp rest
  cases rest
  exact ⟨rfl, envelope, parsed, requireThreshold_ok enough, documented⟩

theorem KeysReplaced.authorised (replaced : KeysReplaced crates trust state after bytes accepted) :
    accepted.envelope = bytes ∧ KeysAuthorised trust accepted := by
  have same := (verifyKeys_ok trust replaced.verified).1
  exact ⟨same, by rw [same]; exact replaced.verified, replaced.floor⟩

omit [DecidableEq VerifyingKey] in
theorem FeedReplaced.authorised {now : Nat} {under : AcceptedKeys VerifyingKey}
    (replaced : FeedReplaced crates state after bytes now under applied) :
    FeedAuthorised crates under applied := by
  refine ⟨?_, replaced.document, replaced.digest, ?_⟩
  · rw [replaced.envelope]
    exact replaced.parsed
  · exact decide_eq_true (replaced.threshold.trans (List.filter_sublist.map _).countP_le)

theorem authorised_step (offer : Offer) (authorised : Authorised trust state) :
    Authorised trust (take trust state offer) := by
  cases responds trust state offer with
  | nothing same =>
    rw [same]
    exact authorised
  | @keys _ accepted replaced =>
    have own := (replaced.authorised trust).2
    constructor
    · rw [replaced.keys]
      rintro _ ⟨⟩
      exact own
    · rw [replaced.keys, replaced.feed]
      intro applied kept
      obtain ⟨before, meets⟩ := Option.mem_filter_iff.mp kept
      obtain ⟨_, _, signed⟩ := authorised.feed applied before
      exact ⟨accepted, rfl, signed.parsed, signed.document, signed.digest, meets⟩
  | @feed _ _ under _ replaced =>
    constructor
    · rw [replaced.keysKept]
      exact authorised.keys
    · rw [replaced.feed, replaced.keysKept, replaced.keys]
      rintro _ ⟨⟩
      exact ⟨under, rfl, replaced.authorised⟩

theorem versions_step (offer : Offer) (agree : VersionsAgree state)
    (authorised : Authorised trust state) :
    VersionsAgree (take trust state offer) := by
  cases responds trust state offer with
  | nothing same =>
    rw [same]
    exact agree
  | keys replaced =>
    intro applied kept keys held
    rw [replaced.feed] at kept
    rw [replaced.keys] at held
    cases held
    obtain ⟨before, _⟩ := Option.mem_filter_iff.mp kept
    obtain ⟨current, there, _⟩ := authorised.feed applied before
    exact (agree applied before current there).trans (replaced.newer current there).le
  | feed replaced =>
    intro applied new keys held
    rw [replaced.feed] at new
    rw [replaced.keysKept, replaced.keys] at held
    cases new
    cases held
    exact replaced.signedUnder.le

theorem authorised_run (offers : List Offer) :
    Authorised trust (reached trust offers) ∧ VersionsAgree (reached trust offers) := by
  refine List.foldlRecOn (motive := fun state => Authorised trust state ∧ VersionsAgree state)
    offers _ ?_ fun _ holds offer _ =>
      ⟨authorised_step trust offer holds.1, versions_step trust offer holds.2 holds.1⟩
  have absent {Value : Type} (value : Value) : value ∉ (none : Option Value) :=
    Option.not_mem_none value
  refine ⟨⟨?_, ?_⟩, ?_⟩
  · exact fun keys held => absurd held (absent keys)
  · exact fun applied there => absurd there (absent applied)
  · exact fun applied there => absurd there (absent applied)

theorem KeysAuthorised.signed (authorised : KeysAuthorised trust keys) :
    ∃ envelope, parseEnvelope crates keys.envelope keysPayloadType .keys = .ok envelope ∧
      KeysDocument.parse crates envelope.payload trust = .ok keys.document ∧
      SignedBy crates envelope trust.roots rootThreshold := by
  obtain ⟨_, envelope, parsed, enough, documented⟩ := verifyKeys_ok trust authorised.verified
  exact ⟨envelope, parsed, documented, signedBy_of_countSigners crates trust.distinct enough⟩

theorem FeedAuthorised.signed (authorised : FeedAuthorised crates keys applied)
    (own : KeysAuthorised trust keys) :
    1 ≤ keys.document.signingThreshold ∧
      SignedBy crates applied.verified (keys.document.signingKeys.map (·.key))
        keys.document.signingThreshold ∧
      ∀ delegated ∈ keys.document.signingKeys, delegated.key ∉ trust.roots := by
  obtain ⟨envelope, _, documented, _⟩ := own.signed
  obtain ⟨positive, delegated, distinct⟩ := KeysDocument.parse_ok documented
  have enough := of_decide_eq_true authorised.threshold
  exact ⟨positive, signedBy_of_countSigners crates distinct enough, delegated⟩

/-- Whatever was offered: a feed in effect has enough signatures of distinct keys that the keys
document of the moment delegates, none of them a root, and is of no later keys version; and the keys
document is signed by enough of the roots. -/
theorem applied_stays_authorised (offers : List Offer) :
    (∀ applied ∈ (reached trust offers).feed, ∃ keys ∈ (reached trust offers).keys,
      parseEnvelope crates applied.envelope feedPayloadType .feed = .ok applied.verified ∧
        1 ≤ keys.document.signingThreshold ∧
        SignedBy crates applied.verified (keys.document.signingKeys.map (·.key))
          keys.document.signingThreshold ∧
        (∀ delegated ∈ keys.document.signingKeys, delegated.key ∉ trust.roots) ∧
        applied.document.keysVersion ≤ keys.document.keysVersion) ∧
      ∀ keys ∈ (reached trust offers).keys, ∃ envelope,
        parseEnvelope crates keys.envelope keysPayloadType .keys = .ok envelope ∧
          KeysDocument.parse crates envelope.payload trust = .ok keys.document ∧
          SignedBy crates envelope trust.roots rootThreshold := by
  obtain ⟨authorised, agree⟩ := authorised_run trust offers
  refine ⟨?_, fun keys held => (authorised.keys keys held).signed⟩
  intro applied there
  obtain ⟨keys, held, feed⟩ := authorised.feed applied there
  obtain ⟨positive, signed, delegated⟩ := feed.signed trust (authorised.keys keys held)
  exact ⟨keys, held, feed.parsed, positive, signed, delegated, agree applied there keys held⟩

end Authorised

section Restore

variable {VerifyingKey : Type} [DecidableEq VerifyingKey] {crates : Crates VerifyingKey}
  {trust : FeedTrust crates}

theorem discarding_eq_some {Value : Type} {read : Bytes → Except FeedError Value}
    {bytes : Option Bytes} {value : Value} :
    (discarding read bytes).1 = some value ↔ ∃ stored, bytes = some stored ∧ read stored = .ok value := by
  cases bytes with
  | none => simp [discarding]
  | some stored => cases found : read stored <;> simp [discarding, found]

theorem discarding_stored {Value : Type} (read : Bytes → Except FeedError Value)
    (envelope : Value → Bytes) {stored : Option Value}
    (reads : ∀ value ∈ stored, read (envelope value) = .ok value) :
    discarding read (stored.map envelope) = (stored, none) := by
  cases stored with
  | none => rfl
  | some value => rw [Option.map_some, discarding, reads value rfl]

variable {keys : AcceptedKeys VerifyingKey}

theorem restoreKeys_iff {bytes : Bytes} :
    restoreKeys crates trust bytes = .ok keys ↔
      keys.envelope = bytes ∧ KeysAuthorised trust keys := by
  constructor
  · intro done
    obtain ⟨verified, own, rest⟩ := bind_ok.mp done
    obtain ⟨high, rest⟩ := refused_ok.mp rest
    cases rest
    have same := (verifyKeys_ok trust own).1
    exact ⟨same, by rw [same]; exact own, Nat.le_of_not_lt high⟩
  · rintro ⟨rfl, authorised⟩
    unfold restoreKeys
    rw [authorised.verified]
    exact if_neg (Nat.not_lt_of_le authorised.floor)

omit [DecidableEq VerifyingKey] in
theorem restoreFeed_iff {keys : Option (AcceptedKeys VerifyingKey)} {bytes : Bytes}
    {applied : AppliedFeed} :
    restoreFeed crates keys bytes = .ok applied ↔
      applied.envelope = bytes ∧ ∃ held ∈ keys, FeedAuthorised crates held applied := by
  constructor
  · intro done
    obtain ⟨held, there, rest⟩ := bind_ok.mp done
    obtain ⟨envelope, parsed, rest⟩ := bind_ok.mp rest
    obtain ⟨meets, rest⟩ := refused_ok.mp rest
    obtain ⟨document, documented, rest⟩ := bind_ok.mp rest
    cases rest
    exact ⟨rfl, held, orError_ok.mp there, parsed, documented, rfl, by simpa using meets⟩
  · rintro ⟨rfl, held, there, authorised⟩
    obtain ⟨envelope, digest, document, verified⟩ := applied
    obtain ⟨parsed, documented, same, meets⟩ := authorised
    dsimp only at parsed documented same meets
    subst same
    unfold restoreFeed
    rw [Option.mem_def.mp there, parsed]
    change (if !meetsThresholdIgnoringWindows crates verified held.document then _ else _) = _
    rw [meets, documented]
    rfl

/-- A start reads back what was in effect, and whatever the files hold, nothing that is read back
lacks the signatures it would have been accepted with. -/
theorem restart_keeps_state (offers : List Offer) :
    restore crates trust ((reached trust offers).keys.map (·.envelope))
        ((reached trust offers).feed.map (·.envelope)) = ⟨reached trust offers, none, none⟩ ∧
      ∀ keysBytes feedBytes,
        (∀ applied ∈ (restore crates trust keysBytes feedBytes).state.feed,
          ∃ keys ∈ (restore crates trust keysBytes feedBytes).state.keys,
            parseEnvelope crates applied.envelope feedPayloadType .feed = .ok applied.verified ∧
              1 ≤ keys.document.signingThreshold ∧
              SignedBy crates applied.verified (keys.document.signingKeys.map (·.key))
                keys.document.signingThreshold) ∧
          ∀ keys ∈ (restore crates trust keysBytes feedBytes).state.keys,
            trust.minKeysVersion ≤ keys.document.keysVersion ∧ ∃ envelope,
              parseEnvelope crates keys.envelope keysPayloadType .keys = .ok envelope ∧
                KeysDocument.parse crates envelope.payload trust = .ok keys.document ∧
                SignedBy crates envelope trust.roots rootThreshold := by
  constructor
  · have authorised := (authorised_run trust offers).1
    have keys := discarding_stored (restoreKeys crates trust) (·.envelope)
      fun keys held => restoreKeys_iff.mpr ⟨rfl, authorised.keys keys held⟩
    have feed := discarding_stored (restoreFeed crates (reached trust offers).keys) (·.envelope)
      fun applied there => restoreFeed_iff.mpr ⟨rfl, authorised.feed applied there⟩
    rw [restore, keys]
    dsimp only
    rw [feed]
  · intro keysBytes feedBytes
    have own : ∀ keys ∈ (restore crates trust keysBytes feedBytes).state.keys,
        KeysAuthorised trust keys := by
      intro keys held
      obtain ⟨stored, _, read⟩ := discarding_eq_some.mp held
      exact (restoreKeys_iff.mp read).2
    refine ⟨?_, fun keys held => ⟨(own keys held).floor, (own keys held).signed⟩⟩
    intro applied there
    obtain ⟨stored, _, read⟩ := discarding_eq_some.mp there
    obtain ⟨_, keys, held, feed⟩ := restoreFeed_iff.mp read
    obtain ⟨positive, signed, _⟩ := feed.signed trust (own keys held)
    exact ⟨keys, held, feed.parsed, positive, signed⟩

omit [DecidableEq VerifyingKey] in
/-- The stored bytes say which feed it is, whoever signed it. -/
theorem FeedAuthorised.unique {others : AcceptedKeys VerifyingKey} {first second : AppliedFeed}
    (one : FeedAuthorised crates keys first) (other : FeedAuthorised crates others second)
    (same : first.envelope = second.envelope) : first = second := by
  obtain ⟨envelope, digest, document, verified⟩ := first
  obtain ⟨envelope', digest', document', verified'⟩ := second
  obtain ⟨parsed, documented, digested, _⟩ := one
  obtain ⟨parsed', documented', digested', _⟩ := other
  dsimp only at *
  subst same
  cases parsed.symm.trans parsed'
  cases documented.symm.trans documented'
  rw [digested, digested']

end Restore

end DnetEngine.Feed
