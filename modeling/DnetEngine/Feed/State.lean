import DnetEngine.Feed.Document
import Mathlib.Data.Prod.Lex

/-! Which documents are accepted, what they replace, when the applied feed is dropped, and what is
read back at a start. -/

namespace DnetEngine.Feed

open Lib

variable {VerifyingKey : Type}

structure AcceptedKeys (VerifyingKey : Type) where
  envelope : Bytes
  digest : Digest
  document : KeysDocument VerifyingKey
  deriving DecidableEq

structure AppliedFeed where
  envelope : Bytes
  digest : Digest
  document : FeedDocument
  verified : Envelope
  deriving DecidableEq

/-- What has been accepted so far; on a fresh install, nothing. -/
structure FeedState (VerifyingKey : Type) where
  keys : Option (AcceptedKeys VerifyingKey) := none
  feed : Option AppliedFeed := none
  deriving DecidableEq

inductive KeysOutcome (VerifyingKey : Type)
  | accepted (state : FeedState VerifyingKey) (feedEvicted : Bool)
  | unchanged
  deriving DecidableEq

inductive FeedOutcome (VerifyingKey : Type)
  | accepted (state : FeedState VerifyingKey)
  | unchanged
  deriving DecidableEq

/-- The version of a feed, in the order in which feeds replace one another. -/
def FeedDocument.version (document : FeedDocument) : Nat ×ₗ Nat :=
  toLex (document.keysVersion, document.sequence)

def requireThreshold (document : Document) (valid required : Nat) : Except FeedError Unit :=
  if required ≤ valid then .ok () else .error (.thresholdNotMet document valid required)

section Acceptance

variable (crates : Crates VerifyingKey)

/-- The signers of an envelope among all the delegated keys, whatever their windows. -/
def countAllSigningKeys (envelope : Envelope) (keys : KeysDocument VerifyingKey) : Nat :=
  countSigners crates envelope.signedMessage envelope.signatures (keys.signingKeys.map (·.key))

def meetsThresholdIgnoringWindows (envelope : Envelope) (keys : KeysDocument VerifyingKey) : Bool :=
  decide (keys.signingThreshold ≤ countAllSigningKeys crates envelope keys)

def verifyKeys [DecidableEq VerifyingKey] (trust : FeedTrust crates) (bytes : Bytes) :
    Except FeedError (AcceptedKeys VerifyingKey) := do
  let envelope ← parseEnvelope crates bytes keysPayloadType .keys
  let valid := countSigners crates envelope.signedMessage envelope.signatures trust.roots
  requireThreshold .keys valid rootThreshold
  let document ← KeysDocument.parse crates envelope.payload trust
  .ok { envelope := bytes, digest := crates.sha256 envelope.payload, document }

/-- The lowest keys version that is still accepted. -/
def keysFloor (trust : FeedTrust crates) (state : FeedState VerifyingKey) : Nat :=
  match state.keys with
  | none => trust.minKeysVersion
  | some current => max current.document.keysVersion trust.minKeysVersion

/-- Accept a keys document that is newer than the one there is. The applied feed stays if it still
meets the threshold under the new keys. -/
def replaceKeys (state : FeedState VerifyingKey) (accepted : AcceptedKeys VerifyingKey)
    (now : Nat) : Except FeedError (KeysOutcome VerifyingKey) := do
  accepted.document.checkCurrent now
  let feed := state.feed.filter (fun applied =>
    meetsThresholdIgnoringWindows crates applied.verified accepted.document)
  .ok (.accepted { keys := some accepted, feed } (state.feed.isSome && feed.isNone))

def acceptKeysDocument [DecidableEq VerifyingKey] (trust : FeedTrust crates)
    (state : FeedState VerifyingKey) (envelopeBytes : Bytes) (now : Nat) :
    Except FeedError (KeysOutcome VerifyingKey) := do
  let accepted ← verifyKeys crates trust envelopeBytes
  if accepted.document.keysVersion < keysFloor crates trust state then .error (.rollback .keys)
  else
    match state.keys with
    | none => replaceKeys crates state accepted now
    | some current =>
      if accepted.document.keysVersion = current.document.keysVersion then
        if accepted.digest = current.digest then .ok .unchanged
        else .error (.equivocation .keys)
      else replaceKeys crates state accepted now

/-- Apply a feed that is newer than the one there is, once the clock allows it. -/
def replaceFeed (state : FeedState VerifyingKey) (offered : AppliedFeed) (now : Nat) :
    Except FeedError (FeedOutcome VerifyingKey) := do
  offered.document.checkCurrent now
  .ok (.accepted { state with feed := some offered })

def compareFeed (state : FeedState VerifyingKey) (offered : AppliedFeed) (now : Nat) :
    Except FeedError (FeedOutcome VerifyingKey) :=
  match state.feed with
  | none => replaceFeed state offered now
  | some applied =>
    if offered.document.version = applied.document.version ∧ offered.digest = applied.digest then
      .ok .unchanged
    else if offered.document.version ≤ applied.document.version then
      if offered.document.version = applied.document.version then .error (.equivocation .feed)
      else .error (.rollback .feed)
    else replaceFeed state offered now

def acceptFeed (state : FeedState VerifyingKey) (envelopeBytes : Bytes) (now : Nat) :
    Except FeedError (FeedOutcome VerifyingKey) := do
  let envelope ← parseEnvelope crates envelopeBytes feedPayloadType .feed
  let keys ← orError .noKeysDocument state.keys
  if keys.document.isExpiredAt now then
    .error (.notCurrent .keys "expired, so no new feed is accepted")
  else
    let valid := countSigners crates envelope.signedMessage envelope.signatures
      ((keys.document.signingKeys.filter (·.isValidAt now)).map (·.key))
    requireThreshold .feed valid keys.document.signingThreshold
    let document ← FeedDocument.parse crates envelope.payload
    if document.keysVersion ≠ keys.document.keysVersion then .error .keysVersionMismatch
    else
      let digest := crates.sha256 envelope.payload
      compareFeed state { envelope := envelopeBytes, digest, document, verified := envelope } now

/-- What a start makes of the stored bytes, and why a document was discarded if one was. -/
structure Restored (VerifyingKey : Type) where
  state : FeedState VerifyingKey
  keysDiscarded : Option FeedError
  feedDiscarded : Option FeedError
  deriving DecidableEq

/-- Stored keys, which must still be at the floor. -/
def restoreKeys [DecidableEq VerifyingKey] (trust : FeedTrust crates) (bytes : Bytes) :
    Except FeedError (AcceptedKeys VerifyingKey) := do
  let keys ← verifyKeys crates trust bytes
  if keys.document.keysVersion < trust.minKeysVersion then .error (.rollback .keys) else .ok keys

def restoreFeed (keys : Option (AcceptedKeys VerifyingKey)) (bytes : Bytes) :
    Except FeedError AppliedFeed := do
  let keys ← orError .noKeysDocument keys
  let envelope ← parseEnvelope crates bytes feedPayloadType .feed
  if !meetsThresholdIgnoringWindows crates envelope keys.document then
    .error (.thresholdNotMet .feed (countAllSigningKeys crates envelope keys.document)
      keys.document.signingThreshold)
  else
    let document ← FeedDocument.parse crates envelope.payload
    .ok { envelope := bytes, digest := crates.sha256 envelope.payload, document, verified := envelope }

/-- A stored document, or nothing and the reason why it was discarded. -/
def discarding {Value : Type} (read : Bytes → Except FeedError Value) :
    Option Bytes → Option Value × Option FeedError
  | none => (none, none)
  | some bytes =>
    match read bytes with
    | .ok value => (some value, none)
    | .error error => (none, some error)

/-- Rebuild the state from what was stored. The clock plays no part, and a document that fails is
discarded. -/
def restore [DecidableEq VerifyingKey] (trust : FeedTrust crates)
    (keysBytes feedBytes : Option Bytes) : Restored VerifyingKey :=
  let (keys, keysDiscarded) := discarding (restoreKeys crates trust) keysBytes
  let (feed, feedDiscarded) := discarding (restoreFeed crates keys) feedBytes
  { state := { keys, feed }, keysDiscarded, feedDiscarded }

end Acceptance

section Accepted

variable {crates : Crates VerifyingKey} {state after : FeedState VerifyingKey} {bytes : Bytes}
  {now : Nat}

variable {evicted : Bool} {offered : AppliedFeed}

theorem replaceKeys_ok {accepted : AcceptedKeys VerifyingKey}
    (done : replaceKeys crates state accepted now = .ok (.accepted after evicted)) :
    after.keys = some accepted ∧ after.feed = state.feed.filter (fun applied =>
      meetsThresholdIgnoringWindows crates applied.verified accepted.document) := by
  obtain ⟨_, _, rest⟩ := bind_ok.mp done
  cases rest
  exact ⟨rfl, rfl⟩

theorem replaceFeed_ok (done : replaceFeed state offered now = .ok (.accepted after)) :
    after.keys = state.keys ∧ after.feed = some offered := by
  obtain ⟨_, _, rest⟩ := bind_ok.mp done
  cases rest
  exact ⟨rfl, rfl⟩

theorem compareFeed_ok (done : compareFeed state offered now = .ok (.accepted after)) :
    after.keys = state.keys ∧ after.feed = some offered ∧
      ∀ current ∈ state.feed, current.document.version < offered.document.version := by
  unfold compareFeed at done
  split at done
  next none_ =>
    obtain ⟨keys, feed⟩ := replaceFeed_ok done
    refine ⟨keys, feed, ?_⟩
    rw [none_]
    exact fun _ member => nomatch member
  next current held =>
    split at done
    · cases done
    · split at done
      · split at done <;> cases done
      next higher =>
        obtain ⟨keys, feed⟩ := replaceFeed_ok done
        refine ⟨keys, feed, ?_⟩
        rw [held]
        rintro _ ⟨⟩
        exact lt_of_not_ge higher

/-- What is known once a feed was applied, `under` being the keys it was checked with. -/
structure FeedReplaced (crates : Crates VerifyingKey) (state after : FeedState VerifyingKey)
    (bytes : Bytes) (now : Nat) (under : AcceptedKeys VerifyingKey) (applied : AppliedFeed) :
    Prop where
  keys : state.keys = some under
  keysKept : after.keys = state.keys
  feed : after.feed = some applied
  envelope : applied.envelope = bytes
  parsed : parseEnvelope crates bytes feedPayloadType .feed = .ok applied.verified
  document : FeedDocument.parse crates applied.verified.payload = .ok applied.document
  digest : applied.digest = crates.sha256 applied.verified.payload
  threshold : under.document.signingThreshold ≤
    countSigners crates applied.verified.signedMessage applied.verified.signatures
      ((under.document.signingKeys.filter (·.isValidAt now)).map (·.key))
  signedUnder : applied.document.keysVersion = under.document.keysVersion
  newer : ∀ current ∈ state.feed, current.document.version < applied.document.version

theorem requireThreshold_ok {document : Document} {valid required : Nat}
    (done : requireThreshold document valid required = .ok ()) : required ≤ valid := by
  obtain ⟨enough, done⟩ := required_ok.mp done
  exact enough

theorem acceptFeed_ok (done : acceptFeed crates state bytes now = .ok (.accepted after)) :
    ∃ under applied, FeedReplaced crates state after bytes now under applied := by
  obtain ⟨envelope, parsed, rest⟩ := bind_ok.mp done
  obtain ⟨under, found, rest⟩ := bind_ok.mp rest
  obtain ⟨_, rest⟩ := refused_ok.mp rest
  obtain ⟨_, enough, rest⟩ := bind_ok.mp rest
  obtain ⟨document, documented, rest⟩ := bind_ok.mp rest
  obtain ⟨signed, rest⟩ := refused_ok.mp rest
  obtain ⟨keysKept, feed, newer⟩ := compareFeed_ok rest
  exact ⟨under, _, orError_ok.mp found, keysKept, feed, rfl, parsed, documented, rfl,
    requireThreshold_ok enough, not_not.mp signed, newer⟩

variable [DecidableEq VerifyingKey] {trust : FeedTrust crates}

structure KeysReplaced (crates : Crates VerifyingKey) (trust : FeedTrust crates)
    (state after : FeedState VerifyingKey) (bytes : Bytes)
    (accepted : AcceptedKeys VerifyingKey) : Prop where
  verified : verifyKeys crates trust bytes = .ok accepted
  keys : after.keys = some accepted
  feed : after.feed = state.feed.filter (fun applied =>
    meetsThresholdIgnoringWindows crates applied.verified accepted.document)
  floor : trust.minKeysVersion ≤ accepted.document.keysVersion
  newer : ∀ current ∈ state.keys, current.document.keysVersion < accepted.document.keysVersion

theorem acceptKeysDocument_ok
    (done : acceptKeysDocument crates trust state bytes now = .ok (.accepted after evicted)) :
    ∃ accepted, KeysReplaced crates trust state after bytes accepted := by
  obtain ⟨accepted, verified, rest⟩ := bind_ok.mp done
  refine ⟨accepted, ?_⟩
  obtain ⟨high, rest⟩ := refused_ok.mp rest
  have floor := Nat.le_of_not_lt high
  unfold keysFloor at floor
  split at rest
  next none_ =>
    rw [none_] at floor
    obtain ⟨keys, feed⟩ := replaceKeys_ok rest
    refine ⟨verified, keys, feed, floor, ?_⟩
    rw [none_]
    exact fun _ member => nomatch member
  next current held =>
    rw [held] at floor
    obtain ⟨notOlder, lowest⟩ := max_le_iff.mp floor
    split at rest
    · split at rest <;> cases rest
    next other =>
      obtain ⟨keys, feed⟩ := replaceKeys_ok rest
      refine ⟨verified, keys, feed, lowest, ?_⟩
      rw [held]
      rintro _ ⟨⟩
      exact notOlder.lt_of_ne (Ne.symm other)

theorem acceptKeysDocument_evicted
    (done : acceptKeysDocument crates trust state bytes now = .ok (.accepted after evicted)) :
    evicted = (state.feed.isSome && after.feed.isNone) := by
  have replacing {accepted : AcceptedKeys VerifyingKey}
      (rest : replaceKeys crates state accepted now = .ok (.accepted after evicted)) :
      evicted = (state.feed.isSome && after.feed.isNone) := by
    obtain ⟨_, _, rest⟩ := bind_ok.mp rest
    cases rest
    rfl
  obtain ⟨accepted, _, rest⟩ := bind_ok.mp done
  obtain ⟨_, rest⟩ := refused_ok.mp rest
  split at rest
  · exact replacing rest
  · split at rest
    · split at rest <;> cases rest
    · exact replacing rest

end Accepted

end DnetEngine.Feed
