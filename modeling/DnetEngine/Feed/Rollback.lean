import DnetEngine.Feed.State
import DnetEngine.Lib.HighWater

/-! Nothing that is offered takes the feed back. Whoever offers the documents chooses their bytes,
their order and the time; a keys document may drop the applied feed and its sequence number with
it, but then raises the keys version that the next feed must be signed under. -/

namespace DnetEngine.Feed

open Lib

inductive Offer
  | keys (envelope : Bytes) (now : Nat)
  | feed (envelope : Bytes) (now : Nat)

section Rollback

variable {VerifyingKey : Type} [DecidableEq VerifyingKey] {crates : Crates VerifyingKey}
  (trust : FeedTrust crates)

/-- The state after an offer. A refusal, and a document that is there already, change nothing. -/
def take (state : FeedState VerifyingKey) : Offer → FeedState VerifyingKey
  | .keys envelope now =>
    match acceptKeysDocument crates trust state envelope now with
    | .ok (.accepted after _) => after
    | .ok .unchanged | .error _ => state
  | .feed envelope now =>
    match acceptFeed crates state envelope now with
    | .ok (.accepted after) => after
    | .ok .unchanged | .error _ => state

def acceptedBy (state : FeedState VerifyingKey) : Offer → Option (AcceptedKeys VerifyingKey)
  | .keys envelope now =>
    match acceptKeysDocument crates trust state envelope now with
    | .ok (.accepted after _) => after.keys
    | .ok .unchanged | .error _ => none
  | .feed _ _ => none

def appliedBy (_ : FeedTrust crates) (state : FeedState VerifyingKey) : Offer → Option AppliedFeed
  | .keys _ _ => none
  | .feed envelope now =>
    match acceptFeed crates state envelope now with
    | .ok (.accepted after) => after.feed
    | .ok .unchanged | .error _ => none

/-- The state after all the offers made to a fresh install. -/
def reached (offers : List Offer) : FeedState VerifyingKey := offers.foldl (take trust) {}

/-- The keys documents accepted by a fresh install, in order. -/
def acceptedKeys (offers : List Offer) : List (AcceptedKeys VerifyingKey) :=
  outputs (take trust) (acceptedBy trust) {} offers

/-- The feeds applied by a fresh install, in order. -/
def appliedFeeds (offers : List Offer) : List AppliedFeed :=
  outputs (take trust) (appliedBy trust) {} offers

/-- Everything an offer can do. -/
inductive Response (state : FeedState VerifyingKey) (offer : Offer) : Prop
  | nothing (same : take trust state offer = state) (noKeys : acceptedBy trust state offer = none)
      (noFeed : appliedBy trust state offer = none)
  | keys {bytes : Bytes} {accepted : AcceptedKeys VerifyingKey}
      (replaced : KeysReplaced crates trust state (take trust state offer) bytes accepted)
      (emitted : acceptedBy trust state offer = some accepted)
      (noFeed : appliedBy trust state offer = none)
  | feed {bytes : Bytes} {now : Nat} {under : AcceptedKeys VerifyingKey} {applied : AppliedFeed}
      (replaced : FeedReplaced crates state (take trust state offer) bytes now under applied)
      (noKeys : acceptedBy trust state offer = none)
      (emitted : appliedBy trust state offer = some applied)

theorem responds (state : FeedState VerifyingKey) (offer : Offer) : Response trust state offer := by
  cases offer with
  | keys envelope now =>
    cases outcome : acceptKeysDocument crates trust state envelope now with
    | error =>
      exact .nothing (by rw [take, outcome]) (by rw [acceptedBy, outcome]) rfl
    | ok outcome_ =>
      cases outcome_ with
      | unchanged => exact .nothing (by rw [take, outcome]) (by rw [acceptedBy, outcome]) rfl
      | accepted after =>
        obtain ⟨accepted, replaced⟩ := acceptKeysDocument_ok outcome
        have next : take trust state (.keys envelope now) = after := by
          rw [take, outcome]
        rw [← next] at replaced
        refine .keys replaced ?_ rfl
        rw [acceptedBy, outcome, ← replaced.keys, next]
  | feed envelope now =>
    cases outcome : acceptFeed crates state envelope now with
    | error => exact .nothing (by rw [take, outcome]) rfl (by rw [appliedBy, outcome])
    | ok outcome_ =>
      cases outcome_ with
      | unchanged => exact .nothing (by rw [take, outcome]) rfl (by rw [appliedBy, outcome])
      | accepted after =>
        obtain ⟨under, applied, replaced⟩ := acceptFeed_ok outcome
        have next : take trust state (.feed envelope now) = after := by
          rw [take, outcome]
        rw [← next] at replaced
        refine .feed replaced rfl ?_
        rw [appliedBy, outcome, ← replaced.feed, next]

def KeysBound (state : FeedState VerifyingKey) (version : Nat) : Prop :=
  ∃ current ∈ state.keys, version ≤ current.document.keysVersion

/-- A feed of this version was applied: either the keys have moved on since, or a feed at least as
new is still there. -/
def FeedBound (state : FeedState VerifyingKey) (version : Nat ×ₗ Nat) : Prop :=
  ∃ current ∈ state.keys, (ofLex version).1 ≤ current.document.keysVersion ∧
    ((ofLex version).1 = current.document.keysVersion →
      ∃ applied ∈ state.feed, version ≤ applied.document.version)

theorem keys_highWater :
    HighWater (take trust) (acceptedBy trust) (·.document.keysVersion) KeysBound where
  above {state offer accepted mark} bounded emitted := by
    obtain ⟨current, held, low⟩ := bounded
    cases responds trust state offer with
    | nothing _ noKeys | feed _ noKeys => rw [noKeys] at emitted; cases emitted
    | keys replaced emits =>
      rw [emits] at emitted
      cases emitted
      exact low.trans_lt (replaced.newer current held)
  raised {state offer accepted} emitted := by
    cases responds trust state offer with
    | nothing _ noKeys | feed _ noKeys => rw [noKeys] at emitted; cases emitted
    | keys replaced emits =>
      rw [emits] at emitted
      cases emitted
      exact ⟨accepted, replaced.keys, le_refl _⟩
  kept {state offer mark} bounded := by
    obtain ⟨current, held, low⟩ := bounded
    cases responds trust state offer with
    | nothing same => exact ⟨current, by rw [same]; exact held, low⟩
    | feed replaced => exact ⟨current, by rw [replaced.keysKept]; exact held, low⟩
    | keys replaced => exact ⟨_, replaced.keys, low.trans (replaced.newer current held).le⟩

theorem feed_highWater :
    HighWater (take trust) (appliedBy trust) (·.document.version) FeedBound where
  above {state offer applied mark} bounded emitted := by
    obtain ⟨current, held, low, still⟩ := bounded
    cases responds trust state offer with
    | nothing _ _ noFeed | keys _ _ noFeed => rw [noFeed] at emitted; cases emitted
    | feed replaced _ emits =>
      rw [emits] at emitted
      cases emitted
      have same := Option.some.inj (held.symm.trans replaced.keys)
      rw [same, ← replaced.signedUnder] at low still
      rcases low.lt_or_eq with lower | equal
      · exact Prod.Lex.lt_iff.mpr (.inl lower)
      · -- The keys have not changed since, so that the feed is compared with.
        obtain ⟨last, there, notOlder⟩ := still equal
        exact notOlder.trans_lt (replaced.newer last there)
  raised {state offer applied} emitted := by
    cases responds trust state offer with
    | nothing _ _ noFeed | keys _ _ noFeed => rw [noFeed] at emitted; cases emitted
    | feed replaced _ emits =>
      rw [emits] at emitted
      cases emitted
      exact ⟨_, replaced.keysKept.trans replaced.keys, replaced.signedUnder.le,
        fun _ => ⟨applied, replaced.feed, le_refl _⟩⟩
  kept {state offer mark} bounded := by
    obtain ⟨current, held, low, still⟩ := bounded
    cases responds trust state offer with
    | nothing same => exact ⟨current, by rw [same]; exact held, low, by rw [same]; exact still⟩
    | keys replaced =>
      have raised := low.trans_lt (replaced.newer current held)
      exact ⟨_, replaced.keys, raised.le, fun equal => absurd equal raised.ne⟩
    | feed replaced =>
      refine ⟨current, by rw [replaced.keysKept]; exact held, low, ?_⟩
      intro equal
      obtain ⟨last, there, notOlder⟩ := still equal
      exact ⟨_, replaced.feed, notOlder.trans (replaced.newer last there).le⟩

theorem keys_at_floor (offers : List Offer) {state : FeedState VerifyingKey}
    (floor : ∀ keys ∈ state.keys, trust.minKeysVersion ≤ keys.document.keysVersion) :
    ∀ keys ∈ (offers.foldl (take trust) state).keys,
      trust.minKeysVersion ≤ keys.document.keysVersion := by
  induction offers generalizing state with
  | nil => exact floor
  | cons offer _ ih =>
    apply ih
    cases responds trust state offer with
    | nothing same =>
      rw [same]
      exact floor
    | keys replaced =>
      rw [replaced.keys]
      rintro _ ⟨⟩
      exact replaced.floor
    | feed replaced =>
      rw [replaced.keysKept]
      exact floor

/-- Whatever is offered, in whatever order and whenever: the version of the accepted keys never
goes back and is never below the one compiled in, every applied feed is newer than all those applied
before it, and no version stands for two documents. -/
theorem never_rolled_back (earlier later : List Offer) :
    (∀ before ∈ (reached trust earlier).keys, ∃ after ∈ (reached trust (earlier ++ later)).keys,
        before.document.keysVersion ≤ after.document.keysVersion) ∧
      (∀ keys ∈ (reached trust (earlier ++ later)).keys,
        trust.minKeysVersion ≤ keys.document.keysVersion) ∧
      (appliedFeeds trust (earlier ++ later)).Pairwise
        (fun first second => first.document.version < second.document.version) ∧
      (∀ first ∈ appliedFeeds trust (earlier ++ later),
        ∀ second ∈ appliedFeeds trust (earlier ++ later),
          first.document.version = second.document.version → first.digest = second.digest) ∧
      ∀ first ∈ acceptedKeys trust (earlier ++ later),
        ∀ second ∈ acceptedKeys trust (earlier ++ later),
          first.document.keysVersion = second.document.keysVersion →
            first.digest = second.digest := by
  refine ⟨?_, ?_, (feed_highWater trust).increasing _ _, ?_, ?_⟩
  · intro before held
    have bounded : KeysBound (reached trust earlier) before.document.keysVersion :=
      ⟨before, held, le_refl _⟩
    rw [reached, List.foldl_append]
    exact (keys_highWater trust).kept_all later bounded
  · exact keys_at_floor trust _ fun _ member => nomatch member
  · intro first firstIn second secondIn same
    rw [(feed_highWater trust).unique _ _ first firstIn second secondIn same]
  · intro first firstIn second secondIn same
    rw [(keys_highWater trust).unique _ _ first firstIn second secondIn same]

end Rollback

section Eviction

/-- Crates for which the first byte of a signature names the key that made it, and the second and
third of an envelope are the versions of its document. -/
def plainCrates : Crates Nat where
  envelopeFromSlice
    | [0, version, _, signer] => some
        { payload := String.ofList [Char.ofUInt8 version, Char.ofUInt8 signer]
          payloadType := keysPayloadType
          signatures := [1, 2].map (fun root => ⟨String.ofList (List.replicate 64 (Char.ofNat root))⟩) }
    | [1, version, sequence, signer] => some
        { payload := String.ofList [Char.ofUInt8 version, Char.ofUInt8 sequence]
          payloadType := feedPayloadType
          signatures := [⟨String.ofList (List.replicate 64 (Char.ofUInt8 signer))⟩] }
    | _ => none
  keysFromSlice
    | [version, signer] => .ok
        { keysVersion := version.toNat
          issuedAt := 0
          expiresAt := 1000
          signingThreshold := 1
          signingKeys := [⟨String.ofList (List.replicate 32 (Char.ofUInt8 signer)), 0, 1000⟩] }
    | _ => .error ""
  feedFromSlice
    | [version, sequence] => .ok
        { keysVersion := version.toNat
          sequence := sequence.toNat
          issuedAt := 0
          expiresAt := 1000
          profiles := [.amneziaWg "awg-default" (some { jc := some 4 }) none] }
    | _ => .error ""
  base64Decode text := some (text.toList.map (fun c => UInt8.ofNat c.toNat))
  base64Encode bytes := String.ofList (bytes.map Char.ofUInt8)
  keyFromBytes bytes := some bytes.head.toNat
  isWeak _ := false
  verifyStrict key _ signature := key == signature.head.toNat
  sha256 _ := List.Vector.replicate 32 0

def plainTrust : FeedTrust plainCrates where
  roots := [1, 2, 3]
  minKeysVersion := 1
  count := rfl
  strong _ _ := rfl
  distinct := by decide
  versioned := le_refl 1

def keysOffered (version signer : UInt8) : Offer := .keys [0, version, 0, signer] 500
def feedOffered (version sequence signer : UInt8) : Offer := .feed [1, version, sequence, signer] 500

/-- The second keys document drops the feed with its sequence number. It is not taken back, and the
next one begins to count anew. -/
example :
    (reached plainTrust [keysOffered 1 11, feedOffered 1 7 11, keysOffered 2 12]).feed = none ∧
      (appliedFeeds plainTrust [keysOffered 1 11, feedOffered 1 7 11, keysOffered 2 12,
        feedOffered 1 7 11, keysOffered 1 11, feedOffered 2 1 12, feedOffered 2 1 12]).map
          (fun applied => ofLex applied.document.version) = [(1, 7), (2, 1)] := by
  decide +kernel

end Eviction

end DnetEngine.Feed
