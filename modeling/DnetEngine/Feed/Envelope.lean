import DnetEngine.Feed.Wire
import DnetEngine.Lib.Fallible

/-! The trust anchor, signed envelopes, and the keys document that delegates the keys a feed is
signed with. -/

namespace DnetEngine.Feed

open Lib

variable {VerifyingKey : Type} [DecidableEq VerifyingKey] (crates : Crates VerifyingKey)

/-- The roots compiled into a build, and the lowest keys version it accepts. -/
structure FeedTrust (crates : Crates VerifyingKey) where
  roots : List VerifyingKey
  minKeysVersion : Nat
  count : roots.length = rootKeyCount
  strong : ∀ root ∈ roots, crates.isWeak root = false
  distinct : roots.Nodup
  versioned : 1 ≤ minKeysVersion

def addRoot (roots : List VerifyingKey) (bytes : List.Vector UInt8 32) :
    Except FeedError (List VerifyingKey) := do
  let key ← orError (.invalidTrust "root key is not a valid point") (crates.keyFromBytes bytes)
  if crates.isWeak key then .error (.invalidTrust "root key is weak")
  else if roots.contains key then .error (.invalidTrust "root keys are not distinct")
  else .ok (roots ++ [key])

variable {roots after : List VerifyingKey}

theorem addRoot_ok {bytes : List.Vector UInt8 32} (added : addRoot crates roots bytes = .ok after) :
    ∃ key, after = roots ++ [key] ∧ crates.isWeak key = false ∧ key ∉ roots := by
  obtain ⟨key, _, rest⟩ := bind_ok.mp added
  obtain ⟨strong, rest⟩ := refused_ok.mp rest
  obtain ⟨fresh, rest⟩ := refused_ok.mp rest
  cases rest
  exact ⟨key, rfl, by simpa using strong, by simpa using fresh⟩

theorem addRoots_ok (keys : List (List.Vector UInt8 32))
    (strong : ∀ root ∈ roots, crates.isWeak root = false) (distinct : roots.Nodup)
    (added : keys.foldlM (addRoot crates) roots = .ok after) :
    after.length = roots.length + keys.length ∧
      (∀ root ∈ after, crates.isWeak root = false) ∧ after.Nodup := by
  induction keys generalizing roots with
  | nil =>
    cases added
    exact ⟨rfl, strong, distinct⟩
  | cons _ _ ih =>
    obtain ⟨between, first, added⟩ := bind_ok.mp added
    obtain ⟨key, rfl, keyStrong, fresh⟩ := addRoot_ok crates first
    have alsoStrong : ∀ root ∈ roots ++ [key], crates.isWeak root = false := by
      intro root member
      rcases List.mem_append.mp member with before | last
      · exact strong root before
      · rw [List.mem_singleton.mp last]
        exact keyStrong
    have alsoDistinct : (roots ++ [key]).Nodup := by
      rw [← List.concat_eq_append]
      exact distinct.concat fresh
    obtain ⟨length, result⟩ := ih alsoStrong alsoDistinct added
    refine ⟨?_, result⟩
    simp only [length, List.length_append, List.length_cons, List.length_nil]
    omega

/-- A build with a defective anchor must fail, and not accept fewer distinct signers. -/
def FeedTrust.new (rootKeys : List.Vector (List.Vector UInt8 32) rootKeyCount)
    (minKeysVersion : Nat) : Except FeedError (FeedTrust crates) :=
  match made : rootKeys.toList.foldlM (addRoot crates) [] with
  | .error error => .error error
  | .ok roots =>
    if versioned : minKeysVersion = 0 then
      .error (.invalidTrust "minimum keys version must be at least 1")
    else
      have facts := addRoots_ok crates rootKeys.toList
        (fun _ member => absurd member List.not_mem_nil) .nil made
      .ok {
        roots
        minKeysVersion
        count := by simpa using facts.1
        strong := facts.2.1
        distinct := facts.2.2
        versioned := Nat.one_le_iff_ne_zero.mpr versioned }

def maxSignatures : Nat := 8

/-- A well-formed envelope of the payload type that was expected. -/
structure Envelope where
  payload : Bytes
  signatures : List Signature
  payloadType : String
  deriving DecidableEq

/-- What is signed: the payload with its type and both their lengths. -/
def pae (payloadType : String) (body : Bytes) : Bytes :=
  utf8 "DSSEv1 " ++ utf8 (toString payloadType.utf8ByteSize) ++ utf8 " " ++ utf8 payloadType ++
    utf8 " " ++ utf8 (toString body.length) ++ utf8 " " ++ body

def Envelope.signedMessage (envelope : Envelope) : Bytes := pae envelope.payloadType envelope.payload

/-- Base64 that is written in the one way its bytes are. -/
def decodeCanonical (text : String) : Option Bytes :=
  (crates.base64Decode text).filter (fun bytes => crates.base64Encode bytes == text)

/-- Bytes of the given number. -/
def sized (n : Nat) (bytes : Bytes) : Option (List.Vector UInt8 n) :=
  if length : bytes.length = n then some ⟨bytes, length⟩ else none

def parseSignature (json : SignatureJson) : Except FeedError Signature :=
  orError (.malformedEnvelope "signature") ((decodeCanonical crates json.sig).bind (sized 64))

def parseEnvelope (bytes : Bytes) (expectedType : String) (document : Document) :
    Except FeedError Envelope :=
  if envelopeMaxBytes < bytes.length then .error .tooLarge
  else do
    let json ← orError (.malformedEnvelope "structure") (crates.envelopeFromSlice bytes)
    if json.payloadType ≠ expectedType then .error (.wrongPayloadType document)
    else if json.signatures.isEmpty || decide (maxSignatures < json.signatures.length) then
      .error (.malformedEnvelope "signature count")
    else
      let payload ← orError (.malformedEnvelope "payload") (decodeCanonical crates json.payload)
      let signatures ← json.signatures.mapM (parseSignature crates)
      .ok { payload, signatures, payloadType := expectedType }

/-- How many of the keys have signed the message. -/
def countSigners (message : Bytes) (signatures : List Signature) (keys : List VerifyingKey) : Nat :=
  keys.countP (fun key => signatures.any (fun signature => crates.verifyStrict key message signature))

def SignedBy (envelope : Envelope) (keys : List VerifyingKey) (count : Nat) : Prop :=
  ∃ signers : List VerifyingKey, signers.Nodup ∧ count ≤ signers.length ∧ ∀ signer ∈ signers,
    signer ∈ keys ∧ ∃ signature ∈ envelope.signatures,
      crates.verifyStrict signer envelope.signedMessage signature = true

omit [DecidableEq VerifyingKey] in
/-- A key counts once, however many of its signatures there are, if it is listed once. -/
theorem signedBy_of_countSigners {envelope : Envelope} {keys : List VerifyingKey} {count : Nat}
    (distinct : keys.Nodup)
    (enough : count ≤ countSigners crates envelope.signedMessage envelope.signatures keys) :
    SignedBy crates envelope keys count := by
  refine ⟨keys.filter (fun key => envelope.signatures.any
    (fun signature => crates.verifyStrict key envelope.signedMessage signature)),
    distinct.filter _, ?_, ?_⟩
  · rw [← List.countP_eq_length_filter]
    exact enough
  · intro signer member
    obtain ⟨listed, signed⟩ := List.mem_filter.mp member
    exact ⟨listed, List.any_eq_true.mp signed⟩

/-- A key that may sign feeds, and when it may. -/
structure DelegatedKey (VerifyingKey : Type) where
  key : VerifyingKey
  notBefore : Nat
  notAfter : Nat
  deriving DecidableEq

/-- Whether `now` is in the key's window, give or take the clock. -/
def DelegatedKey.isValidAt (delegated : DelegatedKey VerifyingKey) (now : Nat) : Bool :=
  decide (delegated.notBefore - clockSkewSecs ≤ now) &&
    decide (now ≤ saturatingAdd delegated.notAfter clockSkewSecs)

structure KeysDocument (VerifyingKey : Type) where
  keysVersion : Nat
  issuedAt : Nat
  expiresAt : Nat
  signingThreshold : Nat
  signingKeys : List (DelegatedKey VerifyingKey)
  deriving DecidableEq

def maxSigningKeys : Nat := 8

/-- A span of time that ends after it starts and is not too long. -/
def lifetime (start finish max : Nat) (field : String) : Except FeedError Unit :=
  if finish ≤ start then .error (invalid field "must end after it starts")
  else if max < finish - start then .error (invalid field "exceeds the maximum lifetime")
  else .ok ()

def checkIssuedAndExpiry (document : Document) (issuedAt expiresAt now : Nat) :
    Except FeedError Unit :=
  if saturatingAdd now clockSkewSecs < issuedAt then
    .error (.notCurrent document "issued in the future")
  else if saturatingAdd expiresAt clockSkewSecs ≤ now then
    .error (.notCurrent document "expired")
  else .ok ()

namespace KeysDocument

def addSigningKey (trust : FeedTrust crates) (keys : List (DelegatedKey VerifyingKey))
    (entry : SigningKeyJson) : Except FeedError (List (DelegatedKey VerifyingKey)) := do
  let bytes ← orError
    (invalid "signing_keys.public_key" "must be 32 bytes of canonical base64")
    ((decodeCanonical crates entry.publicKey).bind (sized 32))
  let key ← orError (invalid "signing_keys.public_key" "is not a valid point")
    (crates.keyFromBytes bytes)
  if crates.isWeak key then .error (invalid "signing_keys.public_key" "is a weak key")
  else if trust.roots.contains key then
    .error (invalid "signing_keys.public_key" "is a root key")
  else if keys.any (fun other => other.key == key) then
    .error (invalid "signing_keys.public_key" "is listed twice")
  else
    lifetime entry.notBefore entry.notAfter signingKeyMaxLifetimeSecs "signing key validity"
    .ok (keys ++ [⟨key, entry.notBefore, entry.notAfter⟩])

/-- Parse a payload whose signatures were verified, and check it but for the clock. -/
def parse (payload : Bytes) (trust : FeedTrust crates) :
    Except FeedError (KeysDocument VerifyingKey) := do
  let json ← (crates.keysFromSlice payload).mapError (.malformedPayload .keys)
  if json.keysVersion = 0 then .error (invalid "keys_version" "must be at least 1")
  else
    lifetime json.issuedAt json.expiresAt keysMaxLifetimeSecs "keys document lifetime"
    if json.signingKeys.isEmpty || decide (maxSigningKeys < json.signingKeys.length) then
      .error (invalid "signing_keys" "must list 1 to 8 keys")
    else
      let signingKeys ← json.signingKeys.foldlM (addSigningKey crates trust) []
      if json.signingThreshold = 0 ∨ signingKeys.length < json.signingThreshold then
        .error (invalid "signing_threshold" "must be between 1 and the number of signing keys")
      else
        .ok {
          keysVersion := json.keysVersion
          issuedAt := json.issuedAt
          expiresAt := json.expiresAt
          signingThreshold := json.signingThreshold
          signingKeys }

variable {crates} {trust : FeedTrust crates}

variable {keys after : List (DelegatedKey VerifyingKey)}

theorem addSigningKey_ok {entry : SigningKeyJson}
    (added : addSigningKey crates trust keys entry = .ok after) :
    ∃ delegated, after = keys ++ [delegated] ∧ delegated.key ∉ trust.roots ∧
      delegated.key ∉ keys.map (·.key) := by
  obtain ⟨bytes, _, rest⟩ := bind_ok.mp added
  obtain ⟨key, _, rest⟩ := bind_ok.mp rest
  obtain ⟨_, rest⟩ := refused_ok.mp rest
  obtain ⟨delegated, rest⟩ := refused_ok.mp rest
  obtain ⟨fresh, rest⟩ := refused_ok.mp rest
  obtain ⟨_, _, rest⟩ := bind_ok.mp rest
  cases rest
  exact ⟨_, rfl, by simpa using delegated, by simpa using fresh⟩

theorem addSigningKeys_ok (entries : List SigningKeyJson)
    (outside : ∀ delegated ∈ keys, delegated.key ∉ trust.roots)
    (distinct : (keys.map (·.key)).Nodup)
    (added : entries.foldlM (addSigningKey crates trust) keys = .ok after) :
    (∀ delegated ∈ after, delegated.key ∉ trust.roots) ∧ (after.map (·.key)).Nodup := by
  induction entries generalizing keys with
  | nil =>
    cases added
    exact ⟨outside, distinct⟩
  | cons _ _ ih =>
    obtain ⟨between, first, added⟩ := bind_ok.mp added
    obtain ⟨delegated, rfl, notRoot, fresh⟩ := addSigningKey_ok first
    refine ih ?_ ?_ added
    · intro other member
      rcases List.mem_append.mp member with before | last
      · exact outside other before
      · rw [List.mem_singleton.mp last]
        exact notRoot
    · rw [List.map_append, List.map_singleton, ← List.concat_eq_append]
      exact distinct.concat fresh

theorem parse_ok {payload : Bytes} {document : KeysDocument VerifyingKey}
    (parsed : parse crates payload trust = .ok document) :
    1 ≤ document.signingThreshold ∧
      (∀ delegated ∈ document.signingKeys, delegated.key ∉ trust.roots) ∧
      (document.signingKeys.map (·.key)).Nodup := by
  obtain ⟨json, _, rest⟩ := bind_ok.mp parsed
  obtain ⟨_, rest⟩ := refused_ok.mp rest
  obtain ⟨_, _, rest⟩ := bind_ok.mp rest
  obtain ⟨_, rest⟩ := refused_ok.mp rest
  obtain ⟨signingKeys, added, rest⟩ := bind_ok.mp rest
  obtain ⟨threshold, rest⟩ := refused_ok.mp rest
  cases rest
  rw [not_or] at threshold
  exact ⟨Nat.one_le_iff_ne_zero.mpr threshold.1,
    addSigningKeys_ok _ (fun _ member => absurd member List.not_mem_nil) .nil added⟩

def isExpiredAt (document : KeysDocument VerifyingKey) (now : Nat) : Bool :=
  decide (saturatingAdd document.expiresAt clockSkewSecs ≤ now)

def checkCurrent (document : KeysDocument VerifyingKey) (now : Nat) : Except FeedError Unit :=
  checkIssuedAndExpiry .keys document.issuedAt document.expiresAt now

end KeysDocument

end DnetEngine.Feed
