import DnetEngine.Core.Domain
import DnetEngine.Lib.Bytes
import Mathlib.Data.Vector.Basic

/-! The profile feed as it is signed and sent: the wire schema, the reasons for refusing a document,
and what is asked of the crates that read and verify it. -/

namespace DnetEngine.Feed

open Lib

def keysPayloadType : String := "application/vnd.dnet-engine.feed-keys.v1+json"
def feedPayloadType : String := "application/vnd.dnet-engine.profile-feed.v1+json"

/-- The largest envelope that is accepted. -/
def envelopeMaxBytes : Nat := 262144
/-- How far the clock may be off, in seconds. -/
def clockSkewSecs : Nat := 24 * 3600

def daySecs : Nat := 24 * 3600
def keysMaxLifetimeSecs : Nat := 366 * daySecs
def signingKeyMaxLifetimeSecs : Nat := 180 * daySecs
def feedMaxLifetimeSecs : Nat := 30 * daySecs

def rootKeyCount : Nat := 3
/-- How many roots must sign a keys document. -/
def rootThreshold : Nat := 2

inductive Document
  | keys
  | feed
  deriving DecidableEq

inductive FeedError
  | tooLarge
  | malformedEnvelope (field : String)
  | wrongPayloadType (document : Document)
  | thresholdNotMet (document : Document) (valid required : Nat)
  | malformedPayload (document : Document) (detail : String)
  | invalidField (field reason : String)
  | notCurrent (document : Document) (reason : String)
  | rollback (document : Document)
  | equivocation (document : Document)
  | keysVersionMismatch
  | noKeysDocument
  | unknownProfile (id : String)
  | kindMismatch (id : String)
  | duplicateProfile (id : String)
  | emptyProposal (id : String)
  | invalidTrust (reason : String)
  deriving DecidableEq

def invalid (field reason : String) : FeedError := .invalidField field reason

structure SignatureJson where
  sig : String

structure EnvelopeJson where
  payload : String
  payloadType : String
  signatures : List SignatureJson

structure SigningKeyJson where
  publicKey : String
  notBefore : Nat
  notAfter : Nat

structure KeysDocumentJson where
  keysVersion : Nat
  issuedAt : Nat
  expiresAt : Nat
  signingThreshold : Nat
  signingKeys : List SigningKeyJson

inductive BbrProfile
  | standard
  | conservative
  | aggressive
  deriving DecidableEq

/-- The browser whose handshake is imitated. -/
inductive UtlsFingerprint
  | chrome
  | firefox
  | edge
  | safari
  | ios
  | android
  deriving DecidableEq

/-- The junk packets of an AmneziaWG client, as they are written and as they are proposed. -/
structure JunkPacketProposal where
  jc : Option Nat := none
  jmin : Option Nat := none
  jmax : Option Nat := none
  deriving DecidableEq

/-- The padding and headers that an AmneziaWG endpoint must share. -/
structure AmneziaWgHeaderProposal where
  s1 : Option Nat := none
  s2 : Option Nat := none
  h1 : Option Nat := none
  h2 : Option Nat := none
  h3 : Option Nat := none
  h4 : Option Nat := none
  deriving DecidableEq

structure Hysteria2ClientProposal where
  bbrProfile : Option BbrProfile := none
  chromeParrot : Option Bool := none
  deriving DecidableEq

inductive ObfsProposal
  | salamander
  | gecko (minPacketSize maxPacketSize : Nat)
  deriving DecidableEq

structure Hysteria2EndpointProposal where
  obfs : Option ObfsProposal := none
  deriving DecidableEq

structure RealityClientProposal where
  utlsFingerprint : Option UtlsFingerprint := none
  deriving DecidableEq

structure RealityEndpointProposal where
  targetDomainCandidates : Option (List String) := none
  deriving DecidableEq

/-- One entry of a feed as it is written. Each section has the shape of what is proposed; its values
are not checked yet. -/
inductive ProfileEntryJson
  | amneziaWg (profileId : String) (client : Option JunkPacketProposal)
      (endpoint : Option AmneziaWgHeaderProposal)
  | hysteria2 (profileId : String) (client : Option Hysteria2ClientProposal)
      (endpoint : Option Hysteria2EndpointProposal)
  | vlessReality (profileId : String) (client : Option RealityClientProposal)
      (endpoint : Option RealityEndpointProposal)

structure FeedDocumentJson where
  keysVersion : Nat
  sequence : Nat
  issuedAt : Nat
  expiresAt : Nat
  profiles : List ProfileEntryJson

/-- A signature of Ed25519, which any 64 bytes are. -/
abbrev Signature := List.Vector UInt8 64

abbrev Digest := List.Vector UInt8 32

/-- What `serde_json`, `base64`, `ed25519-dalek` and `sha2` are called for. Nothing is assumed of
any of them. -/
structure Crates (VerifyingKey : Type) where
  envelopeFromSlice : Bytes → Option EnvelopeJson
  keysFromSlice : Bytes → Except String KeysDocumentJson
  feedFromSlice : Bytes → Except String FeedDocumentJson
  base64Decode : String → Option Bytes
  base64Encode : Bytes → String
  keyFromBytes : List.Vector UInt8 32 → Option VerifyingKey
  isWeak : VerifyingKey → Bool
  verifyStrict : VerifyingKey → Bytes → Signature → Bool
  sha256 : Bytes → Digest

end DnetEngine.Feed
