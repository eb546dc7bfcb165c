import DnetEngine.Core.Domain
import DnetEngine.Core.Transport
import DnetEngine.Lib.Bytes
import DnetEngine.Lib.Hex

/-! What is secret about one endpoint: the keys and passwords of each connection method it serves, and
the rules they keep. -/

namespace DnetEngine

open Lib

/-- Secret text. Two secrets are equal when their texts are. -/
structure Secret where
  material : String
  deriving DecidableEq

structure ObfuscationParams where
  jc : BitVec 32
  jmin : BitVec 32
  jmax : BitVec 32
  s1 : BitVec 32
  s2 : BitVec 32
  h1 : BitVec 32
  h2 : BitVec 32
  h3 : BitVec 32
  h4 : BitVec 32
  deriving DecidableEq

structure AmneziaWgCredentials where
  clientPrivateKey : Secret
  serverPublicKey : String
  clientAddress : Ipv4Addr
  prefixLen : BitVec 8
  obfuscation : ObfuscationParams
  serverPort : BitVec 16
  deriving DecidableEq

inductive Hysteria2Obfs
  | salamander
  | gecko (minPacketSize maxPacketSize : BitVec 16)
  deriving DecidableEq

inductive ServerTrust
  | publicCa (serverName : String)
  | pinnedPublicKey (serverName : String) (spkiSha256 : BitVec 256)
  deriving DecidableEq

structure Hysteria2Bundle where
  serverPort : BitVec 16
  authPassword : Secret
  obfsPassword : Secret
  obfs : Hysteria2Obfs
  trust : ServerTrust
  deriving DecidableEq

inductive VlessFlow
  | none
  | vision
  deriving DecidableEq

/-- The borrowed target: a name that was accepted, in lower case. -/
structure TargetDomain where
  name : String
  accepted : validateTargetDomain name = .ok name
  deriving DecidableEq

def TargetDomain.parse (name : String) : Except String TargetDomain :=
  match valid : validateTargetDomain name with
  | .error reason => .error reason
  | .ok accepted => .ok ⟨accepted, validateTargetDomain_accepted valid⟩

/-- A public key in the form the core writes it: 32 bytes in unpadded URL-safe base 64. -/
structure RealityPublicKey where
  text : String
  sized : (decodeUrlSafeNoPad text.toList).map List.length = some 32
  deriving DecidableEq

def RealityPublicKey.parse (encoded : String) : Option RealityPublicKey :=
  if sized : (decodeUrlSafeNoPad encoded.toList).map List.length = some 32 then
    some ⟨encoded, sized⟩
  else none

structure RealityBundle where
  serverPort : BitVec 16
  uuid : Secret
  shortId : Secret
  targetDomain : TargetDomain
  publicKey : RealityPublicKey
  flow : VlessFlow
  deriving DecidableEq

structure SessionBundle where
  devicePrivateKey : Secret
  serverPublicKey : String
  deviceAddress : Ipv4Addr
  sessionPort : BitVec 16
  deriving DecidableEq

structure EndpointCredentials where
  amneziawg : Option AmneziaWgCredentials := none
  hysteria2 : Option Hysteria2Bundle := none
  reality : Option RealityBundle := none
  session : Option SessionBundle := none
  measureOrigin : Option Origin := none
  deriving DecidableEq

/-- No method to connect with; an origin or a session alone is none. -/
def EndpointCredentials.isEmpty (credentials : EndpointCredentials) : Bool :=
  credentials.amneziawg.isNone && credentials.hysteria2.isNone && credentials.reality.isNone

inductive CredentialsError
  | malformed (detail : String)
  | unsupportedVersion (found : Nat)
  | tooLarge
  | invalid (what : String)
  deriving DecidableEq

def CredentialsError.display : CredentialsError → String
  | .malformed detail =>
    "the stored credentials are not in a form this version understands: " ++ detail
  | .unsupportedVersion found =>
    "the stored credentials use format version " ++ toString found ++
      "; this version reads version 2"
  | .tooLarge => "the stored credentials are larger than 16384 bytes"
  | .invalid what => "the stored credentials have an invalid " ++ what

/-- The headers of AmneziaWG's packets do not overlap. -/
def ObfuscationParams.valid (params : ObfuscationParams) : Bool :=
  decide [params.h1, params.h2, params.h3, params.h4].Nodup

def ServerTrust.serverName : ServerTrust → String
  | .publicCa serverName => serverName
  | .pinnedPublicKey serverName _ => serverName

def validUuid (uuid : Secret) : Bool := (parseUuid uuid.material.toList).isSome

/-- One to eight bytes in hexadecimal. -/
def validShortId (shortId : Secret) : Bool :=
  let text := shortId.material.toList
  !text.isEmpty && decide (text.length % 2 = 0) && decide (text.length ≤ 16) &&
    text.all (fun c => (toDigit 16 c).isSome)

/-- 32 bytes in standard base 64: a key of the session. -/
def isKey (text : String) : Bool :=
  decide ((decodeStandard text.toList).map List.length = some 32)

def maxDevices : Nat := 8

def sessionDeviceAddress (index : Nat) : Ipv4Addr :=
  Ipv4Addr.ofOctets 10 9 0 (BitVec.ofNat 8 (2 + index))

def isDeviceAddress (address : Ipv4Addr) : Bool :=
  (List.range maxDevices).any (fun index => sessionDeviceAddress index == address)

def AmneziaWgCredentials.validate (a : AmneziaWgCredentials) : Except CredentialsError Unit :=
  if !isLowerHex a.clientPrivateKey.material.toList 64 then .error (.invalid "AmneziaWG client key")
  else if !isLowerHex a.serverPublicKey.toList 64 then .error (.invalid "AmneziaWG server key")
  else if a.serverPort = 0 then .error (.invalid "AmneziaWG server port")
  else if ¬ (1 ≤ a.prefixLen.toNat ∧ a.prefixLen.toNat ≤ 32) then
    .error (.invalid "AmneziaWG tunnel prefix length")
  else if !a.obfuscation.valid then .error (.invalid "AmneziaWG obfuscation")
  else .ok ()

def Hysteria2Bundle.validate (h : Hysteria2Bundle) : Except CredentialsError Unit :=
  let auth := h.authPassword.material
  let obfs := h.obfsPassword.material
  let sizesValid := match h.obfs with
    | .salamander => true
    | .gecko minPacketSize maxPacketSize =>
      geckoPacketSizesValid minPacketSize.toNat maxPacketSize.toNat
  if h.serverPort = 0 then .error (.invalid "Hysteria 2 server port")
  else if auth.isEmpty then .error (.invalid "Hysteria 2 password")
  -- One text for both would give both away to whoever sees either.
  else if obfs.isEmpty || obfs == auth then .error (.invalid "Hysteria 2 obfuscation password")
  else if !sizesValid then .error (.invalid "Hysteria 2 packet sizes")
  else if !isDnsHostname h.trust.serverName then .error (.invalid "Hysteria 2 server name")
  else .ok ()

def RealityBundle.validate (r : RealityBundle) : Except CredentialsError Unit :=
  if r.serverPort = 0 then .error (.invalid "REALITY server port")
  else if !validUuid r.uuid then .error (.invalid "VLESS user id")
  else if !validShortId r.shortId then .error (.invalid "REALITY short id")
  else .ok ()

def SessionBundle.validate (s : SessionBundle) (carried : Bool) : Except CredentialsError Unit :=
  if !carried then .error (.invalid "session (it has no carrier)")
  else if !isKey s.devicePrivateKey.material then .error (.invalid "session device key")
  else if !isKey s.serverPublicKey then .error (.invalid "session server key")
  else if !isDeviceAddress s.deviceAddress then .error (.invalid "session device address")
  else if s.sessionPort = 0 then .error (.invalid "session port")
  else .ok ()

def validateSection {Section : Type} (validate : Section → Except CredentialsError Unit) :
    Option Section → Except CredentialsError Unit
  | none => .ok ()
  | some part => validate part

/-- The rules that storing and reading both apply. -/
def EndpointCredentials.validate (credentials : EndpointCredentials) :
    Except CredentialsError Unit := do
  validateSection AmneziaWgCredentials.validate credentials.amneziawg
  validateSection Hysteria2Bundle.validate credentials.hysteria2
  validateSection RealityBundle.validate credentials.reality
  validateSection
    (fun session => session.validate (credentials.hysteria2.isSome || credentials.reality.isSome))
    credentials.session

end DnetEngine
