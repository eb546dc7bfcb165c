import DnetEngine.Config.Credentials
import DnetEngine.Lib.Derived

/-! The stored form of an endpoint's credentials, with the secrets in clear: how a bundle is printed and
how it is read. Reading is strict. -/

namespace DnetEngine

open Lib

def formatVersion : Nat := 2
def oldestVersion : Nat := 1
def maxStoredLen : Nat := 16 * 1024

section Wire

def obfuscationNames : List String := ["jc", "jmin", "jmax", "s1", "s2", "h1", "h2", "h3", "h4"]

def ObfuscationParams.print (o : ObfuscationParams) : Json :=
  .record [("jc", some (.unsigned o.jc)), ("jmin", some (.unsigned o.jmin)),
    ("jmax", some (.unsigned o.jmax)), ("s1", some (.unsigned o.s1)), ("s2", some (.unsigned o.s2)),
    ("h1", some (.unsigned o.h1)), ("h2", some (.unsigned o.h2)), ("h3", some (.unsigned o.h3)),
    ("h4", some (.unsigned o.h4))]

def ObfuscationParams.read (tree : Json) : Option ObfuscationParams := do
  guard (tree.isRecord true obfuscationNames)
  let number (name : String) := (tree.field obfuscationNames name).bind (Json.asUnsigned 32)
  return {
    jc := ← number "jc", jmin := ← number "jmin", jmax := ← number "jmax", s1 := ← number "s1",
    s2 := ← number "s2", h1 := ← number "h1", h2 := ← number "h2", h3 := ← number "h3",
    h4 := ← number "h4" }

def printAddress (address : Ipv4Addr) : Json := .string (String.ofList (printIpv4 address))

def readAddress (tree : Json) : Option Ipv4Addr :=
  tree.asStr.bind fun text => parseIpv4 text.toList

structure AwgWire where
  clientPrivateKey : String
  serverPublicKey : String
  clientAddress : Ipv4Addr
  prefixLen : BitVec 8
  obfuscation : ObfuscationParams
  serverPort : BitVec 16

def awgNames : List String :=
  ["client_private_key", "server_public_key", "client_address", "prefix_len", "obfuscation",
    "server_port"]

def AwgWire.print (a : AwgWire) : Json :=
  .record [("client_private_key", some (.string a.clientPrivateKey)),
    ("server_public_key", some (.string a.serverPublicKey)),
    ("client_address", some (printAddress a.clientAddress)),
    ("prefix_len", some (.unsigned a.prefixLen)), ("obfuscation", some a.obfuscation.print),
    ("server_port", some (.unsigned a.serverPort))]

def AwgWire.read (tree : Json) : Option AwgWire := do
  guard (tree.isRecord true awgNames)
  return {
    clientPrivateKey := ← (tree.field awgNames "client_private_key").bind Json.asStr
    serverPublicKey := ← (tree.field awgNames "server_public_key").bind Json.asStr
    clientAddress := ← (tree.field awgNames "client_address").bind readAddress
    prefixLen := ← (tree.field awgNames "prefix_len").bind (Json.asUnsigned 8)
    obfuscation := ← (tree.field awgNames "obfuscation").bind ObfuscationParams.read
    serverPort := ← (tree.field awgNames "server_port").bind (Json.asUnsigned 16) }

structure ObfsWire where
  kind : String
  minPacketSize : Option (BitVec 16)
  maxPacketSize : Option (BitVec 16)

def obfsNames : List String := ["kind", "min_packet_size", "max_packet_size"]

def ObfsWire.print (o : ObfsWire) : Json :=
  .record [("kind", some (.string o.kind)), ("min_packet_size", o.minPacketSize.map Json.unsigned),
    ("max_packet_size", o.maxPacketSize.map Json.unsigned)]

def ObfsWire.read (tree : Json) : Option ObfsWire := do
  guard (tree.isRecord true obfsNames)
  return {
    kind := ← (tree.field obfsNames "kind").bind Json.asStr
    minPacketSize := ← Json.optional (Json.asUnsigned 16) (tree.field obfsNames "min_packet_size")
    maxPacketSize := ← Json.optional (Json.asUnsigned 16) (tree.field obfsNames "max_packet_size") }

structure TrustWire where
  kind : String
  serverName : String
  spkiSha256 : Option String

def trustNames : List String := ["kind", "server_name", "spki_sha256"]

def TrustWire.print (t : TrustWire) : Json :=
  .record [("kind", some (.string t.kind)), ("server_name", some (.string t.serverName)),
    ("spki_sha256", t.spkiSha256.map Json.string)]

def TrustWire.read (tree : Json) : Option TrustWire := do
  guard (tree.isRecord true trustNames)
  return {
    kind := ← (tree.field trustNames "kind").bind Json.asStr
    serverName := ← (tree.field trustNames "server_name").bind Json.asStr
    spkiSha256 := ← Json.optional Json.asStr (tree.field trustNames "spki_sha256") }

structure Hy2Wire where
  serverPort : BitVec 16
  authPassword : String
  obfsPassword : String
  obfs : ObfsWire
  trust : TrustWire

def hy2Names : List String := ["server_port", "auth_password", "obfs_password", "obfs", "trust"]

def Hy2Wire.print (h : Hy2Wire) : Json :=
  .record [("server_port", some (.unsigned h.serverPort)),
    ("auth_password", some (.string h.authPassword)),
    ("obfs_password", some (.string h.obfsPassword)), ("obfs", some h.obfs.print),
    ("trust", some h.trust.print)]

def Hy2Wire.read (tree : Json) : Option Hy2Wire := do
  guard (tree.isRecord true hy2Names)
  return {
    serverPort := ← (tree.field hy2Names "server_port").bind (Json.asUnsigned 16)
    authPassword := ← (tree.field hy2Names "auth_password").bind Json.asStr
    obfsPassword := ← (tree.field hy2Names "obfs_password").bind Json.asStr
    obfs := ← (tree.field hy2Names "obfs").bind ObfsWire.read
    trust := ← (tree.field hy2Names "trust").bind TrustWire.read }

structure RealityWire where
  serverPort : BitVec 16
  uuid : String
  shortId : String
  targetDomain : String
  publicKey : String
  flow : String

def realityNames : List String :=
  ["server_port", "uuid", "short_id", "target_domain", "public_key", "flow"]

def RealityWire.print (r : RealityWire) : Json :=
  .record [("server_port", some (.unsigned r.serverPort)), ("uuid", some (.string r.uuid)),
    ("short_id", some (.string r.shortId)), ("target_domain", some (.string r.targetDomain)),
    ("public_key", some (.string r.publicKey)), ("flow", some (.string r.flow))]

def RealityWire.read (tree : Json) : Option RealityWire := do
  guard (tree.isRecord true realityNames)
  return {
    serverPort := ← (tree.field realityNames "server_port").bind (Json.asUnsigned 16)
    uuid := ← (tree.field realityNames "uuid").bind Json.asStr
    shortId := ← (tree.field realityNames "short_id").bind Json.asStr
    targetDomain := ← (tree.field realityNames "target_domain").bind Json.asStr
    publicKey := ← (tree.field realityNames "public_key").bind Json.asStr
    flow := ← (tree.field realityNames "flow").bind Json.asStr }

structure SessionWire where
  devicePrivateKey : String
  serverPublicKey : String
  deviceAddress : Ipv4Addr
  sessionPort : BitVec 16

def sessionNames : List String :=
  ["device_private_key", "server_public_key", "device_address", "session_port"]

def SessionWire.print (s : SessionWire) : Json :=
  .record [("device_private_key", some (.string s.devicePrivateKey)),
    ("server_public_key", some (.string s.serverPublicKey)),
    ("device_address", some (printAddress s.deviceAddress)),
    ("session_port", some (.unsigned s.sessionPort))]

def SessionWire.read (tree : Json) : Option SessionWire := do
  guard (tree.isRecord true sessionNames)
  return {
    devicePrivateKey := ← (tree.field sessionNames "device_private_key").bind Json.asStr
    serverPublicKey := ← (tree.field sessionNames "server_public_key").bind Json.asStr
    deviceAddress := ← (tree.field sessionNames "device_address").bind readAddress
    sessionPort := ← (tree.field sessionNames "session_port").bind (Json.asUnsigned 16) }

structure StoredWire where
  version : BitVec 32
  measureOrigin : Option String
  amneziawg : Option AwgWire
  hysteria2 : Option Hy2Wire
  reality : Option RealityWire
  session : Option SessionWire

def storedNames : List String :=
  ["version", "measure_origin", "amneziawg", "hysteria2", "reality", "session"]

def StoredWire.print (w : StoredWire) : Json :=
  .record [("version", some (.unsigned w.version)), ("measure_origin", w.measureOrigin.map Json.string),
    ("amneziawg", w.amneziawg.map AwgWire.print), ("hysteria2", w.hysteria2.map Hy2Wire.print),
    ("reality", w.reality.map RealityWire.print), ("session", w.session.map SessionWire.print)]

def StoredWire.read (tree : Json) : Option StoredWire := do
  guard (tree.isRecord true storedNames)
  return {
    version := ← (tree.field storedNames "version").bind (Json.asUnsigned 32)
    measureOrigin := ← Json.optional Json.asStr (tree.field storedNames "measure_origin")
    amneziawg := ← Json.optional AwgWire.read (tree.field storedNames "amneziawg")
    hysteria2 := ← Json.optional Hy2Wire.read (tree.field storedNames "hysteria2")
    reality := ← Json.optional RealityWire.read (tree.field storedNames "reality")
    session := ← Json.optional SessionWire.read (tree.field storedNames "session") }

/-- Only the version, whatever else there is. -/
def readVersion (tree : Json) : Option (BitVec 32) := do
  guard (tree.isRecord false ["version"])
  (tree.field ["version"] "version").bind (Json.asUnsigned 32)

theorem ObfuscationParams.read_print (o : ObfuscationParams) : read o.print = some o := by
  have shape : o.print.isRecord true obfuscationNames = true := by
    apply Json.isRecord_record
    · rfl
    · decide
  rw [read, shape]
  simp [print]

theorem readAddress_printAddress (address : Ipv4Addr) :
    readAddress (printAddress address) = some address := by
  rw [readAddress, printAddress, Json.asStr_string, Option.bind_some, String.toList_ofList]
  exact parseIpv4_printIpv4 address

theorem AwgWire.read_print (a : AwgWire) : read a.print = some a := by
  have shape : a.print.isRecord true awgNames = true := by
    apply Json.isRecord_record
    · rfl
    · decide
  rw [read, shape]
  simp [print, readAddress_printAddress, ObfuscationParams.read_print]

theorem ObfsWire.read_print (o : ObfsWire) : read o.print = some o := by
  have shape : o.print.isRecord true obfsNames = true := by
    apply Json.isRecord_record
    · rfl
    · decide
  rw [read, shape]
  simp [print, Json.optional_map Json.asUnsigned_unsigned rfl]

theorem TrustWire.read_print (t : TrustWire) : read t.print = some t := by
  have shape : t.print.isRecord true trustNames = true := by
    apply Json.isRecord_record
    · rfl
    · decide
  rw [read, shape]
  simp [print, Json.optional_map Json.asStr_string rfl]

theorem Hy2Wire.read_print (h : Hy2Wire) : read h.print = some h := by
  have shape : h.print.isRecord true hy2Names = true := by
    apply Json.isRecord_record
    · rfl
    · decide
  rw [read, shape]
  simp [print, ObfsWire.read_print, TrustWire.read_print]

theorem RealityWire.read_print (r : RealityWire) : read r.print = some r := by
  have shape : r.print.isRecord true realityNames = true := by
    apply Json.isRecord_record
    · rfl
    · decide
  rw [read, shape]
  simp [print]

theorem SessionWire.read_print (s : SessionWire) : read s.print = some s := by
  have shape : s.print.isRecord true sessionNames = true := by
    apply Json.isRecord_record
    · rfl
    · decide
  rw [read, shape]
  simp [print, readAddress_printAddress]

theorem StoredWire.read_print (w : StoredWire) : read w.print = some w := by
  have shape : w.print.isRecord true storedNames = true := by
    apply Json.isRecord_record
    · rfl
    · decide
  rw [read, shape]
  simp [print, Json.optional_map Json.asStr_string rfl, Json.optional_map AwgWire.read_print rfl,
    Json.optional_map Hy2Wire.read_print rfl, Json.optional_map RealityWire.read_print rfl,
    Json.optional_map SessionWire.read_print rfl]

theorem StoredWire.readVersion_print (w : StoredWire) : readVersion w.print = some w.version := by
  have shape : w.print.isRecord false ["version"] = true := by
    apply Json.isRecord_ignoring
    show storedNames.Nodup
    decide
  rw [readVersion, shape]
  simp [print]

theorem ObfuscationParams.print_isValue (o : ObfuscationParams) : o.print.IsValue := by
  apply Json.IsValue.record
  · show obfuscationNames.Nodup
    decide
  · simp

theorem AwgWire.print_isValue (a : AwgWire) : a.print.IsValue := by
  apply Json.IsValue.record
  · show awgNames.Nodup
    decide
  · simp [printAddress, ObfuscationParams.print_isValue]

theorem ObfsWire.print_isValue (o : ObfsWire) : o.print.IsValue := by
  apply Json.IsValue.record
  · show obfsNames.Nodup
    decide
  · simp

theorem TrustWire.print_isValue (t : TrustWire) : t.print.IsValue := by
  apply Json.IsValue.record
  · show trustNames.Nodup
    decide
  · simp

theorem Hy2Wire.print_isValue (h : Hy2Wire) : h.print.IsValue := by
  apply Json.IsValue.record
  · show hy2Names.Nodup
    decide
  · simp [ObfsWire.print_isValue, TrustWire.print_isValue]

theorem RealityWire.print_isValue (r : RealityWire) : r.print.IsValue := by
  apply Json.IsValue.record
  · show realityNames.Nodup
    decide
  · simp

theorem SessionWire.print_isValue (s : SessionWire) : s.print.IsValue := by
  apply Json.IsValue.record
  · show sessionNames.Nodup
    decide
  · simp [printAddress]

theorem StoredWire.print_isValue (w : StoredWire) : w.print.IsValue := by
  apply Json.IsValue.record
  · show storedNames.Nodup
    decide
  · simp [AwgWire.print_isValue, Hy2Wire.print_isValue, RealityWire.print_isValue,
      SessionWire.print_isValue]

end Wire

section Conversion

def hexEncode (pin : BitVec 256) : String := hexPadded 64 pin.toNat

def hexDecode32 (text : String) : Option (BitVec 256) :=
  if isLowerHex text.toList 64 then (hexNumber 0 text.toList).map (BitVec.ofNat 256) else none

def AmneziaWgCredentials.toWire (a : AmneziaWgCredentials) : AwgWire where
  clientPrivateKey := a.clientPrivateKey.material
  serverPublicKey := a.serverPublicKey
  clientAddress := a.clientAddress
  prefixLen := a.prefixLen
  obfuscation := a.obfuscation
  serverPort := a.serverPort

def AwgWire.credentials (a : AwgWire) : AmneziaWgCredentials where
  clientPrivateKey := ⟨a.clientPrivateKey⟩
  serverPublicKey := a.serverPublicKey
  clientAddress := a.clientAddress
  prefixLen := a.prefixLen
  obfuscation := a.obfuscation
  serverPort := a.serverPort

def Hysteria2Obfs.toWire : Hysteria2Obfs → ObfsWire
  | .salamander => ⟨"salamander", none, none⟩
  | .gecko minPacketSize maxPacketSize => ⟨"gecko", some minPacketSize, some maxPacketSize⟩

def ObfsWire.obfs (o : ObfsWire) : Except CredentialsError Hysteria2Obfs :=
  match o.kind, o.minPacketSize, o.maxPacketSize with
  | "salamander", none, none => .ok .salamander
  | "gecko", some minPacketSize, some maxPacketSize => .ok (.gecko minPacketSize maxPacketSize)
  | _, _, _ => .error (.invalid "Hysteria 2 obfuscation")

def ServerTrust.toWire : ServerTrust → TrustWire
  | .publicCa serverName => ⟨"public_ca", serverName, none⟩
  | .pinnedPublicKey serverName spkiSha256 =>
    ⟨"pinned_public_key", serverName, some (hexEncode spkiSha256)⟩

def TrustWire.trust (t : TrustWire) : Except CredentialsError ServerTrust :=
  match t.kind, t.spkiSha256 with
  | "public_ca", none => .ok (.publicCa t.serverName)
  | "pinned_public_key", some pin =>
    (orError (.invalid "Hysteria 2 certificate pin") (hexDecode32 pin)).map
      (.pinnedPublicKey t.serverName)
  | _, _ => .error (.invalid "Hysteria 2 certificate trust")

def Hysteria2Bundle.toWire (h : Hysteria2Bundle) : Hy2Wire where
  serverPort := h.serverPort
  authPassword := h.authPassword.material
  obfsPassword := h.obfsPassword.material
  obfs := h.obfs.toWire
  trust := h.trust.toWire

def Hy2Wire.bundle (h : Hy2Wire) : Except CredentialsError Hysteria2Bundle := do
  let obfs ← h.obfs.obfs
  let trust ← h.trust.trust
  return ⟨h.serverPort, ⟨h.authPassword⟩, ⟨h.obfsPassword⟩, obfs, trust⟩

def VlessFlow.wire : VlessFlow → String
  | .none => "none"
  | .vision => "xtls-rprx-vision"

def RealityBundle.toWire (r : RealityBundle) : RealityWire where
  serverPort := r.serverPort
  uuid := r.uuid.material
  shortId := r.shortId.material
  targetDomain := r.targetDomain.name
  publicKey := r.publicKey.text
  flow := r.flow.wire

def readFlow : String → Except CredentialsError VlessFlow
  | "none" => .ok .none
  | "xtls-rprx-vision" => .ok .vision
  | _ => .error (.invalid "REALITY flow")

def RealityWire.bundle (r : RealityWire) : Except CredentialsError RealityBundle := do
  let flow ← readFlow r.flow
  let targetDomain ← (TargetDomain.parse r.targetDomain).mapError
    (fun _ => .invalid "REALITY target domain")
  let publicKey ← orError (.invalid "REALITY public key") (RealityPublicKey.parse r.publicKey)
  return ⟨r.serverPort, ⟨r.uuid⟩, ⟨r.shortId⟩, targetDomain, publicKey, flow⟩

def SessionBundle.toWire (s : SessionBundle) : SessionWire where
  devicePrivateKey := s.devicePrivateKey.material
  serverPublicKey := s.serverPublicKey
  deviceAddress := s.deviceAddress
  sessionPort := s.sessionPort

def SessionWire.bundle (s : SessionWire) : SessionBundle where
  devicePrivateKey := ⟨s.devicePrivateKey⟩
  serverPublicKey := s.serverPublicKey
  deviceAddress := s.deviceAddress
  sessionPort := s.sessionPort

namespace EndpointCredentials

/-- The bundle under the lowest version that can hold it. -/
def toWire (credentials : EndpointCredentials) : StoredWire where
  version := BitVec.ofNat 32 (if credentials.session.isSome then formatVersion else oldestVersion)
  measureOrigin := credentials.measureOrigin.map Origin.display
  amneziawg := credentials.amneziawg.map AmneziaWgCredentials.toWire
  hysteria2 := credentials.hysteria2.map Hysteria2Bundle.toWire
  reality := credentials.reality.map RealityBundle.toWire
  session := credentials.session.map SessionBundle.toWire

def readSection {Wire Section : Type} (read : Wire → Except CredentialsError Section) :
    Option Wire → Except CredentialsError (Option Section)
  | none => .ok none
  | some wire => (read wire).map some

def readOrigin (text : String) : Except CredentialsError Origin :=
  (Origin.parse text).mapError (fun _ => .invalid "measurement origin")

def ofWire (wire : StoredWire) : Except CredentialsError EndpointCredentials := do
  let hysteria2 ← readSection Hy2Wire.bundle wire.hysteria2
  let reality ← readSection RealityWire.bundle wire.reality
  let measureOrigin ← readSection readOrigin wire.measureOrigin
  return {
    amneziawg := wire.amneziawg.map AwgWire.credentials
    hysteria2
    reality
    session := wire.session.map SessionWire.bundle
    measureOrigin }

variable {Text : Type} (serde : SerdeJson Text)

/-- The stored form, with the secrets in clear. -/
def toPlaintextJson (credentials : EndpointCredentials) : Except CredentialsError Text := do
  credentials.validate
  return serde.toText credentials.toWire.print

def readForm {Form : Type} (expected : String) (read : Json → Option Form) (text : Text) :
    Except CredentialsError Form :=
  orError (.malformed (serde.problem expected text)) ((serde.parse text).toOption.bind read)

def readWire (wire : StoredWire) : Except CredentialsError EndpointCredentials := do
  -- Such a form was not written by this code.
  if wire.version.toNat < 2 ∧ wire.session.isSome then
    .error (.malformed "a version 1 form holds a session")
  else
    let bundle ← ofWire wire
    bundle.validate
    return bundle

/-- Read the stored form. The version comes first, so that a later format is named as such. -/
def fromPlaintextJson (text : Text) : Except CredentialsError EndpointCredentials := do
  if maxStoredLen < serde.len text then .error .tooLarge
  else
    let version ← readForm serde "VersionProbe" readVersion text
    if ¬ (oldestVersion ≤ version.toNat ∧ version.toNat ≤ formatVersion) then
      .error (.unsupportedVersion version.toNat)
    else
      let wire ← readForm serde "Wire" StoredWire.read text
      readWire wire

end EndpointCredentials

theorem hexDecode32_hexEncode (pin : BitVec 256) : hexDecode32 (hexEncode pin) = some pin := by
  have read := hexNumber_hexDigits 64 pin.toNat 0 []
  have small : pin.toNat % 16^64 = pin.toNat := Nat.mod_eq_of_lt pin.isLt
  rw [List.append_nil, small] at read
  rw [hexDecode32, hexEncode, hexPadded, String.toList_ofList, isLowerHex_hexDigits, read]
  simp [hexNumber]

theorem Hysteria2Obfs.obfs_toWire (o : Hysteria2Obfs) : o.toWire.obfs = .ok o := by
  cases o <;> rfl

theorem ServerTrust.trust_toWire (t : ServerTrust) : t.toWire.trust = .ok t := by
  cases t with
  | publicCa => rfl
  | pinnedPublicKey _ pin =>
    have pinned := hexDecode32_hexEncode pin
    simp only [toWire, TrustWire.trust, pinned]
    rfl

theorem Hysteria2Bundle.bundle_toWire (h : Hysteria2Bundle) : h.toWire.bundle = .ok h := by
  rw [Hy2Wire.bundle, toWire, Hysteria2Obfs.obfs_toWire, ServerTrust.trust_toWire]
  rfl

theorem TargetDomain.parse_name (domain : TargetDomain) :
    TargetDomain.parse domain.name = .ok domain := by
  obtain ⟨name, accepted⟩ := domain
  unfold parse
  split
  next refused => cases refused.symm.trans accepted
  next again =>
    cases again.symm.trans accepted
    rfl

theorem RealityPublicKey.parse_text (key : RealityPublicKey) :
    RealityPublicKey.parse key.text = some key :=
  dif_pos key.sized

theorem RealityBundle.bundle_toWire (r : RealityBundle) : r.toWire.bundle = .ok r := by
  have flow : readFlow r.flow.wire = .ok r.flow := by cases r.flow <;> rfl
  rw [RealityWire.bundle, toWire, flow, TargetDomain.parse_name, RealityPublicKey.parse_text]
  rfl

theorem EndpointCredentials.readSection_map {Wire Section : Type}
    {read : Wire → Except CredentialsError Section} {write : Section → Wire}
    (reads : ∀ part, read (write part) = .ok part) (part : Option Section) :
    readSection read (part.map write) = .ok part := by
  cases part with
  | none => rfl
  | some =>
    rw [Option.map_some, readSection, reads]
    rfl

theorem EndpointCredentials.ofWire_toWire (credentials : EndpointCredentials) :
    ofWire credentials.toWire = .ok credentials := by
  have origin (origin : Origin) : readOrigin origin.display = .ok origin := by
    rw [readOrigin, Origin.parse_display]
    rfl
  have awg : (credentials.amneziawg.map AmneziaWgCredentials.toWire).map AwgWire.credentials =
      credentials.amneziawg := by
    cases credentials.amneziawg <;> rfl
  have session : (credentials.session.map SessionBundle.toWire).map SessionWire.bundle =
      credentials.session := by
    cases credentials.session <;> rfl
  simp only [ofWire, toWire, readSection_map Hysteria2Bundle.bundle_toWire,
    readSection_map RealityBundle.bundle_toWire, readSection_map origin, awg, session]
  rfl

end Conversion

section Reading

variable {Text : Type} {serde : SerdeJson Text} {credentials : EndpointCredentials}

namespace EndpointCredentials

theorem readWire_toWire (valid : credentials.validate = .ok ()) :
    readWire credentials.toWire = .ok credentials := by
  have held : ¬ (credentials.toWire.version.toNat < 2 ∧ credentials.toWire.session.isSome) := by
    rintro ⟨old, some_⟩
    cases session : credentials.session with
    | none => simp [toWire, session] at some_
    | some => simp [toWire, session, formatVersion] at old
  rw [readWire, if_neg held, ofWire_toWire]
  apply bind_ok.mpr
  refine ⟨credentials, rfl, ?_⟩
  rw [valid]
  rfl

theorem readForm_toText {Form : Type} {expected : String} {read : Json → Option Form} {tree : Json}
    {form : Form} (reads : read tree = some form) :
    readForm serde expected read (serde.toText tree) = .ok form := by
  rw [readForm, serde.parse_toText]
  exact orError_ok.mpr reads

theorem fromPlaintextJson_print {wire : StoredWire}
    (known : oldestVersion ≤ wire.version.toNat ∧ wire.version.toNat ≤ formatVersion) :
    fromPlaintextJson serde (serde.toText wire.print) =
      if maxStoredLen < serde.len (serde.toText wire.print) then .error .tooLarge
      else readWire wire := by
  rw [fromPlaintextJson]
  split
  · rfl
  · rw [readForm_toText (StoredWire.readVersion_print wire), ok_bind, if_neg (not_not.mpr known),
      readForm_toText (StoredWire.read_print wire), ok_bind]

theorem fromPlaintextJson_toPlaintextJson {text : Text}
    (stored : credentials.toPlaintextJson serde = .ok text) :
    fromPlaintextJson serde text =
      if maxStoredLen < serde.len text then .error .tooLarge else .ok credentials := by
  obtain ⟨_, valid, printed⟩ := bind_ok.mp stored
  cases printed
  have known : oldestVersion ≤ credentials.toWire.version.toNat ∧
      credentials.toWire.version.toNat ≤ formatVersion := by
    cases session : credentials.session <;> simp [toWire, session, oldestVersion, formatVersion]
  rw [fromPlaintextJson_print known, readWire_toWire valid]

end EndpointCredentials

end Reading

end DnetEngine
