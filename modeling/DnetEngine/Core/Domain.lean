import DnetEngine.Lib.Hex

/-! The entities the connection engine reasons about: identifiers, moments, failover tiers,
profiles, and the causes and events of a session. -/

namespace DnetEngine

open Lib

/-- Nanoseconds since an arbitrary start. -/
abbrev Instant := Nat
/-- Nanoseconds. -/
abbrev Duration := Nat

namespace Duration

def ofMillis (n : Nat) : Duration := n * 1000000
def ofSecs (n : Nat) : Duration := n * 1000000000
def asMillis (d : Duration) : Nat := d / 1000000

/-- `u64::MAX` seconds and 999 999 999 nanoseconds. -/
def maximum : Duration := 2^64 * 1000000000 - 1

end Duration

def u32Max : Nat := 2^32 - 1
def u64Max : Nat := 2^64 - 1

/-- `saturating_add(1)` on a `u32`. -/
def saturatingSucc (n : Nat) : Nat := min (n + 1) u32Max

/-- `saturating_add` on a `u64`. -/
def saturatingAdd (n m : Nat) : Nat := min (n + m) u64Max

/-- `x * scale` to the nearest integer, ties to the even one, from the bits of the double `x`;
`none` when `x` is not finite. -/
def roundScaled (x : Float) (scale : Nat) : Option Int :=
  let bits := x.toBits.toNat
  let exponent := bits / 2^52 % 2^11
  if exponent = 2047 then none
  else
    let mantissa := if exponent = 0 then bits % 2^52 else 2^52 + bits % 2^52
    let numerator := mantissa * scale * 2^(max exponent 1 - 1075)
    let denominator := 2^(1075 - max exponent 1)
    let quotient := numerator / denominator
    let doubled := 2 * (numerator % denominator)
    let rounded : Nat :=
      if doubled < denominator ∨ (doubled = denominator ∧ quotient % 2 = 0) then quotient
      else quotient + 1
    some (if bits / 2^63 = 1 then -(rounded : Int) else rounded)

/-- `{x:.1}`. -/
def formatTenths (x : Float) : String :=
  match roundScaled x 10 with
  | none => toString x
  | some tenths =>
    (if tenths < 0 then "-" else "") ++ toString (tenths.natAbs / 10) ++ "." ++
      toString (tenths.natAbs % 10)

namespace Duration

def asSecsF64 (d : Duration) : Float :=
  Float.ofNat (d / 1000000000) + Float.ofNat (d % 1000000000) / 1000000000.0

/-- `None` where `from_secs_f64` panics: a negative, overlarge or non-finite number of seconds. -/
def fromSecsF64 (x : Float) : Option Duration := do
  if x < 0 then none
  let nanos ← roundScaled x 1000000000
  if nanos.toNat ≤ maximum then some nanos.toNat else none

end Duration

structure ProfileId where
  name : String
  deriving DecidableEq

/-- The hyphenated form of a UUID. -/
def displayUuid (uuid : BitVec 128) : String :=
  let n := uuid.toNat
  hexPadded 8 (n / 2^96) ++ "-" ++ hexPadded 4 (n / 2^80) ++ "-" ++ hexPadded 4 (n / 2^64) ++
    "-" ++ hexPadded 4 (n / 2^48) ++ "-" ++ hexPadded 12 n

/-- A UUID from its hyphenated form, in either case. -/
def parseUuid (text : List Char) : Option (BitVec 128) :=
  match text.splitOn '-' with
  | [a, b, c, d, e] =>
    if a.length = 8 ∧ b.length = 4 ∧ c.length = 4 ∧ d.length = 4 ∧ e.length = 12 then
      (hexNumber 0 (a ++ b ++ c ++ d ++ e)).map (BitVec.ofNat 128)
    else none
  | _ => none

theorem parseUuid_displayUuid (uuid : BitVec 128) :
    parseUuid (displayUuid uuid).toList = some uuid := by
  let groups := [hexDigits 8 (uuid.toNat / 2^96), hexDigits 4 (uuid.toNat / 2^80),
    hexDigits 4 (uuid.toNat / 2^64), hexDigits 4 (uuid.toNat / 2^48), hexDigits 12 uuid.toNat]
  have text : (displayUuid uuid).toList = List.intercalate ['-'] groups := by
    simp [groups, displayUuid, hexPadded]
  have parts : (List.intercalate ['-'] groups).splitOn '-' = groups := by
    apply List.splitOn_intercalate
    · simp [groups, hyphen_notMem_hexDigits]
    · simp [groups]
  have number : (((uuid.toNat / 2^96 % 16^8 * 16^4 + uuid.toNat / 2^80 % 16^4) * 16^4 +
      uuid.toNat / 2^64 % 16^4) * 16^4 + uuid.toNat / 2^48 % 16^4) * 16^12 +
        uuid.toNat % 16^12 = uuid.toNat := by
    omega
  have last := hexNumber_hexDigits 12 uuid.toNat
    (((uuid.toNat / 2^96 % 16^8 * 16^4 + uuid.toNat / 2^80 % 16^4) * 16^4 +
      uuid.toNat / 2^64 % 16^4) * 16^4 + uuid.toNat / 2^48 % 16^4) []
  rw [number, List.append_nil] at last
  rw [parseUuid, text, parts]
  simp only [groups, List.append_assoc, hexNumber_hexDigits,
    Nat.zero_mul, Nat.zero_add, last]
  simp [hexNumber]

structure EndpointId where
  uuid : BitVec 128
  deriving DecidableEq

structure InterfaceId where
  luid : UInt64
  deriving DecidableEq

namespace EndpointId

def display (id : EndpointId) : String := displayUuid id.uuid

end EndpointId

def brutalWarningRevision : Nat := 1

def maxBrutalMbps : Nat := 1000000

inductive FailoverTier
  | tier1
  | tier2
  deriving DecidableEq

/-- `Tier1 < Tier2`: the least is the preferred. -/
def FailoverTier.ord : FailoverTier → Nat
  | .tier1 => 0
  | .tier2 => 1

inductive CoreBinding
  | primaryCore
  | amneziaWgCore
  deriving DecidableEq

inductive ProfileKind
  | amneziaWg
  | hysteria2
  | vlessReality
  deriving DecidableEq

def ProfileKind.proxyProbeable : ProfileKind → Bool
  | .amneziaWg => false
  | .hysteria2 | .vlessReality => true

/-- Every profile this build defines, in seeding order. -/
def bundledProfiles : List (String × ProfileKind) :=
  [("awg-default", .amneziaWg), ("hy2-default", .hysteria2), ("reality-default", .vlessReality)]

def bundledKind (id : String) : Option ProfileKind :=
  (bundledProfiles.find? (fun entry => entry.1 == id)).map Prod.snd

inductive Viability
  | untested
  | working (measuredAt : Instant)
  | blocked (measuredAt : Instant) (reason : String)
  deriving DecidableEq

def Viability.isBlocked : Viability → Bool
  | .blocked _ _ => true
  | .untested | .working _ => false

structure ConnectionProfile where
  id : ProfileId
  kind : ProfileKind
  tier : FailoverTier
  viability : Viability
  deriving DecidableEq

namespace ConnectionProfile

def resetViability (p : ConnectionProfile) : ConnectionProfile :=
  { p with viability := .untested }

def markWorking (p : ConnectionProfile) (measuredAt : Instant) : ConnectionProfile :=
  { p with viability := .working measuredAt }

def markBlocked (p : ConnectionProfile) (measuredAt : Instant) (reason : String) :
    ConnectionProfile :=
  { p with viability := .blocked measuredAt reason }

end ConnectionProfile

inductive FailureCause
  | noEndpointReachable
  | allProfilesBlocked
  | captivePortalUnsatisfied
  | insufficientPrivilege
  | coreFailedPersistently (core : CoreBinding)
  | noUsablePath
  | configurationInvalid (detail : String)
  deriving DecidableEq

inductive QualityBand
  | unusable
  | poor
  | good
  deriving DecidableEq

/-- `Unusable < Poor < Good`. -/
def QualityBand.ord : QualityBand → Nat
  | .unusable => 0
  | .poor => 1
  | .good => 2

inductive NoMove
  | onlyPath
  | noBetterPath
  | proving
  | dwell
  | budget
  deriving DecidableEq

structure Degradation where
  path : InterfaceId
  band : QualityBand
  staying : NoMove
  deriving DecidableEq

inductive Change
  | degraded (d : Degradation)
  | recovered (path : InterfaceId)
  deriving DecidableEq

inductive CheckFailure
  | unreachable
  | refused
  deriving DecidableEq

inductive DefinitionsChange
  | updated (sequence endpointUpdates : Nat)
  | evicted
  | outOfDate
  | discarded
  | checkFailed (reason : CheckFailure)
  deriving DecidableEq

inductive ConnectionEvent
  | probeStarted
  | profileSelected (profile : ProfileId) (because : String)
  | profileBlocked (profile : ProfileId) (reason : String)
  | endpointMigrated (source target : EndpointId) (because : String)
  | pathChanged (source : Option InterfaceId) (target : InterfaceId) (tierAtTime : FailoverTier)
  | degraded (path : InterfaceId) (band : QualityBand) (staying : NoMove)
  | recovered (path : InterfaceId)
  | coreRestarted (core : CoreBinding) (attempt : Nat)
  | definitionsChanged (change : DefinitionsChange)
  | failed (cause : FailureCause)
  deriving DecidableEq

end DnetEngine
