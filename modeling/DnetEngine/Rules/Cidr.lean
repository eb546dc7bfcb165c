import DnetEngine.Lib.IpRoundTrip

/-! Address ranges: how they are written and read, and which addresses they hold. -/

namespace DnetEngine

open Lib

inductive DomainError
  | invalidCidr (text : String)
  | emptyPattern
  | invalidDomainPattern (pattern : String)
  | precedenceCollision (precedence : Nat)
  | missingDnsCapture
  | dnsPortRequiresCapture
  | encryptedDnsPortRequiresReject
  | rejectIsBuiltinOnly
  | rangeInsideFakeIpPool (range : String)
  | notAPersonalRule
  | builtinRuleMissing (name : String)
  | emptyHost
  | zeroPort
  | invalidLabel (length : Nat)
  | brutalRequiresHysteria2
  | brutalNotAcknowledged
  | encryptedDnsBlockLeftBehind
  | outranksEncryptedDnsBlock (precedence start : Nat)
  | userRuleOutranksBuiltins (precedence start : Nat)
  deriving DecidableEq

/-- The prefix length of a single address. -/
def hostBits : IpAddr → Nat
  | .v4 _ => 32
  | .v6 _ => 128

structure IpCidr where
  addr : IpAddr
  prefixLen : Nat
  bound : prefixLen ≤ hostBits addr
  deriving DecidableEq

def checkedShl {width : Nat} (value : BitVec width) (shift : Nat) : Option (BitVec width) :=
  if shift < width then some (value <<< shift) else none

/-- Two addresses agree in their leading `shared` bits, by mask. -/
def sameUnderMask {width count : Nat} (shared : Nat) (a b : Groups width count) : Bool :=
  let size := width * count
  let mask := (checkedShl (BitVec.allOnes size) (size - shared)).getD 0
  a.bits &&& mask == b.bits &&& mask

namespace IpCidr

def text (addr : IpAddr) (prefixLen : Nat) : List Char :=
  printIpAddr addr ++ '/' :: decimal prefixLen

def display (cidr : IpCidr) : String := String.ofList (text cidr.addr cidr.prefixLen)

def parse (s : String) : Except DomainError IpCidr :=
  match splitOnce '/' s.toList with
  | none => .error (.invalidCidr s)
  | some (addrStr, prefixStr) =>
    match parseIpAddr addrStr with
    | none => .error (.invalidCidr s)
    | some addr =>
      match parseUnsigned 256 prefixStr with
      | none => .error (.invalidCidr s)
      | some prefixLen =>
        if bound : prefixLen ≤ hostBits addr then .ok ⟨addr, prefixLen, bound⟩
        else .error (.invalidCidr s)

/-- Whether the two blocks share any address. -/
def overlaps (cidr other : IpCidr) : Bool :=
  let shared := min cidr.prefixLen other.prefixLen
  match cidr.addr, other.addr with
  | .v4 a, .v4 b => sameUnderMask shared a b
  | .v6 a, .v6 b => sameUnderMask shared a b
  | .v4 _, .v6 _ | .v6 _, .v4 _ => false

/-- The block of one address. -/
def host (addr : IpAddr) : IpCidr := ⟨addr, hostBits addr, le_refl _⟩

theorem hostBits_lt (addr : IpAddr) : hostBits addr < 256 := by
  cases addr <;> simp [hostBits]

theorem parse_text (cidr : IpCidr) :
    parse (String.ofList (text cidr.addr cidr.prefixLen)) = .ok cidr := by
  have small : cidr.prefixLen < 256 := lt_of_le_of_lt cidr.bound (hostBits_lt cidr.addr)
  simp only [parse, text, String.toList_ofList,
    splitOnce_append '/' _ _ (slash_notMem_printIpAddr cidr.addr), parseIpAddr_printIpAddr,
    parseUnsigned_decimal 256 cidr.prefixLen small, dif_pos cidr.bound]

theorem parse_host (addr : IpAddr) :
    parse (String.ofList (text addr (hostBits addr))) = .ok (host addr) := parse_text (host addr)

theorem parse_display (cidr : IpCidr) : parse cidr.display = .ok cidr := parse_text cidr

end IpCidr

/-- The mask keeps the leading bits: two words agree under it just when they agree once shifted
down to those bits. -/
theorem and_mask_eq_iff {size : Nat} (low : Nat) (a b : BitVec size) :
    (a &&& ((checkedShl (BitVec.allOnes size) low).getD 0) =
        b &&& ((checkedShl (BitVec.allOnes size) low).getD 0)) ↔ a >>> low = b >>> low := by
  have masked (i : Nat) (word : BitVec size) :
      (word &&& ((checkedShl (BitVec.allOnes size) low).getD 0)).getLsbD i =
        (decide (low ≤ i) && word.getLsbD i) := by
    unfold checkedShl
    split
    next inside =>
      by_cases bound : i < size
      · by_cases above : low ≤ i
        · simp [bound, above]
        · simp [above]
      · simp [BitVec.getLsbD_of_ge word i (by omega)]
    next outside =>
      by_cases above : low ≤ i
      · simp [BitVec.getLsbD_of_ge word i (by omega)]
      · simp [above]
  constructor
  · intro same
    apply BitVec.eq_of_getLsbD_eq
    intro i _
    have bit := congrArg (fun word => word.getLsbD (low + i)) same
    simpa only [masked, Nat.le_add_right, decide_true, Bool.true_and, BitVec.getLsbD_ushiftRight]
      using bit
  · intro same
    apply BitVec.eq_of_getLsbD_eq
    intro i _
    rw [masked, masked]
    by_cases above : low ≤ i
    · have bit := congrArg (fun word => word.getLsbD (i - low)) same
      simp only [BitVec.getLsbD_ushiftRight, Nat.add_sub_cancel' above] at bit
      rw [bit]
    · simp [above]

def leadingBits {width groups : Nat} (count : Nat) (addr : Groups width groups) :
    BitVec (width * groups) :=
  addr.bits >>> (width * groups - count)

/-- `addr` lies in the block: it is of the same family and begins with the same bits. -/
def IpCidr.holds (cidr : IpCidr) (addr : IpAddr) : Bool :=
  match cidr.addr, addr with
  | .v4 block, .v4 addr => leadingBits cidr.prefixLen block == leadingBits cidr.prefixLen addr
  | .v6 block, .v6 addr => leadingBits cidr.prefixLen block == leadingBits cidr.prefixLen addr
  | .v4 _, .v6 _ | .v6 _, .v4 _ => false

theorem sameUnderMask_eq {width groups : Nat} (shared : Nat) (a b : Groups width groups) :
    sameUnderMask shared a b = (leadingBits shared a == leadingBits shared b) := by
  rw [Bool.eq_iff_iff]
  simp only [sameUnderMask, beq_iff_eq]
  exact and_mask_eq_iff _ a.bits b.bits

theorem IpCidr.overlaps_host (cidr : IpCidr) (addr : IpAddr) :
    cidr.overlaps (host addr) = cidr.holds addr := by
  obtain ⟨block, prefixLen, bound⟩ := cidr
  cases block with
  | v4 =>
    cases addr with
    | v4 =>
      have shared : min prefixLen 32 = prefixLen := min_eq_left bound
      simp only [overlaps, host, hostBits, shared, holds, sameUnderMask_eq]
    | v6 => rfl
  | v6 =>
    cases addr with
    | v4 => rfl
    | v6 =>
      have shared : min prefixLen 128 = prefixLen := min_eq_left bound
      simp only [overlaps, host, hostBits, shared, holds, sameUnderMask_eq]

end DnetEngine
