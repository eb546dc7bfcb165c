import DnetEngine.Lib.IpRoundTrip
import Mathlib.Algebra.Ring.Nat

/-! Words that begin with the same bits, and the groups of bits a word is cut into. -/

namespace DnetEngine.Lib

section Words

variable {size : Nat}

theorem ushiftRight_eq_of_le {low high : Nat} {one two : BitVec size} (le : low ≤ high)
    (same : one >>> low = two >>> low) : one >>> high = two >>> high := by
  rw [← Nat.add_sub_of_le le, BitVec.shiftRight_add, BitVec.shiftRight_add, same]

theorem exists_turned (word : BitVec size) {low : Nat} (inside : low < size) :
    ∃ other : BitVec size, other >>> (low + 1) = word >>> (low + 1) ∧ other >>> low ≠ word >>> low := by
  refine ⟨word ^^^ BitVec.twoPow size low, ?_, ?_⟩
  · apply BitVec.eq_of_getLsbD_eq
    intro i _
    have above : low + 1 + i ≠ low := by omega
    simp [above.symm]
  · intro same
    have bit := congrArg (fun shifted => shifted.getLsbD 0) same
    simp [inside] at bit

end Words

namespace Groups

variable {width : Nat}

/-- The number that groups spell, the most significant first. -/
def number (groups : List (BitVec width)) : Nat :=
  groups.foldl (fun number group => number * 2 ^ width + group.toNat) 0

def cut (width : Nat) : (count number : Nat) → List (BitVec width)
  | 0, _ => []
  | count + 1, number => cut width count (number / 2 ^ width) ++ [BitVec.ofNat width number]

theorem length_cut (count number : Nat) : (cut width count number).length = count := by
  induction count generalizing number with
  | zero => rfl
  | succ _ ih => rw [cut, List.length_append, ih, List.length_singleton]

theorem number_cut (count n : Nat) : number (cut width count n) = n % 2 ^ (width * count) := by
  induction count generalizing n with
  | zero => rw [Nat.mul_zero, Nat.pow_zero, Nat.mod_one]; rfl
  | succ count ih =>
    have first : (cut width count (n / 2 ^ width)).foldl
        (fun number group => number * 2 ^ width + group.toNat) 0 =
          n / 2 ^ width % 2 ^ (width * count) := ih (n / 2 ^ width)
    calc number (cut width (count + 1) n)
        = n / 2 ^ width % 2 ^ (width * count) * 2 ^ width + n % 2 ^ width := by
          rw [number, cut, List.foldl_append, first]
          rfl
      _ = n % (2 ^ width * 2 ^ (width * count)) := by
          rw [Nat.mod_mul, Nat.mul_comm, Nat.add_comm]
      _ = n % 2 ^ (width * (count + 1)) := by
          rw [← Nat.pow_add, Nat.mul_succ, Nat.add_comm]

variable {count : Nat}

theorem exists_bits (word : BitVec (width * count)) :
    ∃ addr : Groups width count, addr.bits = word := by
  refine ⟨⟨cut width count word.toNat, length_cut count word.toNat⟩, ?_⟩
  calc BitVec.ofNat (width * count) (number (cut width count word.toNat))
      = BitVec.ofNat (width * count) word.toNat := by
        rw [number_cut, Nat.mod_eq_of_lt word.isLt]
    _ = word := by rw [BitVec.ofNat_toNat, BitVec.setWidth_eq]

theorem number_lt (groups : List (BitVec width)) : number groups < 2 ^ (width * groups.length) := by
  induction groups using List.reverseRecOn with
  | nil => simp [number]
  | append_singleton groups last ih =>
    rw [number, List.foldl_append, List.length_append, List.length_singleton, Nat.mul_succ, Nat.pow_add]
    have room : number groups * 2 ^ width + 2 ^ width ≤
        2 ^ (width * groups.length) * 2 ^ width := by
      rw [← Nat.succ_mul]
      exact Nat.mul_le_mul_right _ ih
    exact Nat.lt_of_lt_of_le (Nat.add_lt_add_left last.isLt _) room

theorem bits_toNat (addr : Groups width count) :
    addr.bits.toNat = number addr.groups := by
  have bound := number_lt addr.groups
  rw [addr.length_eq] at bound
  exact Nat.mod_eq_of_lt bound

theorem shifted_eq_iff (low : Nat) (one two : Groups width count) :
    one.bits >>> low = two.bits >>> low ↔
      number one.groups / 2 ^ low = number two.groups / 2 ^ low := by
  rw [← BitVec.toNat_inj, BitVec.toNat_ushiftRight, BitVec.toNat_ushiftRight, bits_toNat,
    bits_toNat, Nat.shiftRight_eq_div_pow, Nat.shiftRight_eq_div_pow]

end Groups

theorem toNat_zero_group : (0 : BitVec 16).toNat = 0 := rfl

theorem toNat_mark : (0xffff : BitVec 16).toNat = 0xffff := rfl

theorem toNat_halves (group : BitVec 16) :
    (group.extractLsb' 8 8).toNat * 256 + (group.extractLsb' 0 8).toNat = group.toNat := by
  simp only [BitVec.extractLsb'_toNat]
  omega

/-- An address in the form `::ffff:a.b.c.d` has the number of the one it stands for, and a mark. -/
theorem number_of_mapped {addr : Ipv6Addr} {mapped : Ipv4Addr}
    (found : toIpv4Mapped addr = some mapped) :
    Groups.number addr.groups = 0xffff * 2 ^ 32 + Groups.number mapped.groups := by
  obtain ⟨high, low, shape, rfl⟩ := toIpv4Mapped_some found
  have first := toNat_halves high
  have second := toNat_halves low
  rw [shape]
  simp only [Groups.number, Ipv4Addr.ofOctets, List.foldl_cons, List.foldl_nil,
    toNat_zero_group, toNat_mark]
  rw [← first, ← second]
  ring

/-- No other address has the mark. -/
theorem number_of_not_mapped {addr : Ipv6Addr} (plain : toIpv4Mapped addr = none) :
    Groups.number addr.groups / 2 ^ 32 ≠ 0xffff := by
  obtain ⟨groups, length⟩ := addr
  match groups, length with
  | [a, b, c, d, e, f, high, low], _ =>
    intro marked
    simp only [Groups.number, List.foldl_cons, List.foldl_nil] at marked
    have zero : a = 0 ∧ b = 0 ∧ c = 0 ∧ d = 0 ∧ e = 0 ∧ f = 0xffff := by
      simp only [← BitVec.toNat_inj, toNat_zero_group, toNat_mark]
      omega
    obtain ⟨rfl, rfl, rfl, rfl, rfl, rfl⟩ := zero
    simp [toIpv4Mapped] at plain

end DnetEngine.Lib
