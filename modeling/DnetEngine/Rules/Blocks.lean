import DnetEngine.Lib.Leading
import DnetEngine.Rules.Eval

/-! Address ranges as sets of addresses: when two meet, when one lies inside the other, and which of
a person's ranges hold nothing but placeholders. -/

namespace DnetEngine

open Lib

section Leading

variable {width groups : Nat}

variable {few many : Nat} {one two : Groups width groups}

theorem leadingBits_of_le (le : few ≤ many) (same : leadingBits many one = leadingBits many two) :
    leadingBits few one = leadingBits few two :=
  ushiftRight_eq_of_le (Nat.sub_le_sub_left le _) same

theorem exists_parting (addr : Groups width groups) {place : Nat}
    (inside : place < width * groups) :
    ∃ other : Groups width groups, leadingBits place addr = leadingBits place other ∧
      leadingBits (place + 1) addr ≠ leadingBits (place + 1) other := by
  have room : width * groups - (place + 1) < width * groups := by omega
  have step : width * groups - place = width * groups - (place + 1) + 1 := by omega
  obtain ⟨word, above, here⟩ := exists_turned addr.bits room
  obtain ⟨other, rfl⟩ := Groups.exists_bits word
  refine ⟨other, ?_, here.symm⟩
  rw [leadingBits, leadingBits, step]
  exact above.symm

/-- Two blocks meet just when the shorter of their beginnings is common. -/
theorem common_iff (one two : Groups width groups) :
    leadingBits (min few many) one = leadingBits (min few many) two ↔
      ∃ addr, leadingBits few one = leadingBits few addr ∧
        leadingBits many two = leadingBits many addr := by
  constructor
  · intro same
    rcases Nat.le_total few many with le | le
    · rw [min_eq_left le] at same
      exact ⟨two, same, rfl⟩
    · rw [min_eq_right le] at same
      exact ⟨one, rfl, same.symm⟩
  · rintro ⟨addr, first, second⟩
    exact (leadingBits_of_le (min_le_left _ _) first).trans
      (leadingBits_of_le (min_le_right _ _) second).symm

/-- A block lies in another just when it is no larger and begins like it. -/
theorem nested_iff (outer inner : Groups width groups) (bound : few ≤ width * groups) :
    (∀ addr, leadingBits many inner = leadingBits many addr →
        leadingBits few outer = leadingBits few addr) ↔
      leadingBits (min few many) outer = leadingBits (min few many) inner ∧ few ≤ many := by
  constructor
  · intro nested
    have begins := nested inner rfl
    refine ⟨leadingBits_of_le (min_le_left _ _) begins, ?_⟩
    by_contra larger
    obtain ⟨place, rfl⟩ : ∃ place, few = place + 1 := ⟨few - 1, by omega⟩
    obtain ⟨other, before, here⟩ := exists_parting inner (show place < width * groups by omega)
    have inside := nested other (leadingBits_of_le (by omega) before)
    exact here (begins.symm.trans inside)
  · rintro ⟨begins, le⟩ addr same
    rw [min_eq_left le] at begins
    exact begins.trans (leadingBits_of_le le same)

theorem no_larger_of_covered {count first second : Nat} {range : Groups width groups}
    (parted : leadingBits 1 one ≠ leadingBits 1 two) (long : 2 ≤ first) (alsoLong : 1 ≤ second)
    (bound : first ≤ width * groups) (begins : leadingBits first one = leadingBits first range)
    (covered : ∀ addr, leadingBits count range = leadingBits count addr →
      leadingBits first one = leadingBits first addr ∨
        leadingBits second two = leadingBits second addr) :
    first ≤ count := by
  by_contra larger
  obtain ⟨place, rfl⟩ : ∃ place, first = place + 1 := ⟨first - 1, by omega⟩
  obtain ⟨other, before, here⟩ := exists_parting range (show place < width * groups by omega)
  rcases covered other (leadingBits_of_le (by omega) before) with inOne | inTwo
  · exact here (begins.symm.trans inOne)
  · apply parted
    calc leadingBits 1 one = leadingBits 1 range := leadingBits_of_le (by omega) begins
      _ = leadingBits 1 other := leadingBits_of_le (by omega) before
      _ = leadingBits 1 two := (leadingBits_of_le alsoLong inTwo).symm

end Leading

variable {property : IpAddr → Prop}

theorem exists_ipAddr :
    (∃ ip, property ip) ↔ (∃ v4, property (.v4 v4)) ∨ ∃ v6, property (.v6 v6) := by
  constructor
  · rintro ⟨v4 | v6, holds⟩
    · exact Or.inl ⟨v4, holds⟩
    · exact Or.inr ⟨v6, holds⟩
  · rintro (⟨v4, holds⟩ | ⟨v6, holds⟩)
    · exact ⟨.v4 v4, holds⟩
    · exact ⟨.v6 v6, holds⟩

theorem forall_ipAddr :
    (∀ ip, property ip) ↔ (∀ v4, property (.v4 v4)) ∧ ∀ v6, property (.v6 v6) := by
  constructor
  · exact fun holds => ⟨fun v4 => holds (.v4 v4), fun v6 => holds (.v6 v6)⟩
  · rintro ⟨first, second⟩ (v4 | v6)
    · exact first v4
    · exact second v6

namespace IpCidr

theorem holds_addr (cidr : IpCidr) : cidr.holds cidr.addr = true := by
  obtain ⟨block, prefixLen, bound⟩ := cidr
  cases block <;> exact BEq.rfl

theorem overlaps_iff (one two : IpCidr) :
    one.overlaps two = true ↔ ∃ ip, one.holds ip = true ∧ two.holds ip = true := by
  obtain ⟨oneAddr, oneLen, oneBound⟩ := one
  obtain ⟨twoAddr, twoLen, twoBound⟩ := two
  cases oneAddr with
  | v4 one =>
    cases twoAddr with
    | v4 two =>
      simp only [overlaps, holds, exists_ipAddr, sameUnderMask_eq, beq_iff_eq,
        Bool.false_eq_true, false_and, exists_false, or_false]
      exact common_iff one two
    | v6 => simp [overlaps, holds, exists_ipAddr]
  | v6 one =>
    cases twoAddr with
    | v4 => simp [overlaps, holds, exists_ipAddr]
    | v6 two =>
      simp only [overlaps, holds, exists_ipAddr, sameUnderMask_eq, beq_iff_eq,
        Bool.false_eq_true, false_and, exists_false, false_or]
      exact common_iff one two

theorem inside_iff (range outer : IpCidr) :
    (∀ ip, range.holds ip = true → outer.holds ip = true) ↔
      outer.overlaps range = true ∧ outer.prefixLen ≤ range.prefixLen := by
  obtain ⟨addr, len, bound⟩ := range
  obtain ⟨outerAddr, outerLen, outerBound⟩ := outer
  cases addr with
  | v4 block =>
    cases outerAddr with
    | v4 outer =>
      simp only [overlaps, holds, forall_ipAddr, sameUnderMask_eq, beq_iff_eq,
        Bool.false_eq_true, IsEmpty.forall_iff, implies_true, and_true]
      exact nested_iff outer block outerBound
    | v6 => simp [overlaps, holds, forall_ipAddr]
  | v6 block =>
    cases outerAddr with
    | v4 => simp [overlaps, holds, forall_ipAddr]
    | v6 outer =>
      simp only [overlaps, holds, forall_ipAddr, sameUnderMask_eq, beq_iff_eq,
        Bool.false_eq_true, IsEmpty.forall_iff, implies_true, true_and]
      exact nested_iff outer block outerBound

end IpCidr

/-- The range lies in the other. -/
def IpCidr.Inside (range outer : IpCidr) : Prop :=
  ∀ ip, range.holds ip = true → outer.holds ip = true

/-- Whether an address is a placeholder the core hands out for a name. -/
def isPlaceholder (ip : IpAddr) : Bool :=
  let ip := canonical ip
  let host := expect (IpCidr.parse (String.ofList (IpCidr.text ip (hostBits ip))))
    (by rw [IpCidr.parse_host]; rfl)
  pools.any (fun pool => pool.overlaps host)

theorem isPlaceholder_eq (ip : IpAddr) :
    isPlaceholder ip = pools.any (fun pool => pool.holds (canonical ip)) := by
  have isHost : expect (IpCidr.parse (String.ofList
      (IpCidr.text (canonical ip) (hostBits (canonical ip))))) (by rw [IpCidr.parse_host]; rfl) =
        IpCidr.host (canonical ip) := by
    apply Except.ok.inj
    rw [← expect_ok, IpCidr.parse_host]
  simp only [isPlaceholder, isHost, IpCidr.overlaps_host]

theorem checkUserRange_refuses (range : IpCidr) :
    checkUserRange range = .error (.rangeInsideFakeIpPool range.display) ↔
      ∃ pool ∈ pools, range.Inside pool := by
  have inside (pool : IpCidr) : (pool.overlaps range &&
      decide (pool.prefixLen ≤ range.prefixLen)) = true ↔ range.Inside pool := by
    rw [Bool.and_eq_true, decide_eq_true_eq]
    exact (IpCidr.inside_iff range pool).symm
  simp only [checkUserRange, ← inside, ← List.any_eq_true]
  split
  next held => simp [held]
  next free => simp [free]

section Pools

def pool4 : IpCidr := ⟨.v4 (Ipv4Addr.ofOctets 198 18 0 0), 15, by decide⟩

def pool6 : IpCidr := ⟨.v6 ⟨[0xfc00, 0, 0, 0, 0, 0, 0, 0], rfl⟩, 18, by decide⟩

/-- The pool of version 4 written in version 6: `::ffff:198.18.0.0/111`. -/
def mappedPool : IpCidr := ⟨.v6 ⟨[0, 0, 0, 0, 0, 0xffff, 0xc612, 0], rfl⟩, 111, by decide⟩

theorem pools_eq : pools = [pool4, pool6] := by
  decide

theorem holds_pool4 (v4 : Ipv4Addr) :
    pool4.holds (.v4 v4) = true ↔ Groups.number v4.groups / 2 ^ 17 = 25353 := by
  simp only [IpCidr.holds, pool4, beq_iff_eq, leadingBits, Groups.shifted_eq_iff]
  exact eq_comm

theorem holds_pool6 (v6 : Ipv6Addr) :
    pool6.holds (.v6 v6) = true ↔ Groups.number v6.groups / 2 ^ 110 = 258048 := by
  simp only [IpCidr.holds, pool6, beq_iff_eq, leadingBits, Groups.shifted_eq_iff]
  exact eq_comm

theorem holds_mappedPool (v6 : Ipv6Addr) :
    mappedPool.holds (.v6 v6) = true ↔
      Groups.number v6.groups / 2 ^ 17 = 0xffff * 2 ^ 15 + 25353 := by
  simp only [IpCidr.holds, mappedPool, beq_iff_eq, leadingBits, Groups.shifted_eq_iff]
  exact eq_comm

/-- The placeholders are the addresses of the two pools, and those of the first one when they are
written in version 6. -/
theorem isPlaceholder_iff (ip : IpAddr) :
    isPlaceholder ip = true ↔
      pool4.holds ip = true ∨ pool6.holds ip = true ∨ mappedPool.holds ip = true := by
  rw [isPlaceholder_eq, pools_eq, List.any_cons, List.any_cons, List.any_nil, Bool.or_false,
    Bool.or_eq_true]
  cases ip with
  | v4 => simp [canonical, IpCidr.holds, mappedPool]
  | v6 v6 =>
    have other : pool4.holds (.v6 v6) = false := rfl
    cases mapping : toIpv4Mapped v6 with
    | some mapped =>
      have plain : canonical (.v6 v6) = .v4 mapped := by rw [canonical, mapping]
      have alsoOther : pool6.holds (.v4 mapped) = false := rfl
      have number := number_of_mapped mapping
      have bound := Groups.number_lt mapped.groups
      rw [mapped.length_eq] at bound
      rw [plain, alsoOther, other, holds_pool4, holds_pool6, holds_mappedPool]
      simp only [Bool.false_eq_true, or_false, false_or]
      omega
    | none =>
      have plain : canonical (.v6 v6) = .v6 v6 := by rw [canonical, mapping]
      have number := number_of_not_mapped mapping
      rw [plain, other, holds_pool6, holds_mappedPool]
      simp only [Bool.false_eq_true, false_or]
      omega

theorem inside_of_covered {range one two : Ipv6Addr} {count first second : Nat}
    {bound : count ≤ 128} {firstBound : first ≤ 128} {secondBound : second ≤ 128}
    (parted : leadingBits 1 one ≠ leadingBits 1 two) (long : 2 ≤ first) (alsoLong : 1 ≤ second)
    (begins : (⟨.v6 one, first, firstBound⟩ : IpCidr).holds (.v6 range) = true)
    (covered : ∀ ip, (⟨.v6 range, count, bound⟩ : IpCidr).holds ip = true →
      (⟨.v6 one, first, firstBound⟩ : IpCidr).holds ip = true ∨
        (⟨.v6 two, second, secondBound⟩ : IpCidr).holds ip = true) :
    (⟨.v6 range, count, bound⟩ : IpCidr).Inside ⟨.v6 one, first, firstBound⟩ := by
  have le : first ≤ count := by
    apply no_larger_of_covered parted long alsoLong firstBound (beq_iff_eq.mp begins)
    intro addr same
    rcases covered (.v6 addr) (beq_iff_eq.mpr same) with inOne | inTwo
    · exact Or.inl (beq_iff_eq.mp inOne)
    · exact Or.inr (beq_iff_eq.mp inTwo)
  apply (IpCidr.inside_iff _ _).mpr
  exact ⟨(IpCidr.overlaps_iff _ _).mpr ⟨.v6 range, begins, IpCidr.holds_addr _⟩, le⟩

/-- A range that holds nothing but placeholders lies in one pool. -/
theorem inside_of_placeholders {range : IpCidr}
    (all : ∀ ip, range.holds ip = true → isPlaceholder ip = true) :
    range.Inside pool4 ∨ range.Inside pool6 ∨ range.Inside mappedPool := by
  have covered (ip : IpAddr) (held : range.holds ip = true) :=
    (isPlaceholder_iff ip).mp (all ip held)
  obtain ⟨addr, count, bound⟩ := range
  cases addr with
  | v4 =>
    left
    intro ip held
    cases ip with
    | v4 =>
      rcases covered _ held with inside | never | never
      · exact inside
      · cases never
      · cases never
    | v6 => cases held
  | v6 block =>
    right
    have both (ip : IpAddr) (held : IpCidr.holds ⟨.v6 block, count, bound⟩ ip = true) :
        pool6.holds ip = true ∨ mappedPool.holds ip = true := by
      cases ip with
      | v4 => cases held
      | v6 => exact (covered _ held).resolve_left Bool.false_ne_true
    rcases both (.v6 block) (IpCidr.holds_addr ⟨.v6 block, count, bound⟩) with begins | begins
    · left
      exact inside_of_covered (by decide) (by decide) (by decide) begins both
    · right
      exact inside_of_covered (by decide) (by decide) (by decide) begins
        (fun ip held => (both ip held).symm)

theorem mappedPool_apart {pool : IpCidr} (member : pool ∈ pools) (ip : IpAddr)
    (mapped : mappedPool.holds ip = true) : pool.holds ip = false := by
  rw [pools_eq, List.mem_cons, List.mem_singleton] at member
  cases ip with
  | v4 => cases mapped
  | v6 =>
    rcases member with rfl | rfl
    · rfl
    · rw [holds_mappedPool] at mapped
      apply Bool.eq_false_of_not_eq_true
      rw [holds_pool6]
      omega

/-- Range arithmetic is exact, but for what is asked of a person's range: one that lies in the pool
and is written in version 6 holds nothing but placeholders, and is accepted. -/
theorem ranges_exact_iff (one two range : IpCidr) (ip : IpAddr) :
    ((one.overlaps two = true ↔ ∃ common, one.holds common = true ∧ two.holds common = true) ∧
        (contains one ip = true ↔ one.holds (canonical ip) = true) ∧
        (checkUserRange range = .error (.rangeInsideFakeIpPool range.display) ↔
          ∀ held, range.holds held = true → isPlaceholder held = true)) ↔
      ¬ range.Inside mappedPool := by
  have refused := checkUserRange_refuses range
  constructor
  · rintro ⟨_, _, exact_⟩ mapped
    have all (held : IpAddr) (inside : range.holds held = true) : isPlaceholder held = true :=
      (isPlaceholder_iff held).mpr (Or.inr (Or.inr (mapped held inside)))
    obtain ⟨pool, member, inside⟩ := refused.mp (exact_.mpr all)
    have own := range.holds_addr
    have apart := mappedPool_apart member range.addr (mapped _ own)
    rw [inside _ own] at apart
    cases apart
  · intro unmapped
    refine ⟨IpCidr.overlaps_iff one two, by rw [contains_eq], refused.trans ?_⟩
    rw [pools_eq]
    constructor
    · rintro ⟨pool, member, inside⟩ held lies
      rw [List.mem_cons, List.mem_singleton] at member
      rw [isPlaceholder_iff]
      rcases member with rfl | rfl
      · exact Or.inl (inside held lies)
      · exact Or.inr (Or.inl (inside held lies))
    · intro all
      rcases inside_of_placeholders all with inside | inside | mapped
      · exact ⟨pool4, by simp, inside⟩
      · exact ⟨pool6, by simp, inside⟩
      · exact absurd mapped unmapped

/-- A person's rule for the placeholders written in version 6 is accepted. -/
theorem mapped_pool_accepted :
    let range := mappedPool
    IpCidr.parse "::ffff:198.18.0.0/111" = .ok range ∧
      (∀ ip, range.holds ip = true → isPlaceholder ip = true) ∧ checkUserRange range = .ok () ∧
      (RoutingRule.user ⟨0⟩ (.ipCidr range) .bypass 300).isOk = true := by
  refine ⟨by decide, ?_, by decide, by decide⟩
  intro ip held
  exact (isPlaceholder_iff ip).mpr (Or.inr (Or.inr held))

end Pools

end DnetEngine
