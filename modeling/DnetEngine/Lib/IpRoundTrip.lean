import DnetEngine.Lib.IpText

/-! An address read back from its own text is the same address. -/

namespace DnetEngine.Lib

theorem toDigit_digitChar (radix digit : Nat) (small : radix ≤ 16) (bound : digit < radix) :
    toDigit radix (Nat.digitChar digit) = some digit := by
  have value : ∀ digit < 16, toDigit 16 (Nat.digitChar digit) = some digit := by decide
  have here := value digit (by omega)
  simp only [toDigit, Option.filter_eq_some_iff, decide_eq_true_eq] at here ⊢
  exact ⟨here.1, bound⟩

/-- The digits of a number, built from the first. -/
inductive Printed (radix : Nat) : Nat → List Char → Prop
  | digit {digit : Nat} (small : digit < radix) : Printed radix digit [Nat.digitChar digit]
  | next {n digit : Nat} {text : List Char} (positive : 0 < n) (small : digit < radix)
      (printed : Printed radix n text) :
      Printed radix (n * radix + digit) (text ++ [Nat.digitChar digit])

variable {radix n : Nat} {text : List Char}

theorem printed_toDigits (base : 1 < radix) (n : Nat) : Printed radix n (Nat.toDigits radix n) := by
  induction n using Nat.strongRecOn with
  | ind n ih =>
    by_cases single : n < radix
    · rw [Nat.toDigits_of_lt_base single]
      exact .digit single
    · have large : radix ≤ n := Nat.not_lt.mp single
      have whole := (ih (n / radix) (Nat.div_lt_self (by omega) base)).next
        (Nat.div_pos large (by omega)) (Nat.mod_lt n (by omega))
      rwa [Nat.div_add_mod', ← Nat.toDigits_of_base_le base large] at whole

/-- The reader of digits goes through a printed number as through one digit of it after another. -/
theorem readDigits_printed (maxDigits result count : Nat) (rest : List Char) (small : radix ≤ 16)
    (printed : Printed radix n text) (fits : count + text.length ≤ maxDigits) :
    readDigits radix maxDigits result count (text ++ rest) =
      readDigits radix maxDigits (result * radix ^ text.length + n) (count + text.length) rest := by
  have one (digit result count : Nat) (rest : List Char) (bound : digit < radix)
      (fits : count + 1 ≤ maxDigits) :
      readDigits radix maxDigits result count (Nat.digitChar digit :: rest) =
        readDigits radix maxDigits (result * radix + digit) (count + 1) rest := by
    rw [readDigits, toDigit_digitChar radix digit small bound]
    exact if_neg (by omega)
  induction printed generalizing rest with
  | digit bound => simpa using one _ result count rest bound fits
  | next _ bound _ ih =>
    rw [List.length_append, List.length_singleton] at fits ⊢
    rw [List.append_assoc, ih _ (by omega), List.singleton_append, one _ _ _ _ bound (by omega),
      pow_succ, add_mul, ← mul_assoc, add_assoc, add_assoc]

/-- A text that a number of `radix` ends before. -/
def EndsDigits (radix : Nat) (rest : List Char) : Prop :=
  ∀ c, rest.head? = some c → toDigit radix c = none

theorem readDigits_ends (radix maxDigits result count : Nat) (rest : List Char)
    (ends : EndsDigits radix rest) :
    readDigits radix maxDigits result count rest = some ((result, count), rest) := by
  cases rest with
  | nil => rfl
  | cons c => rw [readDigits, ends c rfl]

theorem Printed.head? (printed : Printed radix n text) (small : radix ≤ 16) (positive : 0 < n) :
    ∃ c, text.head? = some c ∧ c ≠ '0' := by
  induction printed with
  | digit bound =>
    have nonzero : ∀ digit < 16, 0 < digit → Nat.digitChar digit ≠ '0' := by decide
    exact ⟨_, rfl, nonzero _ (by omega) positive⟩
  | next first _ _ ih =>
    obtain ⟨c, head, nonzero⟩ := ih first
    exact ⟨c, by rw [List.head?_append, head]; rfl, nonzero⟩

theorem readNumber_toDigits (radix maxDigits bound n : Nat) (allowZeroPrefix : Bool)
    (rest : List Char) (base : 1 < radix) (small : radix ≤ 16) (some_ : 0 < maxDigits)
    (short : n < radix ^ maxDigits) (fits : n < bound) (ends : EndsDigits radix rest) :
    readNumber radix maxDigits bound allowZeroPrefix (Nat.toDigits radix n ++ rest) =
      some (n, rest) := by
  have length := (Nat.length_toDigits_le_iff base some_).mpr short
  have positive : 0 < (Nat.toDigits radix n).length :=
    List.length_pos_of_ne_nil Nat.toDigits_ne_nil
  have plain : (!allowZeroPrefix && (Nat.toDigits radix n ++ rest).head? == some '0' &&
      decide (1 < 0 + (Nat.toDigits radix n).length)) = false := by
    by_cases zero : n = 0
    · subst zero
      simp [Nat.toDigits_of_lt_base (show 0 < radix by omega)]
    · obtain ⟨c, first, nonzero⟩ := (printed_toDigits base n).head? small (by omega)
      simp [first, nonzero]
  have digits : ¬ (0 + (Nat.toDigits radix n).length = 0) := by omega
  unfold readNumber
  rw [readDigits_printed maxDigits 0 0 rest small (printed_toDigits base n) (by omega),
    readDigits_ends _ _ _ _ rest ends, Option.bind_some, if_neg digits, plain, Nat.zero_mul,
    Nat.zero_add, if_neg Bool.false_ne_true, if_pos fits]

/-! Version 4. -/

theorem readOctet_first (octet : BitVec 8) (rest : List Char) (ends : EndsDigits 10 rest) :
    readOctet 0 (decimal octet.toNat ++ rest) = some (octet.toNat, rest) := by
  have bound : octet.toNat < 256 := octet.isLt
  exact readNumber_toDigits 10 3 256 octet.toNat false rest (by decide) (by decide) (by decide)
    (by omega) bound ends

theorem readOctet_next (index : Nat) (octet : BitVec 8) (rest : List Char) (later : 0 < index)
    (ends : EndsDigits 10 rest) :
    readOctet index ('.' :: (decimal octet.toNat ++ rest)) = some (octet.toNat, rest) := by
  have first := readOctet_first octet rest ends
  simp only [readOctet, readSeparator, later]
  exact first

theorem readIpv4_printIpv4 (addr : Ipv4Addr) (rest : List Char) (ends : EndsDigits 10 rest) :
    readIpv4 (printIpv4 addr ++ rest) = some (addr, rest) := by
  obtain ⟨groups, length⟩ := addr
  obtain ⟨a, b, c, d, rfl⟩ : ∃ a b c d, groups = [a, b, c, d] := by
    match groups, length with
    | [a, b, c, d], _ => exact ⟨a, b, c, d, rfl⟩
  have dot (rest : List Char) : EndsDigits 10 ('.' :: rest) := by
    intro c same
    cases same
    decide
  have text : printIpv4 ⟨[a, b, c, d], length⟩ ++ rest =
      decimal a.toNat ++ '.' :: (decimal b.toNat ++ '.' :: (decimal c.toNat ++
        '.' :: (decimal d.toNat ++ rest))) := by
    simp [printIpv4]
  rw [text]
  simp only [readIpv4, readOctet_first a _ (dot _), readOctet_next 1 b _ (by decide) (dot _),
    readOctet_next 2 c _ (by decide) (dot _), readOctet_next 3 d _ (by decide) ends,
    Option.bind_some, BitVec.ofNat_toNat]
  rfl

theorem parseIpv4_printIpv4 (addr : Ipv4Addr) : parseIpv4 (printIpv4 addr) = some addr := by
  have none_ : EndsDigits 10 [] := fun c same => by cases same
  have read := readIpv4_printIpv4 addr [] none_
  rw [List.append_nil] at read
  rw [parseIpv4, read]

theorem readDigits_rest (radix maxDigits result count : Nat) (input : List Char)
    (read : (Nat × Nat) × List Char)
    (done : readDigits radix maxDigits result count input = some read) :
    read.2 = input.dropWhile (fun c => (toDigit radix c).isSome) := by
  induction input generalizing result count with
  | nil =>
    cases done
    rfl
  | cons c _ ih =>
    rw [readDigits] at done
    cases digit : toDigit radix c with
    | none =>
      rw [digit] at done
      cases done
      simp [digit]
    | some =>
      rw [digit] at done
      obtain ⟨_, done⟩ := Option.ite_none_left_eq_some.mp done
      rw [ih _ _ done]
      simp [digit]

/-- No version 4 address is read where the leading decimal digits do not end in a dot. -/
theorem readIpv4_none (input : List Char)
    (noDot : (input.dropWhile (fun c => (toDigit 10 c).isSome)).head? ≠ some '.') :
    readIpv4 input = none := by
  unfold readIpv4
  cases first : readOctet 0 input with
  | none => rfl
  | some a =>
    have rest : a.2 = input.dropWhile (fun c => (toDigit 10 c).isSome) := by
      obtain ⟨read, digits, kept⟩ := Option.bind_eq_some_iff.mp first
      rw [← readDigits_rest _ _ _ _ _ read digits]
      obtain ⟨_, kept⟩ := Option.ite_none_left_eq_some.mp kept
      obtain ⟨_, kept⟩ := Option.ite_none_left_eq_some.mp kept
      obtain ⟨_, kept⟩ := Option.ite_none_right_eq_some.mp kept
      cases kept
      rfl
    have second : readOctet 1 a.2 = none := by
      rw [rest]
      simp only [readOctet, readSeparator]
      cases remaining : input.dropWhile (fun c => (toDigit 10 c).isSome) with
      | nil => rfl
      | cons c =>
        rw [remaining] at noDot
        have other : c ≠ '.' := by
          intro same
          exact noDot (by rw [same]; rfl)
        simp [readGivenChar, other]
    simp [second]

/-! Version 6. -/

/-- The groups as they stand from slot `index` on, a colon before each but the first slot. -/
def separated : (index : Nat) → List (BitVec 16) → List Char
  | _, [] => []
  | index, segment :: rest =>
    (if 0 < index then [':'] else []) ++ (hexadecimal segment.toNat ++ separated (index + 1) rest)

theorem printGroups_eq_separated (segments : List (BitVec 16)) :
    printGroups segments = separated 0 segments := by
  have after (segment : BitVec 16) (rest : List (BitVec 16)) (index : Nat) :
      printGroups (segment :: rest) =
        hexadecimal segment.toNat ++ separated (index + 1) rest := by
    induction rest generalizing segment index with
    | nil => simp [printGroups, separated]
    | cons next _ ih =>
      have more := ih next (index + 1)
      simp only [printGroups, List.intercalate, List.map_cons, List.intersperse_cons_cons,
        List.flatten_cons] at more ⊢
      simp only [separated, Nat.zero_lt_succ, if_true, more]
  cases segments with
  | nil => rfl
  | cons segment rest => exact after segment rest 0

theorem mem_toDigits (radix n : Nat) (base : 1 < radix) (c : Char)
    (member : c ∈ Nat.toDigits radix n) : ∃ digit < radix, c = Nat.digitChar digit := by
  have printed := printed_toDigits base n
  generalize Nat.toDigits radix n = text at printed member
  induction printed with
  | digit small => exact ⟨_, small, List.mem_singleton.mp member⟩
  | next _ small _ ih =>
    rcases List.mem_append.mp member with earlier | last
    · exact ih earlier
    · exact ⟨_, small, List.mem_singleton.mp last⟩

/-- Where a group may end: at the end of the text or at a colon. -/
def Edge (rest : List Char) : Prop := rest = [] ∨ ∃ more, rest = ':' :: more

/-- Where a series of groups ends: at the end of the text or at `::`. -/
def Stops (rest : List Char) : Prop := rest = [] ∨ ∃ more, rest = ':' :: ':' :: more

variable {rest : List Char} {addr : Ipv6Addr}

theorem Stops.edge (stops : Stops rest) : Edge rest := by
  rcases stops with rfl | ⟨more, rfl⟩
  · exact .inl rfl
  · exact .inr ⟨_, rfl⟩

theorem Edge.ends (edge : Edge rest) : EndsDigits 16 rest := by
  intro c same
  rcases edge with rfl | ⟨more, rfl⟩
  · cases same
  · cases same
    decide

theorem edge_separated (index : Nat) (segments : List (BitVec 16)) (rest : List Char)
    (edge : Edge rest) : Edge (separated (index + 1) segments ++ rest) := by
  cases segments with
  | nil => exact edge
  | cons segment more =>
    exact .inr ⟨hexadecimal segment.toNat ++ (separated (index + 1 + 1) more ++ rest),
      by simp [separated]⟩

theorem readIpv4_group (n : Nat) (rest : List Char) (edge : Edge rest) :
    readIpv4 (hexadecimal n ++ rest) = none := by
  apply readIpv4_none
  have colon : (rest.dropWhile (fun c => (toDigit 10 c).isSome)).head? ≠ some '.' := by
    rcases edge with rfl | ⟨more, rfl⟩
    · simp
    · have other : (toDigit 10 ':').isSome = false := by decide
      simp [other]
  have undotted : ∀ c ∈ hexadecimal n, c ≠ '.' := by
    intro c member
    obtain ⟨digit, bound, rfl⟩ := mem_toDigits 16 n (by decide) c member
    have plain : ∀ digit < 16, Nat.digitChar digit ≠ '.' := by decide
    exact plain digit bound
  generalize hexadecimal n = text at undotted
  induction text with
  | nil => exact colon
  | cons c _ ih =>
    have later := ih (fun other member => undotted other (List.mem_cons_of_mem _ member))
    by_cases digit : (toDigit 10 c).isSome = true
    · simpa [digit] using later
    · simpa [digit] using undotted c List.mem_cons_self

theorem readIpv4_edge (rest : List Char) (edge : Edge rest) : readIpv4 rest = none := by
  rcases edge with rfl | ⟨more, rfl⟩
  · rfl
  · apply readIpv4_none
    have other : (toDigit 10 ':').isSome = false := by decide
    simp [other]

theorem readNumber_edge (rest : List Char) (edge : Edge rest) :
    readNumber 16 4 65536 true rest = none := by
  rcases edge with rfl | ⟨more, rfl⟩
  · rfl
  · have other : toDigit 16 ':' = none := by decide
    simp [readNumber, readDigits, other]

theorem readSeparator_text {Value : Type} (index : Nat) (inner : Reader Value)
    (body : List Char) :
    readSeparator ':' index inner ((if 0 < index then [':'] else []) ++ body) = inner body := by
  by_cases later : 0 < index
  · simp [readSeparator, later, readGivenChar]
  · simp [readSeparator, later]

theorem readSeparator_stops {Value : Type} (index : Nat) (inner : Reader Value) (rest : List Char)
    (refuses : ∀ rest, Edge rest → inner rest = none) (stops : Stops rest) :
    readSeparator ':' index inner rest = none := by
  unfold readSeparator
  split
  · rcases stops with rfl | ⟨more, rfl⟩
    · rfl
    · exact refuses _ (.inr ⟨more, rfl⟩)
  · exact refuses rest stops.edge

theorem readGroups_stops (index slots : Nat) (rest : List Char) (stops : Stops rest) :
    readGroups index slots rest = (([], false), rest) := by
  cases slots with
  | zero => rfl
  | succ slots =>
    have noAddr : (if 0 < slots then readSeparator ':' index readIpv4 rest else none) = none := by
      split
      · exact readSeparator_stops index readIpv4 rest readIpv4_edge stops
      · rfl
    rw [readGroups, noAddr, readSeparator_stops index _ rest readNumber_edge stops]

theorem readGroups_number {index slots group : Nat} {input : List Char}
    (noAddr : readSeparator ':' index readIpv4 input = none)
    (number : readSeparator ':' index (readNumber 16 4 65536 true) input = some (group, rest)) :
    readGroups index (slots + 1) input =
      ((BitVec.ofNat 16 group :: (readGroups (index + 1) slots rest).1.1,
        (readGroups (index + 1) slots rest).1.2), (readGroups (index + 1) slots rest).2) := by
  rw [readGroups, noAddr, ite_self, number]

theorem readGroups_separated (segments : List (BitVec 16)) (index slots : Nat) (rest : List Char)
    (fits : segments.length ≤ slots) (edge : Edge rest)
    (stops : segments.length < slots → Stops rest) :
    readGroups index slots (separated index segments ++ rest) = ((segments, false), rest) := by
  induction segments generalizing index slots with
  | nil =>
    cases slots with
    | zero => rfl
    | succ => exact readGroups_stops index _ rest (stops (Nat.succ_pos _))
  | cons segment segments ih =>
    obtain ⟨left, rfl⟩ : ∃ left, slots = left + 1 := by
      cases slots with
      | zero => exact absurd fits (by simp)
      | succ left => exact ⟨left, rfl⟩
    rw [List.length_cons] at fits stops
    have tail := edge_separated index segments rest edge
    have later := ih (index + 1) left (by omega) (fun room => stops (by omega))
    have bound : segment.toNat < 65536 := segment.isLt
    have number : readNumber 16 4 65536 true (hexadecimal segment.toNat ++
        (separated (index + 1) segments ++ rest)) =
        some (segment.toNat, separated (index + 1) segments ++ rest) :=
      readNumber_toDigits 16 4 65536 segment.toNat true _ (by decide) (by decide) (by decide)
        (by omega) bound tail.ends
    rw [separated, List.append_assoc, List.append_assoc, readGroups_number
      ((readSeparator_text index _ _).trans (readIpv4_group segment.toNat _ tail))
      ((readSeparator_text index _ _).trans number), later]
    simp only [BitVec.ofNat_toNat, BitVec.setWidth_eq]

/-- `span` lies in `segments` and covers zero groups only. -/
def ZeroSpan (segments : List (BitVec 16)) (span : Span) : Prop :=
  span.start + span.len ≤ segments.length ∧
    ∀ i, span.start ≤ i → i < span.start + span.len → segments[i]? = some 0

theorem ZeroSpan.append {segments : List (BitVec 16)} {span : Span}
    (covers : ZeroSpan segments span) (more : List (BitVec 16)) :
    ZeroSpan (segments ++ more) span := by
  refine ⟨?_, ?_⟩
  · rw [List.length_append]
    exact Nat.le_add_right_of_le covers.1
  · intro i low high
    have bound : i < segments.length := by
      have := covers.1
      omega
    rw [List.getElem?_append_left bound]
    exact covers.2 i low high

/-- Both runs of the scan cover zero groups, and the current one ends where the scan is. -/
theorem runs_zero (segments : List (BitVec 16)) :
    let runs := segments.zipIdx.foldl runStep ({}, {})
    ZeroSpan segments runs.1 ∧
      (runs.2.len = 0 ∨
        (ZeroSpan segments runs.2 ∧ runs.2.start + runs.2.len = segments.length)) := by
  induction segments using List.reverseRecOn with
  | nil =>
    refine ⟨⟨le_refl 0, ?_⟩, .inl rfl⟩
    intro i low high
    exact absurd (lt_of_le_of_lt low high) (lt_irrefl _)
  | append_singleton segments last ih =>
    obtain ⟨longest, current⟩ := ih
    simp only [List.zipIdx_append, List.foldl_append, Nat.zero_add, List.zipIdx_singleton,
      List.foldl_cons]
    generalize segments.zipIdx.foldl runStep ({}, {}) = runs at longest current
    unfold runStep
    split
    next zero =>
      have zero : last = 0 := zero
      have extended : ZeroSpan (segments ++ [last])
          ⟨if runs.2.len = 0 then segments.length else runs.2.start, runs.2.len + 1⟩ ∧
          (if runs.2.len = 0 then segments.length else runs.2.start) + (runs.2.len + 1) =
            (segments ++ [last]).length := by
        have here : (segments ++ [last])[segments.length]? = some 0 := by simp [zero]
        by_cases fresh : runs.2.len = 0
        · simp only [fresh, if_true, List.length_append, List.length_singleton]
          refine ⟨⟨by simp, ?_⟩, trivial⟩
          intro i low high
          have at_ : i = segments.length := by
            simp only at low high
            omega
          rw [at_]
          exact here
        · obtain ⟨covers, touches⟩ := current.resolve_left fresh
          simp only [fresh, if_false, List.length_append, List.length_singleton]
          refine ⟨⟨by simp; omega, ?_⟩, by omega⟩
          intro i low high
          simp only at low high
          by_cases at_ : i = segments.length
          · rw [at_]
            exact here
          · exact (covers.append [last]).2 i low (by omega)
      refine ⟨?_, .inr extended⟩
      dsimp only
      split
      · exact extended.1
      · exact longest.append [last]
    next => exact ⟨longest.append [last], .inl rfl⟩

theorem zeroes_split (segments : List (BitVec 16)) :
    (zeroes segments).start + (zeroes segments).len ≤ segments.length ∧
      segments = segments.take (zeroes segments).start ++
        List.replicate (zeroes segments).len 0 ++
        segments.drop ((zeroes segments).start + (zeroes segments).len) := by
  obtain ⟨inside, zero⟩ := (runs_zero segments).1
  change (zeroes segments).start + (zeroes segments).len ≤ segments.length at inside
  change ∀ i, (zeroes segments).start ≤ i → i < (zeroes segments).start + (zeroes segments).len →
    segments[i]? = some 0 at zero
  generalize zeroes segments = span at inside zero
  refine ⟨inside, ?_⟩
  have middle : (segments.drop span.start).take span.len = List.replicate span.len 0 := by
    apply List.eq_replicate_iff.mpr
    refine ⟨by rw [List.length_take, List.length_drop]; omega, ?_⟩
    intro group member
    obtain ⟨i, bound, rfl⟩ := List.mem_iff_getElem.mp member
    rw [List.length_take] at bound
    have here := zero (span.start + i) (by omega) (by omega)
    rw [List.getElem_take, List.getElem_drop]
    exact (List.getElem?_eq_some_iff.mp here).2
  calc segments = segments.take span.start ++ segments.drop span.start :=
        (List.take_append_drop _ _).symm
    _ = segments.take span.start ++ ((segments.drop span.start).take span.len ++
          (segments.drop span.start).drop span.len) := by
        rw [List.take_append_drop span.len (segments.drop span.start)]
    _ = segments.take span.start ++ List.replicate span.len 0 ++
          segments.drop (span.start + span.len) := by
        rw [middle, List.drop_drop, List.append_assoc]

theorem toIpv4Mapped_some {mapped : Ipv4Addr} (found : toIpv4Mapped addr = some mapped) :
    ∃ high low, addr.groups = [0, 0, 0, 0, 0, 0xffff, high, low] ∧
      mapped = Ipv4Addr.ofOctets (high.extractLsb' 8 8) (high.extractLsb' 0 8)
        (low.extractLsb' 8 8) (low.extractLsb' 0 8) := by
  unfold toIpv4Mapped at found
  split at found
  next high low shape => exact ⟨high, low, shape, (Option.some.inj found).symm⟩
  next => cases found

theorem halves (group : BitVec 16) :
    (group.extractLsb' 8 8 ++ group.extractLsb' 0 8 : BitVec 16) = group := by
  ext i bound
  simp only [BitVec.getElem_append, BitVec.getElem_extractLsb']
  split
  · rw [Nat.zero_add, ← BitVec.getLsbD_eq_getElem]
  next high =>
    rw [show 8 + (i - 8) = i by omega, ← BitVec.getLsbD_eq_getElem]

theorem readIpv6_compressed {input after : List Char} {head tail : List (BitVec 16)}
    {embedded : Bool} (front : readGroups 0 8 input = ((head, false), ':' :: ':' :: after))
    (short : head.length < 8)
    (back : readGroups 0 (8 - (head.length + 1)) after = ((tail, embedded), rest))
    (whole : head ++ List.replicate (8 - head.length - tail.length) 0 ++ tail = addr.groups) :
    readIpv6 input = some (addr, rest) := by
  have unfinished : ¬ head.length = 8 := by omega
  simp only [readIpv6, front, if_neg unfinished, readGivenChar, if_true, Option.bind_some, back,
    whole, Groups.ofList?_groups, Option.map_some, Bool.false_eq_true, if_false]

theorem readIpv6_mapped {mapped : Ipv4Addr} (found : toIpv4Mapped addr = some mapped) :
    readIpv6 ([':', ':', 'f', 'f', 'f', 'f', ':'] ++ printIpv4 mapped) = some (addr, []) := by
  obtain ⟨high, low, shape, rfl⟩ := toIpv4Mapped_some found
  generalize text : printIpv4 (Ipv4Addr.ofOctets (high.extractLsb' 8 8) (high.extractLsb' 0 8)
    (low.extractLsb' 8 8) (low.extractLsb' 0 8)) = tail
  have ends : EndsDigits 10 [] := by
    intro c same
    cases same
  have embedded := readIpv4_printIpv4 (Ipv4Addr.ofOctets (high.extractLsb' 8 8)
    (high.extractLsb' 0 8) (low.extractLsb' 8 8) (low.extractLsb' 0 8)) [] ends
  rw [text, List.append_nil] at embedded
  have edge : Edge (':' :: tail) := .inr ⟨tail, rfl⟩
  have first : readSeparator ':' 0 (readNumber 16 4 65536 true)
      (['f', 'f', 'f', 'f'] ++ ':' :: tail) = some (65535, ':' :: tail) := by
    exact readNumber_toDigits 16 4 65536 65535 true _ (by decide) (by decide) (by decide)
      (by decide) (by decide) edge.ends
  have noAddr : readSeparator ':' 0 readIpv4 (['f', 'f', 'f', 'f'] ++ ':' :: tail) = none := by
    exact readIpv4_group 65535 _ edge
  have second : readGroups 1 6 (':' :: tail) = (([high, low], true), []) := by
    have read : readSeparator ':' 1 readIpv4 (':' :: tail) = readIpv4 tail :=
      readSeparator_text 1 readIpv4 tail
    rw [readGroups, read.trans embedded]
    change (([_ ++ _, _ ++ _], true), []) = _
    rw [halves, halves]
  have back : readGroups 0 7 (['f', 'f', 'f', 'f'] ++ ':' :: tail) =
      (([0xffff, high, low], true), []) := by
    rw [readGroups_number noAddr first, second]
    rfl
  have front : readGroups 0 8 ([':', ':', 'f', 'f', 'f', 'f', ':'] ++ tail) =
      (([], false), [':', ':', 'f', 'f', 'f', 'f', ':'] ++ tail) :=
    readGroups_stops 0 8 _ (.inr ⟨_, rfl⟩)
  have whole : ([] ++ List.replicate 5 0 ++ [0xffff, high, low] : List (BitVec 16)) =
      addr.groups := shape.symm
  exact readIpv6_compressed front (by decide) back whole

theorem readIpv6_printIpv6 (addr : Ipv6Addr) : readIpv6 (printIpv6 addr) = some (addr, []) := by
  have length := addr.length_eq
  cases mapping : toIpv4Mapped addr with
  | some =>
    rw [printIpv6, mapping]
    exact readIpv6_mapped mapping
  | none =>
    obtain ⟨inside, parts⟩ := zeroes_split addr.groups
    simp only [printIpv6, mapping]
    generalize zeroes addr.groups = run at inside parts
    split
    next long =>
      have front := readGroups_separated (addr.groups.take run.start) 0 8
        (':' :: ':' :: separated 0 (addr.groups.drop (run.start + run.len)))
        (by rw [List.length_take]; omega) (.inr ⟨_, rfl⟩) (fun _ => .inr ⟨_, rfl⟩)
      have headLength : (addr.groups.take run.start).length = run.start := by
        rw [List.length_take]
        omega
      have tailLength : (addr.groups.drop (run.start + run.len)).length =
          8 - (run.start + run.len) := by
        rw [List.length_drop, length]
      have back := readGroups_separated (addr.groups.drop (run.start + run.len)) 0
        (8 - (run.start + 1)) [] (by omega) (.inl rfl) (fun _ => .inl rfl)
      rw [List.append_nil] at back
      rw [printGroups_eq_separated, printGroups_eq_separated, List.append_assoc]
      refine readIpv6_compressed front (by omega) (by rw [headLength]; exact back) ?_
      rw [headLength, tailLength, show 8 - run.start - (8 - (run.start + run.len)) = run.len by
        omega]
      exact parts.symm
    next =>
      have whole := readGroups_separated addr.groups 0 8 [] (by omega) (.inl rfl)
        (fun room => .inl rfl)
      rw [List.append_nil] at whole
      rw [printGroups_eq_separated]
      simp only [readIpv6, whole, length, if_true, Groups.ofList?_groups, Option.map_some]

theorem readIpv4_separated (segments : List (BitVec 16)) (rest : List Char) (edge : Edge rest) :
    readIpv4 (separated 0 segments ++ rest) = none := by
  cases segments with
  | nil => exact readIpv4_edge rest edge
  | cons segment segments =>
    rw [separated, List.append_assoc, List.append_assoc]
    exact readIpv4_group segment.toNat _ (edge_separated 0 segments rest edge)

theorem readIpv4_printIpv6 (addr : Ipv6Addr) : readIpv4 (printIpv6 addr) = none := by
  cases mapping : toIpv4Mapped addr with
  | some =>
    rw [printIpv6, mapping]
    exact readIpv4_edge _ (.inr ⟨_, rfl⟩)
  | none =>
    simp only [printIpv6, mapping]
    split
    · rw [printGroups_eq_separated, List.append_assoc]
      exact readIpv4_separated _ _ (.inr ⟨_, rfl⟩)
    · rw [printGroups_eq_separated, ← List.append_nil (separated 0 addr.groups)]
      exact readIpv4_separated _ [] (.inl rfl)

theorem parseIpAddr_printIpAddr (addr : IpAddr) : parseIpAddr (printIpAddr addr) = some addr := by
  cases addr with
  | v4 addr =>
    have ends : EndsDigits 10 [] := by
      intro c same
      cases same
    have read := readIpv4_printIpv4 addr [] ends
    rw [List.append_nil] at read
    simp only [parseIpAddr, readIpAddr, printIpAddr, read]
  | v6 =>
    simp only [parseIpAddr, readIpAddr, printIpAddr, readIpv4_printIpv6, readIpv6_printIpv6,
      Option.map_some]

/-! A number after a slash. -/

theorem readUnsigned_printed (bound result : Nat) (rest : List Char)
    (printed : Printed 10 n text) (fits : result * 10 ^ text.length + n < bound) :
    readUnsigned bound result (text ++ rest) =
      readUnsigned bound (result * 10 ^ text.length + n) rest := by
  have one (digit result : Nat) (rest : List Char) (small : digit < 10)
      (fits : result * 10 + digit < bound) :
      readUnsigned bound result (Nat.digitChar digit :: rest) =
        readUnsigned bound (result * 10 + digit) rest := by
    rw [readUnsigned, toDigit_digitChar 10 digit (by decide) small]
    exact if_pos fits
  induction printed generalizing rest with
  | digit small =>
    exact one _ result rest small fits
  | next _ small _ ih =>
    rw [List.length_append, List.length_singleton, pow_succ, ← mul_assoc, ← add_assoc,
      ← add_mul] at fits ⊢
    rw [List.append_assoc, ih _ (by omega)]
    exact one _ _ _ small fits

theorem parseUnsigned_decimal (bound n : Nat) (fits : n < bound) :
    parseUnsigned bound (decimal n) = some n := by
  have unsigned : ∀ rest, decimal n ≠ '+' :: rest := by
    intro rest same
    have member : '+' ∈ Nat.toDigits 10 n := by
      rw [show Nat.toDigits 10 n = '+' :: rest from same]
      exact List.mem_cons_self
    obtain ⟨digit, small, plus⟩ := mem_toDigits 10 n (by decide) '+' member
    have plain : ∀ digit < 10, '+' ≠ Nat.digitChar digit := by decide
    exact plain digit small plus
  have some_ : (decimal n).isEmpty = false := by
    rw [List.isEmpty_eq_false_iff]
    exact Nat.toDigits_ne_nil
  have read := readUnsigned_printed bound 0 [] (printed_toDigits (by decide) n) (by omega)
  rw [List.append_nil, Nat.zero_mul, Nat.zero_add] at read
  unfold parseUnsigned
  split
  next rest same => exact absurd same (unsigned rest)
  next =>
    dsimp only
    rw [some_]
    exact read

theorem splitOnce_append (separator : Char) (first second : List Char)
    (absent : separator ∉ first) :
    splitOnce separator (first ++ separator :: second) = some (first, second) := by
  induction first with
  | nil => simp [splitOnce]
  | cons c _ ih =>
    rw [List.mem_cons, not_or] at absent
    have other : ¬ c = separator := fun same => absent.1 same.symm
    simp [splitOnce, other, ih absent.2]

theorem slash_notMem_toDigits (radix n : Nat) (base : 1 < radix) (small : radix ≤ 16) :
    '/' ∉ Nat.toDigits radix n := by
  intro member
  obtain ⟨digit, bound, slash⟩ := mem_toDigits radix n base '/' member
  have plain : ∀ digit < 16, '/' ≠ Nat.digitChar digit := by decide
  exact plain digit (by omega) slash

theorem slash_notMem_printIpv4 (addr : Ipv4Addr) : '/' ∉ printIpv4 addr := by
  obtain ⟨groups, length⟩ := addr
  match groups, length with
  | [a, b, c, d], _ =>
    have clean (octet : BitVec 8) : '/' ∉ decimal octet.toNat :=
      slash_notMem_toDigits 10 octet.toNat (by decide) (by decide)
    simp [printIpv4, clean]

theorem slash_notMem_separated (index : Nat) (segments : List (BitVec 16)) :
    '/' ∉ separated index segments := by
  induction segments generalizing index with
  | nil => simp [separated]
  | cons segment _ ih =>
    have clean : '/' ∉ hexadecimal segment.toNat :=
      slash_notMem_toDigits 16 segment.toNat (by decide) (by decide)
    simp [separated, clean, ih]

theorem slash_notMem_printIpAddr (addr : IpAddr) : '/' ∉ printIpAddr addr := by
  cases addr with
  | v4 addr => exact slash_notMem_printIpv4 addr
  | v6 addr =>
    cases mapping : toIpv4Mapped addr with
    | some => simp [printIpAddr, printIpv6, mapping, slash_notMem_printIpv4]
    | none =>
      simp only [printIpAddr, printIpv6, mapping]
      split
      · simp [printGroups_eq_separated, slash_notMem_separated]
      · simp [printGroups_eq_separated, slash_notMem_separated]

end DnetEngine.Lib
