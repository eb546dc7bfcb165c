import DnetEngine.Lib.IpRoundTrip

/-! Hexadecimal text of a fixed width. -/

namespace DnetEngine.Lib

/-- The low `width` hexadecimal digits of `n`, lower case. -/
def hexDigits (width n : Nat) : List Char :=
  (List.range width).reverse.map (fun i => Nat.digitChar (n / 16^i % 16))

def hexPadded (width n : Nat) : String := String.ofList (hexDigits width n)

/-- The number that hexadecimal digits of either case spell. -/
def hexNumber : (read : Nat) → List Char → Option Nat
  | read, [] => some read
  | read, c :: rest => (toDigit 16 c).bind fun digit => hexNumber (read * 16 + digit) rest

/-- `len` lower-case hexadecimal digits. -/
def isLowerHex (text : List Char) (len : Nat) : Bool :=
  decide (text.length = len) && text.all (fun c => c.isDigit || (decide ('a' ≤ c) && decide (c ≤ 'f')))

@[simp] theorem length_hexDigits (width n : Nat) : (hexDigits width n).length = width := by
  simp [hexDigits]

theorem hexDigits_succ (width n : Nat) :
    hexDigits (width + 1) n = Nat.digitChar (n / 16^width % 16) :: hexDigits width n := by
  simp [hexDigits, List.range_succ]

theorem hexNumber_hexDigits (width n read : Nat) (rest : List Char) :
    hexNumber read (hexDigits width n ++ rest) = hexNumber (read * 16^width + n % 16^width) rest := by
  induction width generalizing read with
  | zero => simp [hexDigits, Nat.mod_one]
  | succ width ih =>
    have digit : n / 16^width % 16 < 16 := Nat.mod_lt _ (by decide)
    rw [hexDigits_succ, List.cons_append, hexNumber, toDigit_digitChar 16 _ (by decide) digit,
      Option.bind_some, ih]
    rw [Nat.pow_succ, Nat.mod_mul]
    ring

theorem digitChar_lowerHex : ∀ digit < 16,
    ((Nat.digitChar digit).isDigit ||
      (decide ('a' ≤ Nat.digitChar digit) && decide (Nat.digitChar digit ≤ 'f'))) = true := by
  decide

theorem isLowerHex_hexDigits (width n : Nat) : isLowerHex (hexDigits width n) width = true := by
  rw [isLowerHex, length_hexDigits, decide_eq_true rfl, Bool.true_and, List.all_eq_true]
  intro c member
  obtain ⟨i, _, rfl⟩ := List.mem_map.mp member
  exact digitChar_lowerHex _ (Nat.mod_lt _ (by decide))

theorem hyphen_notMem_hexDigits (width n : Nat) : '-' ∉ hexDigits width n := by
  intro member
  have lower := isLowerHex_hexDigits width n
  have digit := List.all_eq_true.mp (Bool.and_eq_true_iff.mp lower).2 '-' member
  revert digit
  decide

end DnetEngine.Lib
