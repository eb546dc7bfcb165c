import DnetEngine.Lib.Bytes

/-! Fields written after their length in decimal, which are read back from whatever follows them. -/

namespace DnetEngine.Lib

theorem append_stop_inj {Item : Type} {stop : Item} {first second after later : List Item}
    (plain : stop ∉ first) (alsoPlain : stop ∉ second)
    (same : first ++ stop :: after = second ++ stop :: later) : first = second ∧ after = later := by
  induction first generalizing second with
  | nil =>
    cases second with
    | nil => exact ⟨rfl, (List.cons.inj same).2⟩
    | cons item =>
      have isStop : stop = item := (List.cons.inj same).1
      exact absurd (isStop ▸ List.mem_cons_self) alsoPlain
  | cons item _ ih =>
    cases second with
    | nil =>
      have isStop : item = stop := (List.cons.inj same).1
      exact absurd (isStop ▸ List.mem_cons_self) plain
    | cons =>
      obtain ⟨rfl, rest⟩ := List.cons.inj same
      rw [List.mem_cons, not_or] at plain alsoPlain
      obtain ⟨rfl, tail⟩ := ih plain.2 alsoPlain.2 rest
      exact ⟨rfl, tail⟩

theorem utf8_injective {one two : String} (same : utf8 one = utf8 two) : one = two := by
  apply Option.some.inj
  rw [← fromUtf8_utf8 one, same, fromUtf8_utf8]

theorem toString_injective {n m : Nat} (same : toString n = toString m) : n = m := by
  have digits : Nat.toDigits 10 n = Nat.toDigits 10 m := by
    simpa only [Nat.toString_eq_repr, Nat.toList_repr] using congrArg String.toList same
  calc
    n = Nat.ofDigitChars 10 (Nat.toDigits 10 n) 0 := Nat.ofDigitChars_ten_toDigits.symm
    _ = Nat.ofDigitChars 10 (Nat.toDigits 10 m) 0 := by rw [digits]
    _ = m := Nat.ofDigitChars_ten_toDigits

theorem blank_notMem_utf8EncodeChar {c : Char} (digit : c.isDigit = true) :
    (32 : UInt8) ∉ String.utf8EncodeChar c := by
  simp only [Char.isDigit, Bool.and_eq_true, decide_eq_true_eq] at digit
  have bounds : 48 ≤ c.val.toNat ∧ c.val.toNat ≤ 57 := digit
  have short : c.utf8Size = 1 := by
    rw [Char.utf8Size_eq_one_iff]
    exact Nat.le_trans bounds.2 (by decide)
  rw [String.utf8EncodeChar_eq_singleton short, List.mem_singleton]
  intro blank
  have number : 32 = c.val.toNat % 256 := by
    rw [← UInt32.toNat_toUInt8, ← blank]
    rfl
  omega

theorem blank_notMem_decimal (n : Nat) : (32 : UInt8) ∉ utf8 (toString n) := by
  rw [utf8_eq, List.mem_flatMap]
  rintro ⟨c, member, blank⟩
  rw [Nat.toString_eq_repr, Nat.toList_repr] at member
  exact blank_notMem_utf8EncodeChar (Nat.isDigit_of_mem_toDigits (by decide) (by decide) member)
    blank

/-- A field: its length in decimal, a blank, and its bytes. -/
def counted (field : Bytes) : Bytes := utf8 (toString field.length) ++ 32 :: field

/-- A field ends where its length says, whatever bytes it has. -/
theorem counted_append_inj {one two after later : Bytes}
    (same : counted one ++ after = counted two ++ later) : one = two ∧ after = later := by
  simp only [counted, List.append_assoc] at same
  obtain ⟨lengths, rest⟩ :=
    append_stop_inj (blank_notMem_decimal one.length) (blank_notMem_decimal two.length) same
  have length : one.length = two.length := toString_injective (utf8_injective lengths)
  exact List.append_inj rest length

end DnetEngine.Lib
