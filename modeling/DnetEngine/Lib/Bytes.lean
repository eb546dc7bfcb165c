import Mathlib.Data.List.Basic
import Mathlib.Algebra.Ring.Nat

/-! Bytes, the text they spell, their text in base 64, and numbers written in them with the least
significant byte first. -/

namespace DnetEngine.Lib

abbrev Bytes := List UInt8

def utf8 (text : String) : Bytes := text.toByteArray.data.toList

/-- `str::from_utf8`. -/
def fromUtf8 (bytes : Bytes) : Option String := String.fromUTF8? ⟨⟨bytes⟩⟩

def toLeBytes : (width n : Nat) → Bytes
  | 0, _ => []
  | width + 1, n => UInt8.ofNat n :: toLeBytes width (n / 256)

def fromLeBytes : Bytes → Nat
  | [] => 0
  | byte :: rest => byte.toNat + 256 * fromLeBytes rest

/-- The value of a digit of base 64, with the last two digits of its alphabet. -/
def base64Digit (sixtyTwo sixtyThree : Char) (c : Char) : Option Nat :=
  if 'A' ≤ c ∧ c ≤ 'Z' then some (c.toNat - 'A'.toNat)
  else if 'a' ≤ c ∧ c ≤ 'z' then some (c.toNat - 'a'.toNat + 26)
  else if c.isDigit then some (c.toNat - '0'.toNat + 52)
  else if c = sixtyTwo then some 62
  else if c = sixtyThree then some 63
  else none

/-- Four digits are three bytes. The bits of the last digit that no byte takes are zero. -/
def decodeSextets : List Nat → Option Bytes
  | [] => some []
  | [_] => none
  | [a, b] => if b % 16 = 0 then some [UInt8.ofNat (a * 4 + b / 16)] else none
  | [a, b, c] =>
    if c % 4 = 0 then some [UInt8.ofNat (a * 4 + b / 16), UInt8.ofNat (b % 16 * 16 + c / 4)]
    else none
  | a :: b :: c :: d :: rest =>
    (decodeSextets rest).map fun later =>
      UInt8.ofNat (a * 4 + b / 16) :: UInt8.ofNat (b % 16 * 16 + c / 4) ::
        UInt8.ofNat (c % 4 * 64 + d) :: later

/-- `URL_SAFE_NO_PAD`. -/
def decodeUrlSafeNoPad (text : List Char) : Option Bytes :=
  (text.mapM (base64Digit '-' '_')).bind decodeSextets

/-- `STANDARD`, padded to a multiple of four. -/
def decodeStandard (text : List Char) : Option Bytes :=
  let digits := text.takeWhile (fun c => c != '=')
  let padding := text.drop digits.length
  if padding.all (fun c => c == '=') ∧ padding.length ≤ 2 ∧ text.length % 4 = 0 then
    (digits.mapM (base64Digit '+' '/')).bind decodeSextets
  else none

theorem fromUtf8_utf8 (text : String) : fromUtf8 (utf8 text) = some text :=
  dif_pos text.isValidUTF8

section Utf8

theorem utf8_ofList (text : List Char) :
    utf8 (String.ofList text) = text.flatMap String.utf8EncodeChar := by
  rw [utf8, String.toByteArray_ofList, List.utf8Encode, List.data_toByteArray]

theorem utf8_eq (text : String) : utf8 text = text.toList.flatMap String.utf8EncodeChar := by
  rw [← utf8_ofList, String.ofList_toList]

theorem fromUtf8_eq_some {bytes : Bytes} {text : String} :
    fromUtf8 bytes = some text ↔ utf8 text = bytes := by
  constructor
  · intro decoded
    rw [fromUtf8, String.fromUTF8?] at decoded
    split at decoded
    · cases decoded
      rfl
    · cases decoded
  · rintro rfl
    exact fromUtf8_utf8 text

/-- The first character is read off the bytes. -/
theorem utf8EncodeChar_inj {one two : Char} {first second : Bytes}
    (same : String.utf8EncodeChar one ++ first = String.utf8EncodeChar two ++ second) :
    one = two ∧ first = second := by
  have decoded (c : Char) (rest : Bytes) :
      (String.utf8EncodeChar c ++ rest).toByteArray.utf8DecodeChar? 0 = some c := by
    rw [List.toByteArray_append]
    exact ByteArray.utf8DecodeChar?_utf8EncodeChar_append
  have chars : some one = some two := by rw [← decoded one first, same, decoded two second]
  cases chars
  exact ⟨rfl, List.append_cancel_left same⟩

/-- Text that is cut off between two characters is the beginning of the text. -/
theorem isPrefix_of_utf8 {part whole : List Char} {rest : Bytes}
    (cut : part.flatMap String.utf8EncodeChar ++ rest = whole.flatMap String.utf8EncodeChar) :
    part <+: whole := by
  induction part generalizing whole with
  | nil => exact List.nil_prefix
  | cons _ _ ih =>
    cases whole with
    | nil =>
      rw [List.flatMap_nil, List.append_eq_nil_iff, List.flatMap_cons,
        List.append_eq_nil_iff] at cut
      exact absurd cut.1.1 String.utf8EncodeChar_ne_nil
    | cons =>
      rw [List.flatMap_cons, List.append_assoc] at cut
      obtain ⟨rfl, later⟩ := utf8EncodeChar_inj cut
      exact List.cons_prefix_cons.mpr ⟨rfl, ih later⟩

variable {byte : UInt8}

/-- Bytes that are text split into text before a byte with which a character begins. -/
theorem utf8_split {text : List Char} {before after : Bytes} (first : byte.IsUTF8FirstByte)
    (bytes : text.flatMap String.utf8EncodeChar = before ++ byte :: after) :
    ∃ one two, text = one ++ two ∧ one.flatMap String.utf8EncodeChar = before ∧
      two.flatMap String.utf8EncodeChar = byte :: after := by
  induction text generalizing before with
  | nil =>
    simp at bytes
  | cons c text ih =>
    rw [List.flatMap_cons] at bytes
    rcases List.append_eq_append_iff.mp bytes with ⟨middle, isBefore, rest⟩ | ⟨middle, isChar, rest⟩
    · obtain ⟨one, two, rfl, isMiddle, isRest⟩ := ih rest
      exact ⟨c :: one, two, rfl, by rw [List.flatMap_cons, isMiddle, isBefore], isRest⟩
    · cases before with
      | nil => exact ⟨[], c :: text, rfl, rfl, by rw [List.flatMap_cons, bytes, List.nil_append]⟩
      | cons head before =>
        cases middle with
        | nil =>
          refine ⟨[c], text, rfl, ?_, ?_⟩
          · simpa using isChar
          · simpa using rest.symm
        | cons inner =>
          -- The byte would be one inside the encoding of a character.
          have isByte : inner = byte := (List.cons.inj rest).1.symm
          have inside : (head :: before).length < (String.utf8EncodeChar c).length := by
            rw [isChar]
            simp
          have at_ : (String.utf8EncodeChar c)[(head :: before).length] = byte := by
            simp [isChar, isByte]
          have isFirst : (String.utf8EncodeChar c)[(head :: before).length].IsUTF8FirstByte := by
            rw [at_]
            exact first
          have zero := UInt8.isUTF8FirstByte_getElem_utf8EncodeChar.mp isFirst
          simp at zero

theorem mem_utf8EncodeChar {c : Char} (small : byte < 128) (member : byte ∈ String.utf8EncodeChar c)
    : c = Char.ofNat byte.toNat := by
  have bound : byte.toNat < 128 := UInt8.lt_iff_toNat_lt.mp small
  have large {n : Nat} (low : 128 ≤ n) (high : n < 256) (same : byte = UInt8.ofNat n) : False := by
    rw [same, UInt8.toNat_ofNat'] at bound
    omega
  rw [String.utf8EncodeChar.eq_1] at member
  split at member
  next ascii =>
    rw [List.mem_singleton.mp member, UInt8.toNat_ofNat', Nat.mod_eq_of_lt (by omega)]
    exact (Char.ofNat_toNat c).symm
  next =>
    exfalso
    split at member
    · simp only [List.mem_cons, List.not_mem_nil, or_false] at member
      rcases member with same | same <;> exact large (by omega) (by omega) same
    · split at member
      · simp only [List.mem_cons, List.not_mem_nil, or_false] at member
        rcases member with same | same | same <;> exact large (by omega) (by omega) same
      · simp only [List.mem_cons, List.not_mem_nil, or_false] at member
        rcases member with same | same | same | same <;> exact large (by omega) (by omega) same

theorem mem_utf8 {text : String} (small : byte < 128) (member : byte ∈ utf8 text) :
    Char.ofNat byte.toNat ∈ text.toList := by
  rw [utf8_eq] at member
  obtain ⟨c, inside, isByte⟩ := List.mem_flatMap.mp member
  rw [← mem_utf8EncodeChar small isByte]
  exact inside

end Utf8

@[simp] theorem length_toLeBytes (width n : Nat) : (toLeBytes width n).length = width := by
  induction width generalizing n with
  | zero => rfl
  | succ _ ih => simp [toLeBytes, ih]

theorem fromLeBytes_toLeBytes {width n : Nat} (small : n < 256 ^ width) :
    fromLeBytes (toLeBytes width n) = n := by
  induction width generalizing n with
  | zero =>
    have : n = 0 := by simpa using small
    rw [this]
    rfl
  | succ width ih =>
    have rest : n / 256 < 256 ^ width := by
      rw [Nat.div_lt_iff_lt_mul (by decide)]
      exact small
    rw [toLeBytes, fromLeBytes, ih rest]
    exact Nat.mod_add_div n 256

end DnetEngine.Lib
