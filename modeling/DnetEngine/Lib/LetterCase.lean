import DnetEngine.Lib.Search
import Mathlib

/-! The lower case of text, and text that contains a part ignoring ASCII case. -/

namespace DnetEngine.Lib

theorem toLower_cases (c : Char) :
    c.toLower = c ∨ (65 ≤ c.toNat ∧ c.toNat ≤ 90 ∧ c.toLower.toNat = c.toNat + 32) := by
  rw [Char.toLower]
  split
  next letter =>
    right
    obtain ⟨low, high⟩ := letter
    have high : c.toNat ≤ 90 := UInt32.le_iff_toNat_le.mp high
    refine ⟨low, high, ?_⟩
    change (c.val + 32).toNat = c.val.toNat + 32
    have value : c.val.toNat = c.toNat := rfl
    rw [UInt32.toNat_add]
    have small : (32 : UInt32).toNat = 32 := rfl
    omega
  next => exact .inl rfl

theorem toLower_eq {c d : Char} (same : c.toLower = d.toLower) :
    c = d ∨ (65 ≤ c.toNat ∧ c.toNat ≤ 122 ∧ 65 ≤ d.toNat ∧ d.toNat ≤ 122 ∧ c.toNat ≠ 92 ∧
      d.toNat ≠ 92) := by
  have numbers := congrArg Char.toNat same
  rcases toLower_cases c with sameC | ⟨lowC, highC, loweredC⟩
  · rcases toLower_cases d with sameD | ⟨lowD, highD, loweredD⟩
    · exact .inl (by rw [← sameC, same, sameD])
    · right
      rw [sameC] at numbers
      omega
  · right
    rcases toLower_cases d with sameD | ⟨lowD, highD, loweredD⟩
    · rw [sameD] at numbers
      omega
    · omega

/-- What the Unicode tables tell of a character. -/
structure CaseTables where
  lower : Char → Text
  cased : Char → Bool
  caseIgnorable : Char → Bool
  lower_ascii : ∀ c : Char, c.toNat < 128 → lower c = [c.toLower]

def capitalSigma : Char := 'Σ'

namespace CaseTables

variable (tables : CaseTables)

/-- The first character that is not ignorable is a cased one. -/
def ignorableThenCased (text : Text) : Bool :=
  match text.dropWhile tables.caseIgnorable with
  | [] => false
  | c :: _ => tables.cased c

/-- The lower case of what follows `before`, which is given from its end. A capital sigma is another
letter at the end of a word. -/
def lowerFrom (before : Text) : Text → Text
  | [] => []
  | c :: rest =>
    (if c = capitalSigma then
      [if tables.ignorableThenCased before && !tables.ignorableThenCased rest then 'ς' else 'σ']
    else tables.lower c) ++ lowerFrom (c :: before) rest

/-- `str::to_lowercase`. -/
def toLowercase (text : Text) : Text := tables.lowerFrom [] text

variable {text : Text}

theorem lowerFrom_append (before : Text) (plain : capitalSigma ∉ text) (rest : Text) :
    tables.lowerFrom before (text ++ rest) =
      text.flatMap tables.lower ++ tables.lowerFrom (text.reverse ++ before) rest := by
  induction text generalizing before with
  | nil => rfl
  | cons c _ ih =>
    have other : c ≠ capitalSigma := fun same => plain (same ▸ List.mem_cons_self)
    rw [List.cons_append, lowerFrom, if_neg other,
      ih (c :: before) fun member => plain (List.mem_cons_of_mem _ member)]
    simp

theorem toLowercase_plain (plain : capitalSigma ∉ text) :
    tables.toLowercase text = text.flatMap tables.lower := by
  have whole := tables.lowerFrom_append [] plain []
  rw [List.append_nil] at whole
  rw [toLowercase, whole]
  simp [lowerFrom]

theorem lowerFrom_suffix (before first rest : Text) :
    tables.lowerFrom (first.reverse ++ before) rest <:+ tables.lowerFrom before (first ++ rest) := by
  induction first generalizing before with
  | nil => exact List.suffix_refl _
  | cons c _ ih =>
    have later := ih (c :: before)
    rw [List.reverse_cons, List.append_assoc]
    exact later.trans (List.suffix_append _ _)

/-- A part without a capital sigma is found, lowered, in the lower case of the whole. -/
theorem infix_toLowercase {part : Text} (plain : capitalSigma ∉ part) (inside : part <:+: text) :
    part.flatMap tables.lower <:+: tables.toLowercase text := by
  obtain ⟨first, rest, rfl⟩ := inside
  rw [List.append_assoc]
  have suffix := tables.lowerFrom_suffix [] first (part ++ rest)
  rw [tables.lowerFrom_append _ plain] at suffix
  exact (List.prefix_append _ _).isInfix.trans suffix.isInfix

theorem lower_of_toLower {c d : Char} (same : c.toLower = d.toLower) :
    tables.lower c = tables.lower d := by
  rcases toLower_eq same with rfl | ⟨_, highC, _, highD, _⟩
  · rfl
  · rw [tables.lower_ascii c (by omega), tables.lower_ascii d (by omega), same]

end CaseTables

def ContainsIgnoringCase (part text : Text) : Prop := part.map Char.toLower <:+: text.map Char.toLower

instance (part text : Text) : Decidable (ContainsIgnoringCase part text) :=
  inferInstanceAs (Decidable (part.map Char.toLower <:+: text.map Char.toLower))

theorem CaseTables.flatMap_lower (tables : CaseTables) {part found : Text}
    (same : part.map Char.toLower = found.map Char.toLower) :
    part.flatMap tables.lower = found.flatMap tables.lower := by
  induction part generalizing found with
  | nil =>
    cases found with
    | nil => rfl
    | cons => cases same
  | cons _ _ ih =>
    cases found with
    | nil => cases same
    | cons =>
      rw [List.map_cons, List.map_cons, List.cons.injEq] at same
      rw [List.flatMap_cons, List.flatMap_cons, tables.lower_of_toLower same.1, ih same.2]

theorem forall_of_sameLower {holds : Char → Prop}
    (kept : ∀ c d : Char, c.toLower = d.toLower → holds c → holds d) {part found : Text}
    (same : part.map Char.toLower = found.map Char.toLower) (all : ∀ c ∈ part, holds c) :
    ∀ c ∈ found, holds c := by
  intro d member
  have lowered : d.toLower ∈ part.map Char.toLower := same ▸ List.mem_map_of_mem member
  obtain ⟨c, inside, isLower⟩ := List.mem_map.mp lowered
  exact kept c d isLower (all c inside)

end DnetEngine.Lib
