import Mathlib.Data.List.Infix

/-! Domain names: the form in which they are compared, and what is beneath a name. -/

namespace DnetEngine

def isAscii (c : Char) : Bool := decide (c.toNat < 128)

def isLabel (label : List Char) : Bool :=
  decide (1 ≤ label.length ∧ label.length ≤ 63) && label.head? != some '-' &&
    label.getLast? != some '-' && label.all (fun c => c.isAlphanum || c == '-' || c == '_')

/-- The text without one trailing dot. -/
def stripDot (name : List Char) : List Char :=
  if name.getLast? = some '.' then name.dropLast else name

/-- A domain name made comparable: lower case, no trailing dot. -/
def normalizeDomain (name : String) : Option String :=
  let name := stripDot name.toList
  if name.isEmpty || decide (253 < name.length) || !name.all isAscii then none
  else
    let lower := name.map Char.toLower
    if (lower.splitOn '.').all isLabel then some (String.ofList lower) else none

def stripSuffix (suffix domain : List Char) : Option (List Char) :=
  if suffix.isSuffixOf domain then some (domain.take (domain.length - suffix.length)) else none

/-- `domain` is `suffix` or a name beneath it. -/
def under (domain suffix : String) : Bool :=
  domain == suffix || (stripSuffix suffix.toList domain.toList).any
    (fun head => head.getLast? == some '.')

def isHostLabel (label : List Char) : Bool :=
  decide (1 ≤ label.length ∧ label.length ≤ 63) &&
    label.all (fun c => c.isAlphanum || c == '-') &&
    label.head? != some '-' && label.getLast? != some '-'

/-- A host name of several labels, the last of which is not a number. -/
def isDnsHostname (name : String) : Bool :=
  let labels := name.toList.splitOn '.'
  !name.isEmpty && decide (name.utf8ByteSize ≤ 253) && decide (2 ≤ labels.length) &&
    labels.all isHostLabel && !(labels.getLastD []).all Char.isDigit

theorem toLower_toLower (c : Char) : c.toLower.toLower = c.toLower := by
  unfold Char.toLower
  split
  next upper =>
    split
    next again =>
      simp only [UInt32.le_iff_toNat_le] at upper again
      simp at upper again
      omega
    · rfl
  · rfl

def Normalised (name : String) : Prop := normalizeDomain name = some name

instance (name : String) : Decidable (Normalised name) :=
  inferInstanceAs (Decidable (_ = _))

theorem under_iff (domain suffix : String) :
    under domain suffix = true ↔
      domain = suffix ∨ ∃ head, domain.toList = head ++ '.' :: suffix.toList := by
  simp only [under, Bool.or_eq_true, beq_iff_eq, Option.any_eq_true]
  refine or_congr_right ?_
  constructor
  · rintro ⟨head, stripped, dotted⟩
    obtain ⟨ends, stripped⟩ := Option.ite_none_right_eq_some.mp stripped
    obtain ⟨before, whole⟩ := List.isSuffixOf_iff_suffix.mp ends
    have same : before = head := by
      rw [← Option.some.inj stripped, ← whole, List.length_append, Nat.add_sub_cancel,
        List.take_left]
    subst same
    obtain ⟨init, rfl⟩ := List.getLast?_eq_some_iff.mp dotted
    exact ⟨init, by rw [← whole, List.append_assoc, List.singleton_append]⟩
  · rintro ⟨head, whole⟩
    have shape : (head ++ ['.']) ++ suffix.toList = domain.toList := by
      rw [whole, List.append_assoc, List.singleton_append]
    refine ⟨head ++ ['.'], ?_, by simp⟩
    have ends : suffix.toList.isSuffixOf domain.toList = true :=
      List.isSuffixOf_iff_suffix.mpr ⟨head ++ ['.'], shape⟩
    rw [stripSuffix, if_pos ends, ← shape, List.length_append, Nat.add_sub_cancel, List.take_left]

theorem normalised_parts {name : String} (normal : Normalised name) :
    name.toList.getLast? ≠ some '.' ∧ name.toList ≠ [] ∧ name.toList.length ≤ 253 ∧
      name.toList.all isAscii = true ∧ name.toList.map Char.toLower = name.toList ∧
      (name.toList.splitOn '.').all isLabel = true := by
  obtain ⟨accepted, normal⟩ := Option.ite_none_left_eq_some.mp normal
  obtain ⟨labels, normal⟩ := Option.ite_none_right_eq_some.mp normal
  have lower : (stripDot name.toList).map Char.toLower = name.toList := by
    have same := congrArg String.toList (Option.some.inj normal)
    rwa [String.toList_ofList] at same
  have undotted : name.toList.getLast? ≠ some '.' := by
    intro dotted
    have length := congrArg List.length lower
    rw [List.length_map, stripDot, if_pos dotted, List.length_dropLast] at length
    have some_ : name.toList ≠ [] := by
      intro empty
      rw [empty] at dotted
      cases dotted
    have positive := List.length_pos_of_ne_nil some_
    omega
  have whole : stripDot name.toList = name.toList := if_neg undotted
  rw [whole] at lower labels accepted
  simp only [Bool.or_eq_true, List.isEmpty_iff, decide_eq_true_eq, Bool.not_eq_true',
    not_or, Bool.not_eq_false, not_lt] at accepted
  rw [lower] at labels
  exact ⟨undotted, accepted.1.1, accepted.1.2, accepted.2, lower, labels⟩

theorem normalised_suffix {name suffix : String} (normal : Normalised name) {head : List Char}
    (whole : name.toList = head ++ '.' :: suffix.toList) : Normalised suffix := by
  obtain ⟨undotted, _, short, ascii, lower, labels⟩ := normalised_parts normal
  rw [whole] at undotted short ascii lower labels
  have some_ : suffix.toList ≠ [] := by
    intro empty
    rw [empty] at undotted
    simp at undotted
  have lastUndotted : suffix.toList.getLast? ≠ some '.' := by
    intro dotted
    obtain ⟨init, parts⟩ := List.getLast?_eq_some_iff.mp dotted
    apply undotted
    rw [parts, ← List.cons_append, ← List.append_assoc]
    exact List.getLast?_concat
  have strip : stripDot suffix.toList = suffix.toList := if_neg lastUndotted
  rw [List.all_append, List.all_cons, Bool.and_eq_true, Bool.and_eq_true] at ascii
  rw [List.length_append, List.length_cons] at short
  have sameLower : suffix.toList.map Char.toLower = suffix.toList := by
    rw [List.map_append] at lower
    exact (List.cons.inj (List.append_inj_right lower (by rw [List.length_map]))).2
  have sameLabels : (suffix.toList.splitOn '.').all isLabel = true := by
    have parts : (head ++ '.' :: suffix.toList).splitOn '.' =
        head.splitOn '.' ++ suffix.toList.splitOn '.' :=
      List.splitOnP_append_cons head suffix.toList (by simp)
    rw [parts, List.all_append, Bool.and_eq_true] at labels
    exact labels.2
  have accepted : (suffix.toList.isEmpty || decide (253 < suffix.toList.length) ||
      !suffix.toList.all isAscii) = false := by
    simp only [Bool.or_eq_false_iff, List.isEmpty_eq_false_iff, decide_eq_false_iff_not,
      Bool.not_eq_false']
    exact ⟨⟨some_, by omega⟩, ascii.2.2⟩
  unfold Normalised normalizeDomain
  simp only [strip, accepted, sameLower, sameLabels, Bool.false_eq_true, if_false, if_true,
    String.ofList_toList]

end DnetEngine
