import DnetEngine.Lib.Hex

/-! Text, as a list of characters, searched for a part of it. -/

namespace DnetEngine.Lib

abbrev Text := List Char

/-- `str::find`. -/
def findText (pattern : Text) : Text → Option Nat
  | [] => if pattern.isPrefixOf [] then some 0 else none
  | c :: rest =>
    if pattern.isPrefixOf (c :: rest) then some 0
    else (findText pattern rest).map (· + 1)

/-- `str::contains`. -/
def containsText (pattern text : Text) : Bool := (findText pattern text).isSome

/-- `str::strip_prefix`. -/
def stripped (start text : Text) : Option Text :=
  if start.isPrefixOf text then some (text.drop start.length) else none

/-- The digits of a number that may have a sign. -/
def withoutPlus : Text → Text
  | '+' :: rest => rest
  | other => other

/-- `u32::from_str_radix` and its like, in base 16. -/
def fromHex (bits : Nat) (text : Text) : Option Nat :=
  if withoutPlus text = [] then none
  else (hexNumber 0 (withoutPlus text)).filter (fun n => decide (n < 2^bits))

theorem containsText_iff {pattern text : Text} : containsText pattern text = true ↔ pattern <:+: text := by
  rw [containsText]
  induction text with
  | nil =>
    rw [findText]
    split
    next here =>
      have : pattern = [] := List.prefix_nil.mp (List.isPrefixOf_iff_prefix.mp here)
      simp [this]
    next other =>
      have : pattern ≠ [] := fun none_ => other (by simp [none_])
      simp [this]
  | cons _ _ ih =>
    rw [findText, List.infix_cons_iff, ← ih, ← List.isPrefixOf_iff_prefix]
    split
    next here => simp [here]
    next other => simp [other]

theorem withoutPlus_same {text : Text} (unsigned : '+' ∉ text) : withoutPlus text = text := by
  unfold withoutPlus
  split
  · exact absurd List.mem_cons_self unsigned
  · rfl

theorem stripped_append (start rest : Text) : stripped start (start ++ rest) = some rest := by
  rw [stripped, if_pos (List.isPrefixOf_iff_prefix.mpr (List.prefix_append _ _)), List.drop_left]

section Marker

-- A marker of two characters, the second of which is rare.
variable {a b : Char}

theorem isPrefixOf_pair {c d : Char} {rest : Text} :
    [a, b].isPrefixOf (c :: d :: rest) = (decide (a = c) && decide (b = d)) := by
  simp [List.isPrefixOf, BEq.beq]

theorem findText_here (rest : Text) : findText [a, b] (a :: b :: rest) = some 0 := by
  rw [findText]
  simp

variable {before : Text}

/-- The marker is not found before its second character comes up. -/
theorem findText_skip (rare : b ∉ before) (c : Char) (other : b ≠ c) (rest : Text) :
    findText [a, b] (before ++ c :: rest) =
      (findText [a, b] (c :: rest)).map (· + before.length) := by
  induction before with
  | nil => simp
  | cons first before ih =>
    rw [List.mem_cons, not_or] at rare
    have absent : [a, b].isPrefixOf (first :: (before ++ c :: rest)) = false := by
      cases before with
      | nil => rw [List.nil_append, isPrefixOf_pair]; simp [other]
      | cons =>
        rw [List.cons_append, isPrefixOf_pair]
        simp [(not_or.mp (List.mem_cons.not.mp rare.2)).1]
    rw [List.cons_append, findText, absent, ih rare.2, Option.map_map]
    congr 1

theorem findText_marked (rare : b ∉ before) (other : b ≠ a) (rest : Text) :
    findText [a, b] (before ++ a :: b :: rest) = some before.length := by
  rw [findText_skip rare a other, findText_here]
  simp

/-- Another marker with the same second character is passed. -/
theorem findText_passes {c : Char} (rare : b ∉ before) (other : b ≠ c) (different : a ≠ c)
    (unlike : a ≠ b) (rest : Text) :
    findText [a, b] (before ++ c :: b :: rest) =
      (findText [a, b] rest).map (· + (before.length + 2)) := by
  have absent : [a, b].isPrefixOf (c :: b :: rest) = false := by
    rw [isPrefixOf_pair]
    simp [different]
  have still : [a, b].isPrefixOf (b :: rest) = false := by
    cases rest with
    | nil => simp [List.isPrefixOf]
    | cons => rw [isPrefixOf_pair]; simp [unlike]
  rw [findText_skip rare c other, findText, absent, findText, still]
  simp only [Bool.false_eq_true, if_false, Option.map_map]
  congr 1
  funext n
  simp only [Function.comp]
  omega

theorem containsText_pair {c d : Char} {rest : Text} :
    containsText [a, b] (c :: d :: rest) =
      ((decide (a = c) && decide (b = d)) || containsText [a, b] (d :: rest)) := by
  rw [containsText, findText, isPrefixOf_pair]
  split
  next found => simp [found]
  next absent =>
    rw [Bool.not_eq_true] at absent
    rw [absent, Option.isSome_map, Bool.false_or, containsText]

end Marker

section Window

variable {Item : Type} {needle haystack : List Item} {place : Nat}

theorem place_le_of_isPrefix (some_ : needle ≠ []) (here : needle <+: haystack.drop place) :
    place + needle.length ≤ haystack.length := by
  have fits := here.length_le
  have long := List.length_pos_of_ne_nil some_
  rw [List.length_drop] at fits
  omega

theorem isPrefix_drop_append (more : List Item) (fits : place + needle.length ≤ haystack.length) :
    needle <+: (haystack ++ more).drop place ↔ needle <+: haystack.drop place := by
  rw [List.drop_append_of_le_length (by omega)]
  refine ⟨fun here => ?_, fun here => here.trans (List.prefix_append _ _)⟩
  exact List.prefix_of_prefix_length_le here (List.prefix_append _ _)
    (by rw [List.length_drop]; omega)

variable [DecidableEq Item]

/-- `haystack.windows(needle.len()).position(|w| w == needle)`, for a needle that is not empty. -/
def findWindow (needle : List Item) : List Item → Option Nat
  | [] => none
  | item :: rest =>
    if needle.isPrefixOf (item :: rest) then some 0
    else (findWindow needle rest).map (· + 1)

section

variable (some_ : needle ≠ [])

include some_

theorem findWindow_eq_some_iff :
    findWindow needle haystack = some place ↔
      needle <+: haystack.drop place ∧ ∀ earlier < place, ¬ needle <+: haystack.drop earlier := by
  induction haystack generalizing place with
  | nil => simp only [findWindow, reduceCtorEq, List.drop_nil, List.prefix_nil, some_, false_and]
  | cons _ _ ih =>
    simp only [findWindow, List.isPrefixOf_iff_prefix]
    split
    next here =>
      rw [Option.some_inj]
      constructor
      · rintro rfl
        exact ⟨here, fun earlier before => absurd before (Nat.not_lt_zero _)⟩
      · rintro ⟨_, first⟩
        exact (Nat.eq_zero_of_not_pos fun later => first 0 later here).symm
    next other =>
      cases place with
      | zero => simp only [Option.map_eq_some_iff, Nat.succ_ne_zero, and_false, exists_false,
          List.drop_zero, other, false_and]
      | succ =>
        rw [Option.map_eq_some_iff]
        simp only [Nat.add_right_cancel_iff, exists_eq_right, ih]
        refine and_congr_right fun _ => ⟨fun none_ earlier before => ?_, fun none_ earlier before =>
          none_ (earlier + 1) (Nat.succ_lt_succ before)⟩
        cases earlier with
        | zero => exact other
        | succ earlier => exact none_ earlier (Nat.lt_of_succ_lt_succ before)

/-- What is found in the beginning of a list is found in all of it, and the other way round if it
ends there. -/
theorem findWindow_append (more : List Item) (fits : place + needle.length ≤ haystack.length) :
    findWindow needle (haystack ++ more) = some place ↔ findWindow needle haystack = some place := by
  rw [findWindow_eq_some_iff some_, findWindow_eq_some_iff some_, isPrefix_drop_append more fits]
  refine and_congr_right fun _ => forall₂_congr fun earlier before => ?_
  rw [isPrefix_drop_append more (by omega)]

theorem fits_of_findWindow (found : findWindow needle haystack = some place) :
    place + needle.length ≤ haystack.length :=
  place_le_of_isPrefix some_ ((findWindow_eq_some_iff some_).mp found).1

theorem findWindow_eq_none (item : Item) (wanted : item ∈ needle) (absent : item ∉ haystack) :
    findWindow needle haystack = none := by
  cases found : findWindow needle haystack with
  | none => rfl
  | some =>
    have here := ((findWindow_eq_some_iff some_).mp found).1
    exact absurd (List.mem_of_mem_drop (here.subset wanted)) absent

end

theorem findWindow_marked {mark : Item} {before : List Item} (absent : mark ∉ before)
    (rest later : List Item) :
    findWindow (mark :: rest) (before ++ mark :: rest ++ later) = some before.length := by
  induction before with
  | nil => simp [findWindow]
  | cons _ _ ih =>
    rw [List.mem_cons, not_or] at absent
    obtain ⟨other, absent⟩ := absent
    simp only [List.cons_append, findWindow, List.isPrefixOf_iff_prefix, List.cons_prefix_cons,
      other, false_and, if_false, ih absent, Option.map_some, List.length_cons]

end Window

end DnetEngine.Lib
