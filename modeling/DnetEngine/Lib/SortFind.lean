import Mathlib.Data.List.Sort
import Mathlib.Data.List.Lex

/-! Lists searched and changed by their first match, and lists sorted by a key with ties kept in
the given order. -/

namespace DnetEngine.Lib

variable {Item Key : Type}

/-- The list with its first selected item changed, as `iter_mut().find(..)` changes it. -/
def updateFirst (selected : Item → Bool) (change : Item → Item) : List Item → List Item
  | [] => []
  | item :: rest =>
    if selected item then change item :: rest
    else item :: updateFirst selected change rest

/-- Stable sort by a key: ties keep the given order. -/
def sortByKey [LinearOrder Key] (key : Item → Key) (items : List Item) : List Item :=
  items.insertionSort (fun left right => key left ≤ key right)

/-- The least item; of equal ones the first given, as `min_by` keeps it. -/
def minBy (order : Item → Item → Ordering) : List Item → Option Item
  | [] => none
  | item :: rest =>
    some (rest.foldl (fun least other => if order least other = .gt then other else least) item)

theorem map_updateFirst {Value : Type} (selected : Item → Bool) (change : Item → Item)
    (view : Item → Value) (kept : ∀ item, view (change item) = view item) (items : List Item) :
    (updateFirst selected change items).map view = items.map view := by
  induction items with
  | nil => rfl
  | cons item _ ih =>
    by_cases chosen : selected item
    · simp [updateFirst, chosen, kept]
    · simp [updateFirst, chosen, ih]

theorem updateFirst_of_absent (selected : Item → Bool) (change : Item → Item)
    (items : List Item) (absent : ∀ item ∈ items, selected item = false) :
    updateFirst selected change items = items := by
  induction items with
  | nil => rfl
  | cons item _ ih =>
    have first := absent item (by simp)
    have others := ih (fun item member => absent item (List.mem_cons_of_mem _ member))
    simp [updateFirst, first, others]

variable (key : Item → Key)

/-- With distinct keys the first item of a key is the only one, whatever else is asked of it. -/
theorem updateFirst_and_eq_map [DecidableEq Key] (wanted : Key) (eligible : Item → Bool)
    (change : Item → Item) (items : List Item) (distinct : (items.map key).Nodup) :
    updateFirst (fun item => key item == wanted && eligible item) change items =
      items.map (fun item => if key item = wanted ∧ eligible item = true then change item else item) := by
  induction items with
  | nil => rfl
  | cons item rest ih =>
    obtain ⟨fresh, distinctRest⟩ := List.nodup_cons.mp distinct
    by_cases chosen : key item = wanted ∧ eligible item = true
    · have untouched : rest.map (fun item =>
          if key item = wanted ∧ eligible item = true then change item else item) = rest := by
        refine (List.map_congr_left ?_).trans (List.map_id rest)
        intro other member
        have different : key other ≠ wanted := by
          intro same
          exact fresh (List.mem_map.mpr ⟨other, member, same.trans chosen.1.symm⟩)
        simp [different]
      simp [updateFirst, chosen, untouched]
    · simp [updateFirst, chosen, ih distinctRest]

theorem updateFirst_eq_map [DecidableEq Key] (wanted : Key) (change : Item → Item)
    (items : List Item) (distinct : (items.map key).Nodup) :
    updateFirst (fun item => key item == wanted) change items =
      items.map (fun item => if key item = wanted then change item else item) := by
  simpa using updateFirst_and_eq_map key wanted (fun _ => true) change items distinct

theorem mem_sortByKey [LinearOrder Key] (items : List Item) (item : Item) :
    item ∈ sortByKey key items ↔ item ∈ items :=
  List.mem_insertionSort _

theorem sortByKey_eq_nil [LinearOrder Key] (items : List Item) :
    sortByKey key items = [] ↔ items = [] := by
  rw [← List.length_eq_zero_iff, ← List.length_eq_zero_iff, sortByKey, List.length_insertionSort]

/-- With distinct keys the order given does not matter. -/
theorem sortByKey_perm [LinearOrder Key] {key : Item → Key} {items others : List Item}
    (same : items.Perm others) (distinct : (items.map key).Nodup) :
    sortByKey key items = sortByKey key others := by
  have sorted (items : List Item) : (sortByKey key items).Perm items := List.perm_insertionSort _ items
  refine List.Perm.eq_of_pairwise (fun left right memberLeft memberRight le ge => ?_)
    (List.pairwise_insertionSort _ items) (List.pairwise_insertionSort _ others)
    (((sorted items).trans same).trans (sorted others).symm)
  exact List.inj_on_of_nodup_map distinct ((mem_sortByKey key items left).mp memberLeft)
    (same.mem_iff.mpr ((mem_sortByKey key others right).mp memberRight)) (le_antisymm le ge)

theorem find?_key [DecidableEq Key] (items : List Item) (item : Item)
    (distinct : (items.map key).Nodup) (member : item ∈ items) :
    items.find? (fun other => key other == key item) = some item := by
  induction items with
  | nil => simp at member
  | cons head _ ih =>
    obtain ⟨fresh, distinctRest⟩ := List.nodup_cons.mp distinct
    rcases List.mem_cons.mp member with rfl | inside
    · simp
    · have different : key head ≠ key item := by
        intro same
        exact fresh (List.mem_map.mpr ⟨item, inside, same.symm⟩)
      simp [different, ih distinctRest inside]

theorem minBy_mem (order : Item → Item → Ordering) (items : List Item) (least : Item)
    (found : minBy order items = some least) : least ∈ items := by
  cases items with
  | nil => cases found
  | cons item rest =>
    rw [minBy, Option.some_inj] at found
    rw [← found]
    clear found
    induction rest generalizing item with
    | nil => simp
    | cons other _ ih =>
      rw [List.foldl_cons]
      split
      · exact List.mem_cons_of_mem _ (ih other)
      · rcases List.mem_cons.mp (ih item) with same | inside
        · exact List.mem_cons.mpr (Or.inl same)
        · exact List.mem_cons_of_mem _ (List.mem_cons_of_mem _ inside)

/-- An item that nothing is less than is the least, if it stands first. -/
theorem minBy_head {order : Item → Item → Ordering} {item : Item} {rest : List Item}
    (least : ∀ other ∈ rest, order item other ≠ .gt) : minBy order (item :: rest) = some item := by
  refine congrArg some ?_
  induction rest with
  | nil => rfl
  | cons other _ ih =>
    rw [List.foldl_cons, if_neg (least other (.head _))]
    exact ih fun other member => least other (.tail _ member)

/-- What stands before the least item is greater, and what follows it is no less. -/
structure IsFirstLeast (order : Item → Item → Ordering) (before : List Item) (least : Item)
    (after : List Item) : Prop where
  before : ∀ item ∈ before, order item least = .gt
  after : ∀ item ∈ after, order least item ≠ .gt

section Least

variable {order : Item → Item → Ordering}
  (trans : ∀ a b c, order a b ≠ .gt → order b c ≠ .gt → order a c ≠ .gt)
  (total : ∀ a b, order a b = .gt → order b a ≠ .gt)

include trans total

theorem IsFirstLeast.replaced {before after : List Item} {least next : Item}
    (first : IsFirstLeast order before least after) (greater : order least next = .gt) :
    IsFirstLeast order (before ++ least :: after) next [] where
  before := by
    intro item member
    by_contra notGreater
    rcases List.mem_append.mp member with early | late
    · exact trans _ _ _ (total _ _ (first.before item early)) notGreater greater
    · rcases List.mem_cons.mp late with rfl | later
      · exact notGreater greater
      · exact trans _ _ _ (first.after item later) notGreater greater
  after := fun _ member => absurd member List.not_mem_nil

theorem foldl_least (rest before after : List Item) (least : Item)
    (first : IsFirstLeast order before least after) :
    ∃ earlier found later, before ++ least :: after ++ rest = earlier ++ found :: later ∧
      rest.foldl (fun least other => if order least other = .gt then other else least) least = found ∧
      IsFirstLeast order earlier found later := by
  induction rest generalizing before least after with
  | nil => exact ⟨before, least, after, List.append_nil _, rfl, first⟩
  | cons next _ ih =>
    rw [List.foldl_cons]
    split
    next greater =>
      obtain ⟨earlier, found, later, same, folded, holds⟩ :=
        ih _ [] next (first.replaced trans total greater)
      exact ⟨earlier, found, later, by simpa using same, folded, holds⟩
    next notGreater =>
      have kept : IsFirstLeast order before least (after ++ [next]) := by
        refine ⟨first.before, fun item member => ?_⟩
        rcases List.mem_append.mp member with old | new
        · exact first.after item old
        · rw [List.mem_singleton.mp new]
          exact notGreater
      obtain ⟨earlier, found, later, same, folded, holds⟩ := ih before _ least kept
      exact ⟨earlier, found, later, by simpa using same, folded, holds⟩

theorem minBy_first {items : List Item} {least : Item} (found : minBy order items = some least) :
    ∃ before after, items = before ++ least :: after ∧ IsFirstLeast order before least after := by
  cases items with
  | nil => cases found
  | cons item rest =>
    have alone : IsFirstLeast order [] item [] :=
      ⟨fun _ member => absurd member List.not_mem_nil, fun _ member => absurd member List.not_mem_nil⟩
    obtain ⟨before, last, after, same, folded, holds⟩ :=
      foldl_least trans total rest [] [] item alone
    rw [minBy, folded, Option.some_inj] at found
    rw [← found]
    exact ⟨before, after, same, holds⟩

end Least

variable (key : Item → Key)

theorem find?_sortByKey_eq_none [LinearOrder Key] (wanted : Item → Bool) (items : List Item) :
    (sortByKey key items).find? wanted = none ↔ ∀ item ∈ items, wanted item = false := by
  simp only [List.find?_eq_none, mem_sortByKey, Bool.not_eq_true]

theorem lowest_of_find?_sortByKey [LinearOrder Key] (wanted : Item → Bool) (items : List Item)
    (item : Item) (found : (sortByKey key items).find? wanted = some item) :
    item ∈ items ∧ wanted item = true ∧
      ∀ other ∈ items, wanted other = true → key item ≤ key other := by
  have sorted : (sortByKey key items).Pairwise (fun left right => key left ≤ key right) :=
    List.pairwise_insertionSort _ items
  obtain ⟨chosen, before, after, split, passed⟩ := List.find?_eq_some_iff_append.mp found
  refine ⟨(mem_sortByKey key items item).mp (List.mem_of_find?_eq_some found), chosen, ?_⟩
  intro other member eligible
  rw [← mem_sortByKey key, split, List.mem_append, List.mem_cons] at member
  rw [split, List.pairwise_append, List.pairwise_cons] at sorted
  rcases member with early | rfl | late
  · have skipped := passed other early
    simp [eligible] at skipped
  · exact le_refl _
  · exact sorted.2.1.1 other late

theorem find?_sortByKey [LinearOrder Key] (wanted : Item → Bool) (items : List Item)
    (distinct : (items.map key).Nodup) (item : Item) :
    (sortByKey key items).find? wanted = some item ↔
      item ∈ items ∧ wanted item = true ∧
        ∀ other ∈ items, wanted other = true → key item ≤ key other := by
  constructor
  · exact lowest_of_find?_sortByKey key wanted items item
  · rintro ⟨member, chosen, lowest⟩
    cases found : (sortByKey key items).find? wanted with
    | none =>
      have refused := (find?_sortByKey_eq_none key wanted items).mp found item member
      rw [chosen] at refused
      cases refused
    | some other =>
      obtain ⟨memberOther, chosenOther, lowestOther⟩ :=
        lowest_of_find?_sortByKey key wanted items other found
      have sameKey : key other = key item :=
        le_antisymm (lowestOther item member chosen) (lowest other memberOther chosenOther)
      rw [List.inj_on_of_nodup_map distinct memberOther member sameKey]

end DnetEngine.Lib
