import Mathlib.Tactic.Common

/-! Computations that may end in an error, taken apart where they succeed or fail. -/

namespace DnetEngine.Lib

variable {Error Value Result : Type}

/-- The value, or the error of the site that expected one. -/
def orError (error : Error) : Option Value → Except Error Value
  | some value => .ok value
  | none => .error error

@[simp] theorem orError_some (error : Error) (value : Value) :
    orError error (some value) = .ok value := rfl

@[simp] theorem orError_none (error : Error) :
    orError error (none : Option Value) = .error error := rfl

variable {error : Error} {value : Value} {make : Value → Option Result}

theorem orError_ok {source : Option Value} :
    orError error source = .ok value ↔ source = some value := by
  cases source with
  | none | some => simp

theorem ok_bind (value : Value) (rest : Value → Except Error Result) :
    (Except.ok value : Except Error Value) >>= rest = rest value := rfl

variable {source : Except Error Value} {rest : Value → Except Error Result} {result : Result}

theorem bind_ok :
    source >>= rest = .ok result ↔ ∃ value, source = .ok value ∧ rest value = .ok result := by
  cases source with
  | error | ok => simp [bind, Except.bind]

theorem bind_of_ok (first : source = .ok value) (later : rest value = .ok result) :
    source >>= rest = .ok result :=
  bind_ok.mpr ⟨value, first, later⟩

theorem bind_error :
    source >>= rest = .error error ↔
      source = .error error ∨ ∃ value, source = .ok value ∧ rest value = .error error := by
  cases source with
  | error | ok => simp [bind, Except.bind]

theorem refused_ok {condition : Prop} [Decidable condition] :
    (if condition then .error error else source) = .ok value ↔ ¬condition ∧ source = .ok value := by
  by_cases holds : condition <;> simp [holds]

theorem required_ok {condition : Prop} [Decidable condition] :
    (if condition then source else .error error) = .ok value ↔ condition ∧ source = .ok value := by
  by_cases holds : condition <;> simp [holds]

theorem mapError_ok {Shown : Type} {result : Except Error Value} {text : Error → Shown}
    (done : result.mapError text = .ok value) : result = .ok value := by
  cases result with
  | error => cases done
  | ok =>
    cases done
    rfl

theorem toOption_map_some {make : Value → Result} (made : source.toOption.map make = some result) :
    ∃ value, source = .ok value ∧ make value = result := by
  cases source with
  | error => cases made
  | ok value => exact ⟨value, rfl, Option.some.inj made⟩

theorem toOption_map_none {make : Value → Result} (failed : source.toOption.map make = none) :
    ∃ error, source = .error error := by
  cases source with
  | error error => exact ⟨error, rfl⟩
  | ok => cases failed

theorem mapM_ok (make : Value → Except Error Result) (items : List Value)
    (results : List Result) (made : items.mapM make = .ok results) :
    List.Forall₂ (fun item result => make item = .ok result) items results := by
  induction items generalizing results with
  | nil =>
    cases made
    exact List.Forall₂.nil
  | cons _ _ ih =>
    rw [List.mapM_cons] at made
    obtain ⟨result, first, remaining⟩ := bind_ok.mp made
    obtain ⟨others, later, whole⟩ := bind_ok.mp remaining
    cases whole
    exact List.Forall₂.cons first (ih others later)

theorem mapM_some {items : List Value} {results : List Result} :
    items.mapM make = some results ↔
      List.Forall₂ (fun item result => make item = some result) items results := by
  induction items generalizing results with
  | nil =>
    constructor
    · intro made
      cases made
      exact .nil
    · intro each
      cases each
      rfl
  | cons _ _ ih =>
    rw [List.mapM_cons]
    constructor
    · intro made
      obtain ⟨result, first, remaining⟩ := Option.bind_eq_some_iff.mp made
      obtain ⟨others, later, whole⟩ := Option.bind_eq_some_iff.mp remaining
      cases whole
      exact .cons first (ih.mp later)
    · intro each
      cases each with
      | cons first later =>
        rw [first, ih.mpr later]
        rfl

theorem mapM_congr_of_mem {other : Value → Option Result} {items : List Value}
    (same : ∀ item ∈ items, make item = other item) : items.mapM make = items.mapM other := by
  induction items with
  | nil => rfl
  | cons item _ ih =>
    rw [List.mapM_cons, List.mapM_cons, same item List.mem_cons_self,
      ih fun later member => same later (List.mem_cons_of_mem _ member)]

theorem mem_of_forall₂ {Source : Type} {related : Source → Value → Prop} {sources : List Source}
    {values : List Value} (pairs : List.Forall₂ related sources values) (member : value ∈ values) :
    ∃ source ∈ sources, related source value := by
  induction pairs with
  | nil => cases member
  | cons first _ ih =>
    rcases List.mem_cons.mp member with rfl | later
    · exact ⟨_, List.mem_cons_self, first⟩
    · obtain ⟨source, inside, made⟩ := ih later
      exact ⟨source, List.mem_cons_of_mem _ inside, made⟩

/-- Items made one after the other, each from its position, what was made before it and its source. -/
def makeEach {Source : Type} (make : (index : Nat) → (made : List Value) → Source → Except Error Value) :
    (index : Nat) → (made : List Value) → List Source → Except Error (List Value)
  | _, made, [] => .ok made
  | index, made, source :: rest => do
      let value ← make index made source
      makeEach make (index + 1) (made ++ [value]) rest

theorem makeEach_all {Source : Type}
    {make : (index : Nat) → (made : List Value) → Source → Except Error Value} {holds : Value → Prop}
    (each : ∀ index made source value, make index made source = .ok value → holds value)
    {index : Nat} {made values : List Value} {sources : List Source}
    (done : makeEach make index made sources = .ok values) (before : ∀ value ∈ made, holds value) :
    ∀ value ∈ values, holds value := by
  induction sources generalizing index made with
  | nil =>
    cases done
    exact before
  | cons source _ ih =>
    obtain ⟨value, first, done⟩ := bind_ok.mp done
    apply ih done
    rw [List.forall_mem_append, List.forall_mem_singleton]
    exact ⟨before, each index made source value first⟩

/-- Steps that only answer what was open: the first answer stays. -/
theorem foldl_or {State Item Value : Type} {step : State → Item → State} {look : State → Option Value}
    {give : Item → Option Value} (each : ∀ s item, look (step s item) = (look s).or (give item))
    (items : List Item) (s : State) :
    look (items.foldl step s) = (look s).or (items.findSome? give) := by
  induction items generalizing s with
  | nil => simp
  | cons item rest ih =>
    rw [List.foldl_cons, ih, each, Option.or_assoc, List.findSome?_cons]
    cases give item <;> rfl

/-- `expect` where the failure is ruled out. -/
def expect : (result : Except Error Value) → result.isOk = true → Value
  | .ok value, _ => value

theorem expect_ok (result : Except Error Value) (valid : result.isOk = true) :
    result = .ok (expect result valid) := by
  cases result with
  | error => cases valid
  | ok => rfl

end DnetEngine.Lib
