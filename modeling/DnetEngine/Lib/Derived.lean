import DnetEngine.Lib.Json

/-! What `serde` derives for a record: it is printed as an object with its fields in order, those that
are left out skipped, and read from an object or from an array of its fields. -/

namespace DnetEngine.Lib

namespace Json

/-- The fields that have a value. -/
def given : List (String × Option Json) → List (String × Json)
  | [] => []
  | (_, none) :: rest => given rest
  | (name, some value) :: rest => (name, value) :: given rest

/-- A record, by its fields in order; one without a value is skipped. -/
def record (fields : List (String × Option Json)) : Json := .object (given fields)

/-- Whether a tree may be a record with these fields. A field is given at most once; with
`deny_unknown_fields` there is no other. -/
def isRecord (strict : Bool) (names : List String) : Json → Bool
  | .object members =>
    names.all (fun name => (members.filter (fun member => member.1 == name)).length ≤ 1) &&
      (!strict || members.all (fun member => names.contains member.1))
  | .array items => items.length ≤ names.length
  | _ => false

/-- The field of a record, if it is given. -/
def field (names : List String) (name : String) : Json → Option Json
  | .object members => members.lookup name
  | .array items => (names.idxOf? name).bind (fun index => items[index]?)
  | _ => none

/-- A field that may be left out. -/
def optional {Value : Type} (read : Json → Option Value) : Option Json → Option (Option Value)
  | none | some .null => some none
  | some value => (read value).map some

def asUnsigned (width : Nat) : Json → Option (BitVec width)
  | .number n => if 0 ≤ n ∧ n.toNat < 2^width then some (BitVec.ofNat width n.toNat) else none
  | _ => none

/-- An unsigned integer of `width` bits, where a number is kept by its value. -/
def asNat (width : Nat) (tree : Json) : Option Nat := (tree.asUnsigned width).map BitVec.toNat

/-- A field without a default that may be `null`. An object may leave it out, an array may not. -/
def nullable {Value : Type} (read : Json → Option Value) (names : List String) (name : String)
    (tree : Json) : Option (Option Value) :=
  match tree, tree.field names name with
  | .array _, none => none
  | _, given => optional read given

def readItems {Value : Type} (read : Json → Option Value) : Json → Option (List Value)
  | .array items => items.mapM read
  | _ => none

def unsigned {width : Nat} (n : BitVec width) : Json := .number n.toNat

@[simp] theorem asStr_string (text : String) : (string text).asStr = some text := rfl

@[simp] theorem asBool_bool (flag : Bool) : (bool flag).asBool = some flag := rfl

@[simp] theorem asUnsigned_unsigned {width : Nat} (n : BitVec width) :
    (unsigned n).asUnsigned width = some n := by
  simp [unsigned, asUnsigned, n.isLt]

@[simp] theorem isValue_unsigned {width : Nat} (n : BitVec width) : (unsigned n).IsValue := trivial

/-- A field that may be left out is read back, if `null` is none of the values it can have. -/
theorem optional_map {Value : Type} {read : Json → Option Value} {print : Value → Json}
    (reads : ∀ value, read (print value) = some value) (refuses : read .null = none)
    (value : Option Value) : optional read (value.map print) = some value := by
  cases value with
  | none => rfl
  | some value =>
    have read_ := reads value
    unfold optional
    split
    next same => cases same
    next same =>
      rw [Option.some.inj same, refuses] at read_
      cases read_
    next same =>
      cases same
      rw [read_]
      rfl

section Records

variable {fields : List (String × Option Json)}

theorem mem_given {name : String} {value : Json} (present : (name, value) ∈ given fields) :
    (name, some value) ∈ fields := by
  induction fields with
  | nil => cases present
  | cons first _ ih =>
    obtain ⟨other, held⟩ := first
    cases held with
    | none => exact List.mem_cons_of_mem _ (ih present)
    | some =>
      rcases List.mem_cons.mp present with same | old
      · cases same
        exact List.mem_cons_self
      · exact List.mem_cons_of_mem _ (ih old)

theorem names_given : ((given fields).map Prod.fst).Sublist (fields.map Prod.fst) := by
  induction fields with
  | nil => exact List.Sublist.slnil
  | cons first _ ih =>
    obtain ⟨name, held⟩ := first
    cases held with
    | none => exact ih.cons _
    | some => exact ih.cons_cons _

@[simp] theorem lookup_given_nil (name : String) : (given []).lookup name = none := rfl

@[simp] theorem lookup_given_cons (name other : String) (value : Option Json)
    (rest : List (String × Option Json)) :
    (given ((other, value) :: rest)).lookup name =
      if name = other then value.or ((given rest).lookup name) else (given rest).lookup name := by
  cases value with
  | none => simp [given]
  | some =>
    rw [given, List.lookup_cons]
    split
    next same => simp [eq_of_beq same]
    next differs => simp [ne_of_beq_false differs]

theorem given_once (distinct : (fields.map Prod.fst).Nodup) (name : String) :
    ((given fields).filter (fun member => member.1 == name)).length ≤ 1 := by
  have once := List.nodup_iff_count.mp (distinct.sublist names_given) name
  rwa [List.count, List.countP_map, List.countP_eq_length_filter] at once

theorem isRecord_record {names : List String} (same : fields.map Prod.fst = names)
    (distinct : names.Nodup) (strict : Bool) : (record fields).isRecord strict names = true := by
  subst same
  rw [record, isRecord, Bool.and_eq_true, List.all_eq_true, Bool.or_eq_true, List.all_eq_true]
  constructor
  · exact fun name _ => decide_eq_true (given_once distinct name)
  · right
    intro member present
    rw [List.contains_iff_mem]
    exact names_given.subset (List.mem_map_of_mem present)

theorem isRecord_ignoring (distinct : (fields.map Prod.fst).Nodup) (names : List String) :
    (record fields).isRecord false names = true := by
  rw [record, isRecord, Bool.not_false, Bool.true_or, Bool.and_true, List.all_eq_true]
  exact fun name _ => decide_eq_true (given_once distinct name)

@[simp] theorem get_record (name : String) :
    (record fields).get name = (given fields).lookup name := rfl

@[simp] theorem field_record (names : List String) (name : String) :
    (record fields).field names name = (given fields).lookup name := rfl

theorem IsValue.record (distinct : (fields.map Prod.fst).Nodup)
    (values : ∀ field ∈ fields, ∀ value ∈ field.2, value.IsValue) : (record fields).IsValue := by
  refine ⟨distinct.sublist names_given, membersAreValues_iff.mpr ?_⟩
  intro member present
  exact values _ (mem_given present) member.2 rfl

end Records

end Json

end DnetEngine.Lib
