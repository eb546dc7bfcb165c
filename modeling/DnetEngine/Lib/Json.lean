import DnetEngine.Lib.Fallible
import Mathlib.Algebra.Ring.Nat

/-! JSON. A text is read as the tree it spells, its members in the order of the text; as a value, an
object is a map, in which the last of the members with one name counts. -/

namespace DnetEngine.Lib

inductive Json
  | null
  | bool (flag : Bool)
  | number (n : Int)
  /-- A number that is no integer, by the bits of the double it is read as. -/
  | float (bits : UInt64)
  | string (text : String)
  | array (items : List Json)
  | object (members : List (String × Json))

/-- `Map::insert`. The map is kept in the order in which names came first. -/
def insertMember {Value : Type} (name : String) (value : Value) :
    List (String × Value) → List (String × Value)
  | [] => [(name, value)]
  | (other, old) :: rest =>
    if other = name then (other, value) :: rest else (other, old) :: insertMember name value rest

namespace Json

instance : Coe String Json := ⟨string⟩

def get (name : String) : Json → Option Json
  | .object members => members.lookup name
  | _ => none

def asStr : Json → Option String
  | .string text => some text
  | _ => none

def asBool : Json → Option Bool
  | .bool flag => some flag
  | _ => none

def asNumber : Json → Option Int
  | .number n => some n
  | _ => none

def asU64 : Json → Option Nat
  | .number n => if 0 ≤ n ∧ n.toNat < 2^64 then some n.toNat else none
  | _ => none

def isObject : Json → Bool
  | .object _ => true
  | _ => false

/-- `if let Some(object) = value.as_object_mut()`, and a member put in. -/
def insert (value : Json) (name : String) (member : Json) : Json :=
  match value with
  | .object members => .object (insertMember name member members)
  | other => other

@[simp] theorem isObject_insert (value member : Json) (name : String) :
    (value.insert name member).isObject = value.isObject := by
  cases value <;> rfl

mutual

/-- A tree read as a value. -/
def collapse : Json → Json
  | .array items => .array (collapseItems items)
  | .object members => .object (collapseMembers members)
  | .null => .null
  | .bool flag => .bool flag
  | .number n => .number n
  | .float bits => .float bits
  | .string text => .string text

def collapseItems : List Json → List Json
  | [] => []
  | item :: rest => item.collapse :: collapseItems rest

def collapseMembers : List (String × Json) → List (String × Json)
  | [] => []
  | (name, value) :: rest =>
    if (rest.lookup name).isSome then collapseMembers rest
    else (name, value.collapse) :: collapseMembers rest

end

mutual

/-- No object of the tree has two members with one name. -/
def IsValue : Json → Prop
  | .array items => AreValues items
  | .object members => (members.map Prod.fst).Nodup ∧ MembersAreValues members
  | .null | .bool _ | .number _ | .float _ | .string _ => True

def AreValues : List Json → Prop
  | [] => True
  | item :: rest => item.IsValue ∧ AreValues rest

def MembersAreValues : List (String × Json) → Prop
  | [] => True
  | (_, value) :: rest => value.IsValue ∧ MembersAreValues rest

end

@[simp] theorem isValue_string (text : String) : (string text).IsValue := trivial

theorem membersAreValues_iff {members : List (String × Json)} :
    MembersAreValues members ↔ ∀ member ∈ members, member.2.IsValue := by
  induction members with
  | nil => simp [MembersAreValues]
  | cons _ _ ih => simp [MembersAreValues, ih]

theorem collapseMembers_cons {name : String} {value : Json} {rest : List (String × Json)}
    (new : name ∉ rest.map Prod.fst) :
    collapseMembers ((name, value) :: rest) = (name, value.collapse) :: collapseMembers rest := by
  have absent : rest.lookup name = none := by
    apply List.lookup_eq_none_iff.mpr
    intro member present
    have other : member.1 ∈ rest.map Prod.fst := List.mem_map_of_mem present
    have : name ≠ member.1 := fun same => new (same ▸ other)
    simpa using this
  rw [collapseMembers, absent]
  rfl

mutual

theorem collapse_of_isValue : ∀ {value : Json}, value.IsValue → value.collapse = value
  | .array _, items => by rw [collapse, collapseItems_of_areValues items]
  | .object _, ⟨distinct, members⟩ => by
      rw [collapse, collapseMembers_of_areValues distinct members]
  | .null, _ | .bool _, _ | .number _, _ | .float _, _ | .string _, _ => by rw [collapse]

theorem collapseItems_of_areValues :
    ∀ {items : List Json}, AreValues items → collapseItems items = items
  | [], _ => rfl
  | _ :: _, ⟨first, rest⟩ => by
      rw [collapseItems, collapse_of_isValue first, collapseItems_of_areValues rest]

theorem collapseMembers_of_areValues : ∀ {members : List (String × Json)},
    (members.map Prod.fst).Nodup → MembersAreValues members → collapseMembers members = members
  | [], _, _ => rfl
  | (name, value) :: rest, distinct, ⟨first, others⟩ => by
      obtain ⟨new, later⟩ := List.nodup_cons.mp distinct
      rw [collapseMembers_cons new, collapse_of_isValue first,
        collapseMembers_of_areValues later others]

end

variable {name : String}

theorem mem_names_insertMember {Value : Type} {other : String} {value : Value}
    {members : List (String × Value)} :
    other ∈ (insertMember name value members).map Prod.fst ↔
      other = name ∨ other ∈ members.map Prod.fst := by
  induction members with
  | nil => simp [insertMember]
  | cons _ _ ih =>
    unfold insertMember
    split
    next same => simp [same]
    next =>
      rw [List.map_cons, List.mem_cons, List.map_cons, List.mem_cons]
      tauto

theorem mem_insertMember {value : Json} {members : List (String × Json)} {member : String × Json}
    (present : member ∈ insertMember name value members) :
    member.2 = value ∨ member ∈ members := by
  induction members with
  | nil =>
    rw [insertMember, List.mem_singleton] at present
    exact .inl (by rw [present])
  | cons _ _ ih =>
    unfold insertMember at present
    split at present
    · rcases List.mem_cons.mp present with same | old
      · exact .inl (by rw [same])
      · exact .inr (List.mem_cons_of_mem _ old)
    · rcases List.mem_cons.mp present with same | old
      · exact .inr (by rw [same]; exact List.mem_cons_self)
      · exact (ih old).imp_right (List.mem_cons_of_mem _)

theorem nodup_insertMember {Value : Type} {value : Value} {members : List (String × Value)}
    (distinct : (members.map Prod.fst).Nodup) :
    ((insertMember name value members).map Prod.fst).Nodup := by
  induction members with
  | nil => simp [insertMember]
  | cons _ _ ih =>
    rw [List.map_cons, List.nodup_cons] at distinct
    unfold insertMember
    split
    · exact List.nodup_cons.mpr distinct
    next other =>
      rw [List.map_cons, List.nodup_cons, mem_names_insertMember]
      exact ⟨not_or.mpr ⟨other, distinct.1⟩, ih distinct.2⟩

theorem IsValue.insert {value member : Json} (isValue : value.IsValue) (name : String)
    (also : member.IsValue) : (value.insert name member).IsValue := by
  cases value with
  | object =>
    obtain ⟨distinct, values⟩ := isValue
    refine ⟨nodup_insertMember distinct, membersAreValues_iff.mpr fun other present => ?_⟩
    rcases mem_insertMember present with same | old
    · rw [same]
      exact also
    · exact membersAreValues_iff.mp values other old
  | null | bool | number | float | string | array => exact isValue

theorem lookup_insertMember_self (name : String) (value : Json) (members : List (String × Json)) :
    (insertMember name value members).lookup name = some value := by
  induction members with
  | nil => simp [insertMember]
  | cons _ _ ih =>
    unfold insertMember
    split
    next same => simp [same]
    next other => rw [List.lookup_cons, beq_false_of_ne (Ne.symm other), ih]

/-- The bytes of a character in a string that is printed. -/
def charLength (c : Char) : Nat :=
  if c = '"' ∨ c = '\\' ∨ c = '\n' ∨ c = '\r' ∨ c = '\t' ∨ c.toNat = 8 ∨ c.toNat = 12 then 2
  else if c.toNat < 32 then 6
  else c.utf8Size

def stringLength (text : String) : Nat := 2 + (text.toList.map charLength).sum

mutual

/-- The bytes of a tree that is printed with no blanks. A double is counted as one byte. -/
def textLength : Json → Nat
  | .null => 4
  | .bool flag => if flag then 4 else 5
  | .number n => (toString n).length
  | .float _ => 1
  | .string text => stringLength text
  | .array items => 2 + (items.length - 1) + itemsLength items
  | .object members => 2 + (members.length - 1) + membersLength members

def itemsLength : List Json → Nat
  | [] => 0
  | item :: rest => item.textLength + itemsLength rest

def membersLength : List (String × Json) → Nat
  | [] => 0
  | (name, value) :: rest => stringLength name + 1 + value.textLength + membersLength rest

end

theorem textLength_le_of_mem {name : String} {value : Json} {members : List (String × Json)}
    (present : (name, value) ∈ members) : value.textLength ≤ (object members).textLength := by
  have held : value.textLength ≤ membersLength members := by
    induction members with
    | nil => cases present
    | cons first _ ih =>
      obtain ⟨other, first⟩ := first
      rw [membersLength]
      rcases List.mem_cons.mp present with same | later
      · cases same
        omega
      · have := ih later
        omega
  rw [textLength]
  omega

theorem get_insert_self {value : Json} (isObject : value.isObject = true) (name : String)
    (member : Json) : (value.insert name member).get name = some member := by
  cases value with
  | object members => exact lookup_insertMember_self name member members
  | null | bool | number | float | string | array => cases isObject

end Json

/-- `serde_json`: what is printed is read back. -/
structure SerdeJson (Text : Type) where
  toText : Json → Text
  parse : Text → Except String Json
  /-- The length of a text, in bytes. -/
  len : Text → Nat
  /-- The kind and the place of what keeps a text from being of the form expected. -/
  problem : (expected : String) → Text → String
  parse_toText : ∀ tree, parse (toText tree) = .ok tree

/-- Texts that are the trees they spell, as long as what is printed of them. -/
def SerdeJson.trees : SerdeJson Json := ⟨id, .ok, Json.textLength, fun _ _ => "", fun _ => rfl⟩

/-- `from_str::<Value>`. -/
def SerdeJson.fromStr {Text : Type} (serde : SerdeJson Text) (text : Text) : Except String Json :=
  (serde.parse text).map Json.collapse

theorem SerdeJson.fromStr_toText {Text : Type} (serde : SerdeJson Text) {value : Json}
    (isValue : value.IsValue) : serde.fromStr (serde.toText value) = .ok value := by
  rw [SerdeJson.fromStr, serde.parse_toText]
  exact congrArg Except.ok (Json.collapse_of_isValue isValue)

end DnetEngine.Lib
