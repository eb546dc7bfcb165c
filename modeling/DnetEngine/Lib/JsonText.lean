import DnetEngine.Lib.Hex
import DnetEngine.Lib.Json
import Mathlib

/-! The text of JSON: how strings and objects of strings are printed, and a machine of brackets and
strings that tells where an object ends. A reader accepts no object that the machine does not find
closed; so neither a part of a printed object is read as one, nor a part with another object after it. -/

namespace DnetEngine.Lib

/-- The short escapes, by the letter that stands for the character. -/
def shortEscapes : List (Char × Char) :=
  [('"', '"'), ('\\', '\\'), ('\n', 'n'), ('\r', 'r'), ('\t', 't'), (Char.ofNat 8, 'b'),
    (Char.ofNat 12, 'f')]

/-- A character as it stands in a string. -/
def escapeChar (c : Char) : List Char :=
  match shortEscapes.lookup c with
  | some letter => ['\\', letter]
  | none => if c.toNat < 32 then '\\' :: 'u' :: hexDigits 4 c.toNat else [c]

def escape (text : List Char) : List Char := text.flatMap escapeChar

def printString (text : String) : List Char := '"' :: (escape text.toList ++ ['"'])

def printMember (member : String × String) : List Char :=
  printString member.1 ++ ':' :: printString member.2

def printMembers : List (String × String) → List Char
  | [] => []
  | [member] => printMember member
  | member :: rest => printMember member ++ ',' :: printMembers rest

/-- An object of strings. -/
def printObject (members : List (String × String)) : List Char :=
  '{' :: (printMembers members ++ ['}'])

section Escaping

theorem escapeChar_cases (c : Char) :
    (∃ letter, (c, letter) ∈ shortEscapes ∧ escapeChar c = ['\\', letter]) ∨
      (c.toNat < 32 ∧ escapeChar c = '\\' :: 'u' :: hexDigits 4 c.toNat) ∨
      (32 ≤ c.toNat ∧ c ≠ '"' ∧ c ≠ '\\' ∧ escapeChar c = [c]) := by
  rw [escapeChar]
  cases found : shortEscapes.lookup c with
  | some letter =>
    obtain ⟨before, after, split, _⟩ := List.lookup_eq_some_iff.mp found
    exact .inl ⟨letter, by rw [split]; simp, rfl⟩
  | none =>
    have plain (other letter : Char) (listed : (other, letter) ∈ shortEscapes) : c ≠ other := by
      have := List.lookup_eq_none_iff.mp found (other, letter) listed
      simpa using this
    by_cases control : c.toNat < 32
    · exact .inr (.inl ⟨control, if_pos control⟩)
    · refine .inr (.inr ⟨by omega, ?_, ?_, if_neg control⟩)
      · exact plain '"' '"' (by decide)
      · exact plain '\\' '\\' (by decide)

theorem digitChar_printable : ∀ digit < 16, 32 ≤ (Nat.digitChar digit).toNat := by
  decide

theorem escapeChar_printable (c : Char) : ∀ other ∈ escapeChar c, 32 ≤ other.toNat := by
  rcases escapeChar_cases c with ⟨letter, listed, same⟩ | ⟨_, same⟩ | ⟨printable, _, _, same⟩
  · have letters : ∀ pair ∈ shortEscapes, 32 ≤ pair.2.toNat := by decide
    rw [same]
    simpa using letters _ listed
  · rw [same]
    intro other member
    simp only [List.mem_cons] at member
    rcases member with rfl | rfl | digit
    · decide
    · decide
    · obtain ⟨position, _, rfl⟩ := List.mem_map.mp digit
      exact digitChar_printable _ (Nat.mod_lt _ (by decide))
  · rw [same]
    simpa using printable

theorem printString_printable (text : String) : ∀ c ∈ printString text, 32 ≤ c.toNat := by
  intro c member
  simp only [printString, List.mem_cons, List.mem_append, List.not_mem_nil, or_false] at member
  rcases member with rfl | inside | rfl
  · decide
  · obtain ⟨other, _, isOther⟩ := List.mem_flatMap.mp inside
    exact escapeChar_printable other c isOther
  · decide

theorem printMembers_printable (members : List (String × String)) :
    ∀ c ∈ printMembers members, 32 ≤ c.toNat := by
  have one (member : String × String) : ∀ c ∈ printMember member, 32 ≤ c.toNat := by
    intro c inside
    simp only [printMember, List.mem_append, List.mem_cons] at inside
    rcases inside with name | rfl | value
    · exact printString_printable _ c name
    · decide
    · exact printString_printable _ c value
  induction members with
  | nil => simp [printMembers]
  | cons member rest ih =>
    cases rest with
    | nil => exact one member
    | cons =>
      intro c inside
      rw [printMembers, List.mem_append, List.mem_cons] at inside
      · rcases inside with first | rfl | later
        · exact one member c first
        · decide
        · exact ih c later
      · simp

/-- There is no control character in what is printed, and so no newline. -/
theorem printObject_printable (members : List (String × String)) :
    ∀ c ∈ printObject members, 32 ≤ c.toNat := by
  intro c member
  simp only [printObject, List.mem_cons, List.mem_append, List.not_mem_nil, or_false] at member
  rcases member with rfl | inside | rfl
  · decide
  · exact printMembers_printable members c inside
  · decide

end Escaping

section Scanning

/-- Where in the text of an object a reader stands; `depth` counts the brackets that are open inside
the object's own. -/
inductive Place
  | start
  | out (depth : Nat)
  | string (depth : Nat)
  | escaped (depth : Nat)
  /-- Right after a string. -/
  | closed (depth : Nat)
  | done
  | dead
  deriving DecidableEq

def isJsonSpace (c : Char) : Bool := c = ' ' || c = '\n' || c = '\t' || c = '\r'

def leave : Nat → Place
  | 0 => .done
  | depth + 1 => .out depth

def Place.next : Place → Char → Place
  | .start, c => if c = '{' then .out 0 else if isJsonSpace c then .start else .dead
  | .out depth, c =>
    if c = '"' then .string depth
    else if c = '{' ∨ c = '[' then .out (depth + 1)
    else if c = '}' ∨ c = ']' then leave depth
    else .out depth
  | .string depth, c =>
    if c = '"' then .closed depth else if c = '\\' then .escaped depth else .string depth
  | .escaped depth, _ => .string depth
  | .closed depth, c =>
    if c = ',' ∨ c = ':' then .out depth
    else if c = '}' ∨ c = ']' then leave depth
    else if isJsonSpace c then .closed depth
    else .dead
  | .done, c => if isJsonSpace c then .done else .dead
  | .dead, _ => .dead

def scan (place : Place) (text : List Char) : Place := text.foldl Place.next place

@[simp] theorem scan_nil (place : Place) : scan place [] = place := rfl

@[simp] theorem scan_cons (place : Place) (c : Char) (text : List Char) :
    scan place (c :: text) = scan (place.next c) text := rfl

@[simp] theorem scan_append (place : Place) (one two : List Char) :
    scan place (one ++ two) = scan (scan place one) two :=
  List.foldl_append

@[simp] theorem scan_dead (text : List Char) : scan .dead text = .dead := by
  induction text with
  | nil => rfl
  | cons _ _ ih => exact ih

theorem scan_done (text : List Char) : scan .done text = .done ∨ scan .done text = .dead := by
  induction text with
  | nil => exact .inl rfl
  | cons _ text ih =>
    rw [scan_cons, Place.next]
    split
    · exact ih
    · exact .inr (scan_dead text)

variable {place : Place} {members : List (String × String)}

theorem next_ne_start (begun : place ≠ .start) (c : Char) : place.next c ≠ .start := by
  cases place with
  | start => exact absurd rfl begun
  | out depth | closed depth => cases depth <;> simp only [Place.next, leave] <;> split_ifs <;> simp
  | string | done => simp only [Place.next]; split_ifs <;> simp
  | escaped | dead => simp [Place.next]

theorem scan_ne_start (begun : place ≠ .start) (text : List Char) :
    scan place text ≠ .start := by
  induction text generalizing place with
  | nil => exact begun
  | cons c _ ih => exact ih (next_ne_start begun c)

theorem digit_plain : ∀ digit < 16,
    Nat.digitChar digit ≠ '"' ∧ Nat.digitChar digit ≠ '\\' := by
  decide

theorem scan_plain (depth : Nat) {text : List Char} (plain : ∀ c ∈ text, c ≠ '"' ∧ c ≠ '\\') :
    scan (.string depth) text = .string depth := by
  induction text with
  | nil => rfl
  | cons c _ ih =>
    obtain ⟨quote, slash⟩ := plain c List.mem_cons_self
    rw [scan_cons, Place.next, if_neg quote, if_neg slash]
    exact ih fun other member => plain other (List.mem_cons_of_mem _ member)

theorem scan_escapeChar (depth : Nat) (c : Char) :
    scan (.string depth) (escapeChar c) = .string depth := by
  rcases escapeChar_cases c with ⟨letter, _, same⟩ | ⟨_, same⟩ | ⟨_, quote, slash, same⟩
  · rw [same]
    rfl
  · rw [same]
    have digits : scan (.string depth) (hexDigits 4 c.toNat) = .string depth := by
      apply scan_plain
      intro digit member
      obtain ⟨position, _, rfl⟩ := List.mem_map.mp member
      exact digit_plain _ (Nat.mod_lt _ (by decide))
    exact digits
  · rw [same]
    exact scan_plain depth (by simp [quote, slash])

theorem scan_escape (depth : Nat) (text : List Char) :
    scan (.string depth) (escape text) = .string depth := by
  induction text with
  | nil => rfl
  | cons _ _ ih => rw [escape, List.flatMap_cons, scan_append, scan_escapeChar]; exact ih

theorem scan_printString (depth : Nat) (text : String) :
    scan (.out depth) (printString text) = .closed depth := by
  rw [printString, scan_cons, Place.next, if_pos rfl, scan_append, scan_escape]
  rfl

theorem scan_printMember (depth : Nat) (member : String × String) :
    scan (.out depth) (printMember member) = .closed depth := by
  rw [printMember, scan_append, scan_printString]
  exact scan_printString depth member.2

theorem scan_printMembers (depth : Nat) (members : List (String × String)) :
    scan (.out depth) (printMembers members ++ ['}']) = leave depth := by
  induction members with
  | nil => rfl
  | cons _ rest ih =>
    cases rest with
    | nil =>
      rw [printMembers, scan_append, scan_printMember]
      rfl
    | cons =>
      rw [printMembers, List.append_assoc, scan_append, scan_printMember]
      · exact ih
      · simp

theorem scan_printObject (members : List (String × String)) :
    scan .start (printObject members) = .done :=
  scan_printMembers 0 members

theorem scan_printObject_inside (depth : Nat) (members : List (String × String)) :
    scan (.out depth) (printObject members) = .out depth :=
  scan_printMembers (depth + 1) members

/-- A part of a printed object is not closed, wherever it stands. -/
theorem scan_part_ne_done {part rest : List Char} (cut : part ++ rest = printObject members)
    (more : rest ≠ []) (open_ : scan place (printObject members) ≠ .dead) : scan place part ≠ .done := by
  intro done
  rcases List.eq_nil_or_concat' rest with none_ | ⟨before, last, rfl⟩
  · exact more none_
  · have isLast : last = '}' := by
      have ends : (part ++ before) ++ [last] = ('{' :: printMembers members) ++ ['}'] := by
        rw [List.append_assoc]
        exact cut
      exact List.singleton_inj.mp (List.append_inj_right' ends rfl)
    rw [← cut, isLast, scan_append, done, scan_append] at open_
    rcases scan_done before with same | same
    · rw [same] at open_
      exact open_ rfl
    · rw [same] at open_
      exact open_ rfl

/-- What follows a part of an object, or a whole one, does not close it if it begins as an object
whose first name begins with an ordinary letter. -/
theorem scan_glued_ne_done (begun : place ≠ .start) {letter : Char}
    (ordinary : Place.next (.closed 0) letter = .dead) {tail : List Char}
    (starts : printObject members = '{' :: '"' :: letter :: tail) {part : List Char}
    (isPart : part <+: printObject members) (some_ : part ≠ []) : scan place part ≠ .done := by
  have letter_dead (depth : Nat) : Place.next (.closed depth) letter = .dead := by
    revert ordinary
    simp only [Place.next, leave]
    split_ifs <;> simp
  -- In a string, or right after one, the quote and the letter cannot stand here.
  have elsewhere (dies : scan place ['{', '"', letter] = .dead)
      (one : scan place ['{'] ≠ .done) (two : scan place ['{', '"'] ≠ .done) :
      scan place part ≠ .done := by
    rw [starts] at isPart
    obtain ⟨rest, cut⟩ := isPart
    rcases part with _ | ⟨a, _ | ⟨b, _ | ⟨c, later⟩⟩⟩
    · exact absurd rfl some_
    · cases cut
      exact one
    · cases cut
      exact two
    · cases cut
      have whole : scan place ('{' :: '"' :: letter :: later) = .dead := by
        have split := scan_append place ['{', '"', letter] later
        rw [dies, scan_dead] at split
        exact split
      rw [whole]
      simp
  cases place with
  | start => exact absurd rfl begun
  | out =>
    obtain ⟨rest, cut⟩ := isPart
    cases rest with
    | nil =>
      rw [List.append_nil] at cut
      rw [cut, scan_printObject_inside]
      simp
    | cons =>
      apply scan_part_ne_done cut (by simp)
      rw [scan_printObject_inside]
      simp
  | string depth | escaped depth =>
    exact elsewhere (letter_dead depth) (by simp [Place.next]) (by simp [Place.next])
  | closed | done | dead =>
    exact elsewhere (by simp [Place.next, isJsonSpace]) (by simp [Place.next, isJsonSpace])
      (by simp [Place.next, isJsonSpace])

end Scanning

/-- `serde_json::from_str`, for any value. -/
structure JsonReader where
  parse : List Char → Option Json
  /-- What is printed is read. -/
  parse_printObject : ∀ members : List (String × String), (members.map Prod.fst).Nodup →
    parse (printObject members) =
      some (.object (members.map fun member => (member.1, .string member.2)))
  /-- The text of an object closes what it opens, and nothing follows it. -/
  parse_scan : ∀ text members, parse text = some (.object members) → scan .start text = .done

section Reading

/-- A string up to its closing quote, and what follows. -/
def readString : List Char → Option (List Char × List Char)
  | [] => none
  | '"' :: rest => some ([], rest)
  | '\\' :: 'u' :: a :: b :: c :: d :: rest =>
    (hexNumber 0 [a, b, c, d]).bind fun n =>
      (readString rest).map fun read => (Char.ofNat n :: read.1, read.2)
  | '\\' :: letter :: rest =>
    ((shortEscapes.map Prod.swap).lookup letter).bind fun c =>
      (readString rest).map fun read => (c :: read.1, read.2)
  | c :: rest => (readString rest).map fun read => (c :: read.1, read.2)

theorem readString_control {n : Nat} (control : n < 32) (rest : List Char) :
    readString ('\\' :: 'u' :: hexDigits 4 n ++ rest) =
      (readString rest).map fun read => (Char.ofNat n :: read.1, read.2) := by
  have number : hexNumber 0 (hexDigits 4 n) = some n := by
    have read := hexNumber_hexDigits 4 n 0 []
    rw [Nat.mod_eq_of_lt (by omega), Nat.zero_mul, Nat.zero_add] at read
    exact read
  match digits : hexDigits 4 n, length_hexDigits 4 n with
  | [a, b, c, d], _ =>
    rw [digits] at number
    simp only [List.cons_append, List.nil_append]
    rw [readString, number, Option.bind_some]

theorem readString_escape (text rest : List Char) :
    readString (escape text ++ '"' :: rest) = some (text, rest) := by
  induction text with
  | nil => simp [escape, readString]
  | cons c text ih =>
    rw [escape, List.flatMap_cons, List.append_assoc]
    change readString (escapeChar c ++ (escape text ++ '"' :: rest)) = _
    rcases escapeChar_cases c with ⟨letter, listed, same⟩ | ⟨control, same⟩ | ⟨_, quote, slash, same⟩
    · rw [same]
      simp only [shortEscapes, List.mem_cons, List.not_mem_nil, or_false] at listed
      rcases listed with h | h | h | h | h | h | h <;> obtain ⟨rfl, rfl⟩ := h <;>
        simp [readString, shortEscapes, List.lookup, ih]
    · rw [same, readString_control control, ih, Char.ofNat_toNat]
      rfl
    · rw [same, List.singleton_append, readString, ih]
      · rfl
      all_goals simp [quote, slash]

/-- The members of an object, from the quote of the first name to the closing bracket. -/
def readMembers : (fuel : Nat) → List Char → Option (List (String × String))
  | fuel + 1, '"' :: text => do
      let (name, afterName) ← readString text
      let ':' :: '"' :: value := afterName | none
      let (text, afterValue) ← readString value
      let member := (String.ofList name, String.ofList text)
      match afterValue with
      | ['}'] => some [member]
      | ',' :: later => (readMembers fuel later).map (member :: ·)
      | _ => none
  | _, _ => none

def readObject : List Char → Option (List (String × String))
  | ['{', '}'] => some []
  | '{' :: text => readMembers text.length text
  | _ => none

theorem readMembers_print (fuel : Nat) (member : String × String) (rest : List (String × String))
    (enough : rest.length < fuel) :
    readMembers fuel (printMembers (member :: rest) ++ ['}']) = some (member :: rest) := by
  induction rest generalizing fuel member with
  | nil =>
    cases fuel with
    | zero => cases enough
    | succ =>
      simp [printMembers, printMember, printString, readMembers, readString_escape]
  | cons next _ ih =>
    cases fuel with
    | zero => cases enough
    | succ fuel =>
      have later := ih fuel next (by simpa using enough)
      simp [printMembers, printMember, printString, readMembers, readString_escape, later]

theorem length_le_printMembers (members : List (String × String)) :
    members.length ≤ (printMembers members).length := by
  induction members with
  | nil => simp
  | cons _ rest ih =>
    cases rest with
    | nil => simp [printMembers, printMember, printString]
    | cons =>
      rw [printMembers]
      · simp only [List.length_append, List.length_cons] at ih ⊢
        omega
      · simp

theorem printMembers_cons (member : String × String) (rest : List (String × String)) :
    ∃ tail, printMembers (member :: rest) = '"' :: (escape member.1.toList ++ '"' :: tail) := by
  cases rest with
  | nil => exact ⟨':' :: printString member.2, by simp [printMembers, printMember, printString]⟩
  | cons next rest =>
    exact ⟨':' :: (printString member.2 ++ ',' :: printMembers (next :: rest)), by
      simp [printMembers, printMember, printString]⟩

theorem readObject_print (members : List (String × String)) :
    readObject (printObject members) = some members := by
  cases members with
  | nil => rfl
  | cons member rest =>
    have long := length_le_printMembers (member :: rest)
    have read := readMembers_print (printMembers (member :: rest) ++ ['}']).length member rest
      (by simp only [List.length_append, List.length_cons] at long ⊢; omega)
    obtain ⟨tail, starts⟩ := printMembers_cons member rest
    rw [printObject]
    rw [starts] at read ⊢
    exact read

end Reading

def JsonReader.strings : JsonReader where
  parse text :=
    if scan .start text = .done then
      (readObject text).map fun members =>
        .object (members.map fun member => (member.1, .string member.2))
    else none
  parse_printObject members _ := by rw [if_pos (scan_printObject members), readObject_print]; rfl
  parse_scan text members read := by
    obtain ⟨done, read⟩ := Option.ite_none_right_eq_some.mp read
    exact done

namespace Json

mutual

/-- The strings of a value, the names of members among them. -/
def strings : Json → List String
  | .string text => [text]
  | .array items => stringsOfItems items
  | .object members => stringsOfMembers members
  | .null | .bool _ | .number _ | .float _ => []

def stringsOfItems : List Json → List String
  | [] => []
  | item :: rest => item.strings ++ stringsOfItems rest

def stringsOfMembers : List (String × Json) → List String
  | [] => []
  | (name, value) :: rest => name :: (value.strings ++ stringsOfMembers rest)

end

end Json

/-- `Value::to_string`. -/
structure JsonPrinter where
  toText : Json → List Char
  /-- Every string of the value stands in the text, escaped and between quotes. -/
  toText_string : ∀ (value : Json) (text : String), text ∈ value.strings →
    printString text <:+: toText value

mutual

/-- A value as text, a number that is no integer by its bits. -/
def printJson : Json → List Char
  | .null => ['n', 'u', 'l', 'l']
  | .bool flag => (toString flag).toList
  | .number n => (toString n).toList
  | .float bits => (toString bits).toList
  | .string text => printString text
  | .array items => '[' :: (printItems items ++ [']'])
  | .object members => '{' :: (printJsonMembers members ++ ['}'])

def printItems : List Json → List Char
  | [] => []
  | [item] => printJson item
  | item :: rest => printJson item ++ ',' :: printItems rest

def printJsonMembers : List (String × Json) → List Char
  | [] => []
  | [(name, value)] => printString name ++ ':' :: printJson value
  | (name, value) :: rest =>
    printString name ++ ':' :: (printJson value ++ ',' :: printJsonMembers rest)

end

section Printing

theorem infix_between {part text : List Char} (inside : part <:+: text) (before after : List Char) :
    part <:+: before ++ text ++ after :=
  inside.trans (List.infix_append before text after)

mutual

theorem printJson_string : ∀ (value : Json) (text : String), text ∈ value.strings →
    printString text <:+: printJson value
  | .string text, other, member => by
      rw [List.mem_singleton.mp member]
      exact List.infix_refl _
  | .array items, text, member => by
      have inside := printItems_string items text member
      exact infix_between inside ['['] [']']
  | .object members, text, member => by
      have inside := printJsonMembers_string members text member
      exact infix_between inside ['{'] ['}']
  | .null, _, member | .bool _, _, member | .number _, _, member | .float _, _, member => by
      cases member

theorem printItems_string : ∀ (items : List Json) (text : String),
    text ∈ Json.stringsOfItems items → printString text <:+: printItems items
  | [], _, member => by cases member
  | [item], text, member => by
      rw [Json.stringsOfItems, Json.stringsOfItems, List.append_nil] at member
      exact printJson_string item text member
  | item :: next :: rest, text, member => by
      rw [Json.stringsOfItems, List.mem_append] at member
      have isText : printItems (item :: next :: rest) =
          printJson item ++ ',' :: printItems (next :: rest) := by simp [printItems]
      rw [isText]
      rcases member with first | later
      · exact (printJson_string item text first).trans (List.prefix_append _ _).isInfix
      · have inside := infix_between (printItems_string (next :: rest) text later)
          (printJson item ++ [',']) []
        simpa using inside

theorem printJsonMembers_string : ∀ (members : List (String × Json)) (text : String),
    text ∈ Json.stringsOfMembers members → printString text <:+: printJsonMembers members
  | [], _, member => by cases member
  | [(name, value)], text, member => by
      rw [Json.stringsOfMembers, Json.stringsOfMembers, List.append_nil, List.mem_cons] at member
      rcases member with rfl | inValue
      · exact (List.prefix_append _ _).isInfix
      · have inside := infix_between (printJson_string value text inValue)
          (printString name ++ [':']) []
        simpa [printJsonMembers] using inside
  | (name, value) :: next :: rest, text, member => by
      rw [Json.stringsOfMembers, List.mem_cons, List.mem_append] at member
      have isText : printJsonMembers ((name, value) :: next :: rest) =
          printString name ++ ':' :: (printJson value ++ ',' :: printJsonMembers (next :: rest)) := by
        simp [printJsonMembers]
      rw [isText]
      rcases member with rfl | inValue | later
      · exact (List.prefix_append _ _).isInfix
      · have inside := infix_between (printJson_string value text inValue)
          (printString name ++ [':']) (',' :: printJsonMembers (next :: rest))
        simpa using inside
      · have inside := infix_between (printJsonMembers_string (next :: rest) text later)
          (printString name ++ ':' :: (printJson value ++ [','])) []
        simpa using inside

end

end Printing

/-- A printer without blanks. -/
def JsonPrinter.compact : JsonPrinter := ⟨printJson, printJson_string⟩

end DnetEngine.Lib
