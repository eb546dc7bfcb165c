import Mathlib.Data.List.DropRight
import Mathlib.Data.Nat.Digits.Defs

/-! Internet addresses and their text, as `std::net` prints and reads it: dotted decimal octets for
version 4; colon-separated hexadecimal groups for version 6, the longest run of zero groups written
as `::`, and a mapped version 4 address written in its own form. Reading what was printed gives the
address back. -/

namespace DnetEngine.Lib

/-- `count` groups of `width` bits, the most significant first. -/
structure Groups (width count : Nat) where
  groups : List (BitVec width)
  length_eq : groups.length = count
  deriving DecidableEq

abbrev Ipv4Addr := Groups 8 4
abbrev Ipv6Addr := Groups 16 8

inductive IpAddr
  | v4 (addr : Ipv4Addr)
  | v6 (addr : Ipv6Addr)
  deriving DecidableEq

namespace Groups

variable {width count : Nat}

/-- The address as one number. -/
def bits (addr : Groups width count) : BitVec (width * count) :=
  BitVec.ofNat _ (addr.groups.foldl (fun number group => number * 2 ^ width + group.toNat) 0)

def ofList? (groups : List (BitVec width)) : Option (Groups width count) :=
  if length_eq : groups.length = count then some ⟨groups, length_eq⟩ else none

theorem ofList?_groups (addr : Groups width count) : ofList? addr.groups = some addr := by
  simp [ofList?, addr.length_eq]

end Groups

def Ipv4Addr.ofOctets (a b c d : BitVec 8) : Ipv4Addr := ⟨[a, b, c, d], rfl⟩

/-- The version 4 address in `::ffff:a.b.c.d`. -/
def toIpv4Mapped (addr : Ipv6Addr) : Option Ipv4Addr :=
  match addr.groups with
  | [0, 0, 0, 0, 0, 0xffff, high, low] =>
    some (Ipv4Addr.ofOctets (high.extractLsb' 8 8) (high.extractLsb' 0 8)
      (low.extractLsb' 8 8) (low.extractLsb' 0 8))
  | _ => none

/-! Printing. -/

def decimal (n : Nat) : List Char := Nat.toDigits 10 n
def hexadecimal (n : Nat) : List Char := Nat.toDigits 16 n

def printIpv4 (addr : Ipv4Addr) : List Char :=
  ['.'].intercalate (addr.groups.map (fun octet => decimal octet.toNat))

structure Span where
  start : Nat := 0
  len : Nat := 0
  deriving DecidableEq

/-- One more group: the longest run of zero groups so far, and the run that ends here. -/
def runStep (runs : Span × Span) (entry : BitVec 16 × Nat) : Span × Span :=
  if entry.1 = 0 then
    let current : Span :=
      ⟨if runs.2.len = 0 then entry.2 else runs.2.start, runs.2.len + 1⟩
    (if runs.1.len < current.len then current else runs.1, current)
  else (runs.1, {})

def zeroes (segments : List (BitVec 16)) : Span :=
  (segments.zipIdx.foldl runStep ({}, {})).1

def printGroups (segments : List (BitVec 16)) : List Char :=
  [':'].intercalate (segments.map (fun segment => hexadecimal segment.toNat))

def printIpv6 (addr : Ipv6Addr) : List Char :=
  match toIpv4Mapped addr with
  | some mapped => [':', ':', 'f', 'f', 'f', 'f', ':'] ++ printIpv4 mapped
  | none =>
    let run := zeroes addr.groups
    if 1 < run.len then
      printGroups (addr.groups.take run.start) ++ [':', ':'] ++
        printGroups (addr.groups.drop (run.start + run.len))
    else printGroups addr.groups

def printIpAddr : IpAddr → List Char
  | .v4 addr => printIpv4 addr
  | .v6 addr => printIpv6 addr

/-! Reading. A reader takes what it reads off the front, or nothing. -/

abbrev Reader (Value : Type) := List Char → Option (Value × List Char)

def toDigit (radix : Nat) (c : Char) : Option Nat :=
  let value :=
    if c.isDigit then some (c.toNat - '0'.toNat)
    else if 'a' ≤ c ∧ c ≤ 'z' then some (c.toNat - 'a'.toNat + 10)
    else if 'A' ≤ c ∧ c ≤ 'Z' then some (c.toNat - 'A'.toNat + 10)
    else none
  value.filter (fun digit => digit < radix)

def readGivenChar (target : Char) : Reader Unit
  | c :: rest => if c = target then some ((), rest) else none
  | [] => none

def readSeparator {Value : Type} (separator : Char) (index : Nat) (inner : Reader Value) :
    Reader Value := fun input =>
  if 0 < index then (readGivenChar separator input).bind (fun read => inner read.2)
  else inner input

/-- The number read so far and its digits; more than `maxDigits` of them is no number. -/
def readDigits (radix maxDigits : Nat) :
    (result count : Nat) → List Char → Option ((Nat × Nat) × List Char)
  | result, count, c :: rest =>
    match toDigit radix c with
    | some digit =>
      if maxDigits < count + 1 then none
      else readDigits radix maxDigits (result * radix + digit) (count + 1) rest
    | none => some ((result, count), c :: rest)
  | result, count, [] => some ((result, count), [])

def readNumber (radix maxDigits bound : Nat) (allowZeroPrefix : Bool) : Reader Nat := fun input =>
  (readDigits radix maxDigits 0 0 input).bind (fun read =>
    if read.1.2 = 0 then none
    else if !allowZeroPrefix && input.head? == some '0' && decide (1 < read.1.2) then none
    else if read.1.1 < bound then some (read.1.1, read.2)
    else none)

def readOctet (index : Nat) : Reader Nat :=
  readSeparator '.' index (readNumber 10 3 256 false)

def readIpv4 : Reader Ipv4Addr := fun input =>
  (readOctet 0 input).bind (fun a => (readOctet 1 a.2).bind (fun b =>
    (readOctet 2 b.2).bind (fun c => (readOctet 3 c.2).bind (fun d =>
      some (Ipv4Addr.ofOctets (BitVec.ofNat 8 a.1) (BitVec.ofNat 8 b.1) (BitVec.ofNat 8 c.1)
        (BitVec.ofNat 8 d.1), d.2)))))

/-- A series of groups with an optional version 4 address in place of the last two: the groups
read, whether they end in one, and what is left. -/
def readGroups : (index slots : Nat) → List Char → (List (BitVec 16) × Bool) × List Char
  | _, 0, input => (([], false), input)
  | index, slots + 1, input =>
    match (if 0 < slots then readSeparator ':' index readIpv4 input else none) with
    | some (addr, rest) =>
      match addr.groups with
      | [one, two, three, four] => (([one ++ two, three ++ four], true), rest)
      | _ => (([], true), rest)
    | none =>
      match readSeparator ':' index (readNumber 16 4 65536 true) input with
      | some (group, rest) =>
        let read := readGroups (index + 1) slots rest
        ((BitVec.ofNat 16 group :: read.1.1, read.1.2), read.2)
      | none => (([], false), input)

def readIpv6 : Reader Ipv6Addr := fun input =>
  let head := readGroups 0 8 input
  if head.1.1.length = 8 then (Groups.ofList? head.1.1).map (fun addr => (addr, head.2))
  else if head.1.2 then none
  else
    (readGivenChar ':' head.2).bind (fun first => (readGivenChar ':' first.2).bind (fun second =>
      let tail := readGroups 0 (8 - (head.1.1.length + 1)) second.2
      let zeros := List.replicate (8 - head.1.1.length - tail.1.1.length) 0
      (Groups.ofList? (head.1.1 ++ zeros ++ tail.1.1)).map (fun addr => (addr, tail.2))))

def readIpAddr : Reader IpAddr := fun input =>
  match readIpv4 input with
  | some (addr, rest) => some (.v4 addr, rest)
  | none => (readIpv6 input).map (fun read => (.v6 read.1, read.2))

/-- The whole text is one address. -/
def parseIpAddr (input : List Char) : Option IpAddr :=
  match readIpAddr input with
  | some (addr, []) => some addr
  | _ => none

/-- The whole text is one version 4 address. -/
def parseIpv4 (input : List Char) : Option Ipv4Addr :=
  match readIpv4 input with
  | some (addr, []) => some addr
  | _ => none

/-! The rest of what an address range is written with. -/

/-- `str::split_once`. -/
def splitOnce (separator : Char) : List Char → Option (List Char × List Char)
  | [] => none
  | c :: rest =>
    if c = separator then some ([], rest)
    else (splitOnce separator rest).map (fun parts => (c :: parts.1, parts.2))

def readUnsigned (bound : Nat) : (result : Nat) → List Char → Option Nat
  | result, [] => some result
  | result, c :: rest =>
    match toDigit 10 c with
    | some digit =>
      if result * 10 + digit < bound then readUnsigned bound (result * 10 + digit) rest else none
    | none => none

/-- `FromStr` of an unsigned integer below `bound`: digits, and a plus sign before them. -/
def parseUnsigned (bound : Nat) (input : List Char) : Option Nat :=
  let digits := match input with
    | '+' :: rest => rest
    | _ => input
  if digits.isEmpty then none else readUnsigned bound 0 digits

end DnetEngine.Lib
