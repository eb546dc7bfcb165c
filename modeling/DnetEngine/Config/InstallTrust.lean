import DnetEngine.Lib.Fallible
import DnetEngine.Lib.Search
import Mathlib

/-! Whether the programs that run as SYSTEM are out of reach of ordinary users, judged from the text
of their security descriptors, and what such a text means. -/

namespace DnetEngine.InstallTrust

open Lib

/-- What the object is to the service, which decides which rights are dangerous. -/
inductive Role
  | program
  | programFolder
  | ancestor
  deriving DecidableEq

abbrev Mask := BitVec 32

def trusted : List Text :=
  ["SY".toList, "BA".toList, "S-1-5-18".toList, "S-1-5-32-544".toList,
    "S-1-5-80-956008885-3418522649-1831038044-1853292631-2271478464".toList]

namespace Bit

def writeData : Mask := 0x00000002
def appendData : Mask := 0x00000004
def writeEa : Mask := 0x00000010
def deleteChild : Mask := 0x00000040
def writeAttributes : Mask := 0x00000100
def delete : Mask := 0x00010000
def writeDac : Mask := 0x00040000
def writeOwner : Mask := 0x00080000
def genericAll : Mask := 0x10000000
def genericWrite : Mask := 0x40000000
def maximumAllowed : Mask := 0x02000000

end Bit

/-- The rights that let an untrusted trustee change what runs. -/
def dangerous (role : Role) : Mask :=
  let renameOrRetarget := Bit.delete ||| Bit.deleteChild ||| Bit.writeDac ||| Bit.writeOwner
  let anything := Bit.genericAll ||| Bit.genericWrite ||| Bit.maximumAllowed
  match role with
  | .program | .programFolder =>
    renameOrRetarget ||| Bit.writeData ||| Bit.appendData ||| Bit.writeEa |||
      Bit.writeAttributes ||| anything
  | .ancestor => renameOrRetarget ||| anything

def namedRight : Char → Char → Option Mask
  | 'F', 'A' => some 0x001f01ff
  | 'F', 'R' => some 0x00120089
  | 'F', 'W' => some 0x00120116
  | 'F', 'X' => some 0x001200a0
  | 'G', 'A' => some Bit.genericAll
  | 'G', 'R' => some 0x80000000
  | 'G', 'W' => some Bit.genericWrite
  | 'G', 'X' => some 0x20000000
  | 'S', 'D' => some Bit.delete
  | 'R', 'C' => some 0x00020000
  | 'W', 'D' => some Bit.writeDac
  | 'W', 'O' => some Bit.writeOwner
  | 'C', 'C' => some 0x1
  | 'D', 'C' => some 0x2
  | 'L', 'C' => some 0x4
  | 'S', 'W' => some 0x8
  | 'R', 'P' => some 0x10
  | 'W', 'P' => some 0x20
  | 'D', 'T' => some 0x40
  | 'L', 'O' => some 0x80
  | 'C', 'R' => some 0x100
  | _, _ => none

/-- The rights of a sequence of names. One that is not understood counts as every right. -/
def namesMask : Mask → Text → Mask
  | mask, [] => mask
  | _, [_] => BitVec.allOnes 32
  | mask, first :: second :: rest =>
    match namedRight first second with
    | some right => namesMask (mask ||| right) rest
    | none => BitVec.allOnes 32

-- A text that is not ASCII has a pair of bytes that names nothing, as it has one of characters.
def maskOf (text : Text) : Mask :=
  match (stripped "0x".toList text).or (stripped "0X".toList text) with
  | some hex => ((fromHex 32 hex).map (BitVec.ofNat 32)).getD (BitVec.allOnes 32)
  | none => if text = [] ∨ text.length % 2 ≠ 0 then BitVec.allOnes 32 else namesMask 0 text

def isTrusted (trustee : Text) : Bool := trusted.contains trustee

def isCreatorOwner (trustee : Text) : Bool :=
  trustee == "CO".toList || trustee == "S-1-3-0".toList

def who (trustee : Text) : String :=
  match String.ofList trustee with
  | "WD" | "S-1-1-0" => "Everyone"
  | "BU" | "S-1-5-32-545" => "Users"
  | "AU" | "S-1-5-11" => "Authenticated Users"
  | "IU" | "S-1-5-4" => "the interactive user"
  | "AN" => "anonymous users"
  | other => other

def allowKinds : List Text := ["A".toList, "OA".toList, "XA".toList, "ZA".toList]

def assessEntry (role : Role) (ace : Text) : Except String Unit :=
  if ace = [] then .ok ()
  else match ace.splitOn ';' with
    | kind :: flags :: rights :: _ :: _ :: trustee :: _ =>
      if !allowKinds.contains kind then .ok ()
      else if containsText "IO".toList flags then .ok ()
      else if isTrusted trustee || isCreatorOwner trustee then .ok ()
      else if maskOf rights &&& dangerous role ≠ 0 then
        .error (who trustee ++ " can write to it or change who can (" ++ String.ofList rights ++ ")")
      else .ok ()
    | _ => .error ("a permission entry is not understood: (" ++ String.ofList ace ++ ")")

def pieces (aces : Text) : List Text := (aces.splitOn ')').map (fun ace => ace.dropWhile (· == '('))

def assessDacl (dacl : Text) (role : Role) : Except String Unit :=
  if "NO_ACCESS_CONTROL".toList.isPrefixOf dacl then
    .error "it has no access control, which grants everyone full access"
  else (pieces (((splitOnce '(' dacl).map Prod.snd).getD [])).forM (assessEntry role)

def assessSddl (sddl : Text) (role : Role) : Except String Unit := do
  let rest ← orError "the owner could not be read" (stripped "O:".toList sddl)
  let stop ← orError "the permissions could not be read"
    ((findText "G:".toList rest).toList ++ (findText "D:".toList rest).toList).min?
  let owner := rest.take stop
  if !isTrusted owner then
    .error ("it is owned by " ++ String.ofList owner ++ ", who could therefore change its permissions")
  else
    let dacl ← orError "it has no permissions list, which grants everyone full access"
      ((findText "D:".toList rest).map (fun found => rest.drop (found + 2)))
    assessDacl dacl role

section Grammar

/-- A token of two capital letters. -/
structure Name where
  first : Char
  second : Char
  upper : first.isUpper = true ∧ second.isUpper = true
  deriving DecidableEq

def Name.text (name : Name) : Text := [name.first, name.second]

def Name.inheritOnly : Name := ⟨'I', 'O', by decide⟩

/-- The characters of an account, an alias or a SID, and of a GUID. -/
def isPlain (c : Char) : Bool := c.isAlphanum || c == '-'

structure Plain where
  text : Text
  plain : ∀ c ∈ text, isPlain c = true

inductive AceKind
  | a | d | oa | od | au | al | ou | ol | ml | ra | sp | tl | fl | xa | xd | xu | za
  deriving DecidableEq

def AceKind.text : AceKind → Text
  | .a => "A".toList
  | .d => "D".toList
  | .oa => "OA".toList
  | .od => "OD".toList
  | .au => "AU".toList
  | .al => "AL".toList
  | .ou => "OU".toList
  | .ol => "OL".toList
  | .ml => "ML".toList
  | .ra => "RA".toList
  | .sp => "SP".toList
  | .tl => "TL".toList
  | .fl => "FL".toList
  | .xa => "XA".toList
  | .xd => "XD".toList
  | .xu => "XU".toList
  | .za => "ZA".toList

/-- Access allowed, of an object too and under a condition too. -/
def AceKind.allows : AceKind → Bool
  | .a | .oa | .xa | .za => true
  | _ => false

inductive Rights
  | mask (capital : Bool) (digits : Text) (hex : digits ≠ [] ∧ ∀ c ∈ digits, (toDigit 16 c).isSome)
  | names (listed : List Name)

def Rights.text : Rights → Text
  | .mask capital digits _ => '0' :: (if capital then 'X' else 'x') :: digits
  | .names listed => listed.flatMap Name.text

structure Entry where
  kind : AceKind
  flags : List Name
  rights : Rights
  objectType : Plain
  inheritedType : Plain
  trustee : Plain
  /-- The condition or the attribute at the end of some entries, of any text. -/
  extra : Option Text

def Entry.fields (entry : Entry) : Text :=
  entry.kind.text ++ ';' :: (entry.flags.flatMap Name.text ++ ';' :: (entry.rights.text ++
    ';' :: (entry.objectType.text ++ ';' :: (entry.inheritedType.text ++ ';' :: entry.trustee.text))))

def Entry.body (entry : Entry) : Text :=
  entry.fields ++ (entry.extra.map (';' :: ·)).getD []

def Entry.text (entry : Entry) : Text := '(' :: (entry.body ++ [')'])

inductive DaclFlag
  | isProtected
  | autoInheritReq
  | autoInherited
  | noAccessControl
  deriving DecidableEq

def DaclFlag.text : DaclFlag → Text
  | .isProtected => "P".toList
  | .autoInheritReq => "AR".toList
  | .autoInherited => "AI".toList
  | .noAccessControl => "NO_ACCESS_CONTROL".toList

structure Descriptor where
  owner : Plain
  group : Option Plain
  flags : List DaclFlag
  entries : List Entry

def Descriptor.dacl (descriptor : Descriptor) : Text :=
  descriptor.flags.flatMap DaclFlag.text ++ descriptor.entries.flatMap Entry.text

def Descriptor.owned (descriptor : Descriptor) : Text :=
  descriptor.owner.text ++
    ((descriptor.group.map (fun group => 'G' :: ':' :: group.text)).getD [] ++
      'D' :: ':' :: descriptor.dacl)

def Descriptor.text (descriptor : Descriptor) : Text := "O:".toList ++ descriptor.owned

-- What the names mean that are not those of rights on files.
variable (other : Name → Mask)

def Name.right (name : Name) : Mask := (namedRight name.first name.second).getD (other name)

def Rights.granted : Rights → Mask
  | .mask _ digits _ => BitVec.ofNat 32 ((hexNumber 0 digits).getD 0)
  | .names listed => listed.foldl (fun mask name => mask ||| name.right other) 0

/-- The entry is effective on the object and grants someone else a right that is dangerous. -/
def Entry.Opens (entry : Entry) (role : Role) : Prop :=
  entry.kind.allows = true ∧ Name.inheritOnly ∉ entry.flags ∧
    isTrusted entry.trustee.text = false ∧ isCreatorOwner entry.trustee.text = false ∧
    entry.rights.granted other &&& dangerous role ≠ 0

/-- Only the trusted can change what runs. -/
def Descriptor.Closed (descriptor : Descriptor) (role : Role) : Prop :=
  isTrusted descriptor.owner.text = true ∧ .noAccessControl ∉ descriptor.flags ∧
    ∀ entry ∈ descriptor.entries, ¬ entry.Opens other role

/-- A token that ends in `I` stands before one that begins with `O`. -/
def crosses : List Name → Bool
  | one :: two :: rest => (one.second == 'I' && two.first == 'O') || crosses (two :: rest)
  | _ => false

/-- Nothing is misread that matters: no flag stands before the one that there is no access control,
and no entry that opens the object has flags that spell `IO` across two tokens. -/
def Descriptor.Straight (descriptor : Descriptor) (role : Role) : Prop :=
  .noAccessControl ∉ descriptor.flags.tail ∧
    ∀ entry ∈ descriptor.entries, entry.Opens other role → crosses entry.flags = false

end Grammar

section Reading

theorem isPlain_marks {c : Char} (plain : isPlain c = true) :
    c ≠ ':' ∧ c ≠ ';' ∧ c ≠ '(' ∧ c ≠ ')' := by
  refine ⟨?_, ?_, ?_, ?_⟩ <;>
    (intro same; subst same; revert plain; decide)

theorem isUpper_isPlain {c : Char} (upper : c.isUpper = true) : isPlain c = true := by
  simp [isPlain, Char.isAlphanum, Char.isAlpha, upper]

theorem toDigit_isPlain {c : Char} (digit : (toDigit 16 c).isSome) : isPlain c = true := by
  by_contra other
  simp only [isPlain, Char.isAlphanum, Char.isAlpha, Bool.or_eq_true, not_or] at other
  obtain ⟨⟨⟨notUpper, notLower⟩, notDigit⟩, _⟩ := other
  have upper : ¬ ('A' ≤ c ∧ c ≤ 'Z') := by simpa [Char.isUpper, Char.le_def] using notUpper
  have lower : ¬ ('a' ≤ c ∧ c ≤ 'z') := by simpa [Char.isLower, Char.le_def] using notLower
  simp [toDigit, notDigit, upper, lower] at digit

def AllPlain (text : Text) : Prop := ∀ c ∈ text, isPlain c = true

theorem kind_plain (kind : AceKind) : AllPlain kind.text := by
  cases kind <;> simp [AllPlain, AceKind.text, isPlain]

theorem names_plain (names : List Name) : AllPlain (names.flatMap Name.text) := by
  intro c member
  obtain ⟨name, _, inside⟩ := List.mem_flatMap.mp member
  rcases List.mem_pair.mp inside with rfl | rfl
  · exact isUpper_isPlain name.upper.1
  · exact isUpper_isPlain name.upper.2

theorem rights_plain (rights : Rights) : AllPlain rights.text := by
  cases rights with
  | names listed => exact names_plain listed
  | mask capital _ hex =>
    intro c member
    rcases List.mem_cons.mp member with rfl | member
    · decide
    · rcases List.mem_cons.mp member with rfl | member
      · cases capital <;> decide
      · exact toDigit_isPlain (hex.2 c member)

theorem splitOn_plain {text : Text} (plain : AllPlain text) (rest : Text) :
    (text ++ ';' :: rest).splitOn ';' = text :: rest.splitOn ';' := by
  apply List.splitOnP_append_cons_of_forall_mem
  · intro c member
    simpa using (isPlain_marks (plain c member)).2.1
  · simp

theorem fields_notClosing (entry : Entry) : ∀ c ∈ entry.fields, (c == ')') = false := by
  intro c member
  have plain (text : Text) (all : AllPlain text) (inside : c ∈ text) : (c == ')') = false := by
    simpa using (isPlain_marks (all c inside)).2.2.2
  simp only [Entry.fields, List.mem_append, List.mem_cons] at member
  rcases member with inside | rfl | inside | rfl | inside | rfl | inside | rfl | inside | rfl | inside
  · exact plain _ (kind_plain _) inside
  · rfl
  · exact plain _ (names_plain _) inside
  · rfl
  · exact plain _ (rights_plain _) inside
  · rfl
  · exact plain _ entry.objectType.plain inside
  · rfl
  · exact plain _ entry.inheritedType.plain inside
  · rfl
  · exact plain _ entry.trustee.plain inside

theorem splitOn_fields (entry : Entry) {end_ : Text} (ends : end_ = [] ∨ ∃ more, end_ = ';' :: more) :
    ∃ more, (entry.fields ++ end_).splitOn ';' =
      entry.kind.text :: entry.flags.flatMap Name.text :: entry.rights.text ::
        entry.objectType.text :: entry.inheritedType.text :: entry.trustee.text :: more := by
  have last : ∃ more, (entry.trustee.text ++ end_).splitOn ';' = entry.trustee.text :: more := by
    rcases ends with rfl | ⟨more, rfl⟩
    · refine ⟨[], ?_⟩
      rw [List.append_nil]
      apply List.splitOnP_eq_singleton
      intro c member
      simpa using (isPlain_marks (entry.trustee.plain c member)).2.1
    · exact ⟨_, splitOn_plain entry.trustee.plain more⟩
  obtain ⟨more, last⟩ := last
  refine ⟨more, ?_⟩
  simp only [Entry.fields, List.append_assoc, List.cons_append]
  rw [splitOn_plain (kind_plain _), splitOn_plain (names_plain _), splitOn_plain (rights_plain _),
    splitOn_plain entry.objectType.plain, splitOn_plain entry.inheritedType.plain, last]

theorem entry_piece (entry : Entry) :
    ∃ piece more pieces, (entry.body).splitOn ')' = piece :: pieces ∧ piece.head? ≠ some '(' ∧
      piece.splitOn ';' = entry.kind.text :: entry.flags.flatMap Name.text :: entry.rights.text ::
        entry.objectType.text :: entry.inheritedType.text :: entry.trustee.text :: more := by
  have first : ∃ c rest, entry.fields = c :: rest ∧ c ≠ '(' := by
    unfold Entry.fields
    cases entry.kind <;> exact ⟨_, _, rfl, by decide⟩
  obtain ⟨c, rest, starts, notOpening⟩ := first
  have ends : (entry.extra.map (';' :: ·)).getD [] = [] ∨
      ∃ more, (entry.extra.map (';' :: ·)).getD [] = ';' :: more := by
    cases entry.extra with
    | none => exact .inl rfl
    | some extra => exact .inr ⟨extra, rfl⟩
  rw [Entry.body]
  generalize (entry.extra.map (';' :: ·)).getD [] = end_ at ends
  have opening (more : Text) : (entry.fields ++ more).head? ≠ some '(' := by
    rw [starts]
    simpa using notOpening
  by_cases closes : ')' ∈ end_
  · -- The condition has a closing bracket, at which the entry is cut.
    obtain ⟨before, after, split, notBefore⟩ := List.eq_append_cons_of_mem closes
    have beforeEnds : before = [] ∨ ∃ more, before = ';' :: more := by
      cases before with
      | nil => exact .inl rfl
      | cons _ before =>
        rcases ends with nothing | ⟨more, same⟩
        · rw [nothing] at split
          cases split
        · rw [same] at split
          cases split
          exact .inr ⟨before, rfl⟩
    obtain ⟨more, fields⟩ := splitOn_fields entry beforeEnds
    refine ⟨_, more, after.splitOn ')', ?_, opening before, fields⟩
    rw [split, ← List.append_assoc]
    apply List.splitOnP_append_cons_of_forall_mem
    · intro c member
      rcases List.mem_append.mp member with inside | inside
      · exact fields_notClosing entry c inside
      · exact beq_false_of_ne fun same => notBefore (same ▸ inside)
    · simp
  · obtain ⟨more, fields⟩ := splitOn_fields entry ends
    refine ⟨_, more, [], ?_, opening end_, fields⟩
    apply List.splitOnP_eq_singleton
    intro c member
    rcases List.mem_append.mp member with inside | inside
    · exact fields_notClosing entry c inside
    · exact beq_false_of_ne fun same => closes (same ▸ inside)

theorem pieces_open (aces : Text) : pieces ('(' :: aces) = pieces aces := by
  have cut : ('(' :: aces).splitOn ')' = (aces.splitOn ')').modifyHead ('(' :: ·) := by
    rw [List.splitOn, List.splitOnP_cons_eq_if_modifyHead]
    rfl
  rw [pieces, cut, pieces]
  cases aces.splitOn ')' with
  | nil => rfl
  | cons => simp

theorem pieces_append (aces rest : Text) : pieces (aces ++ ')' :: rest) = pieces aces ++ pieces rest := by
  have cut : (aces ++ ')' :: rest).splitOn ')' = aces.splitOn ')' ++ rest.splitOn ')' :=
    List.splitOnP_append_cons aces rest (by simp)
  rw [pieces, cut, List.map_append]
  rfl

theorem piece_of_entry {entries : List Entry} {entry : Entry} (member : entry ∈ entries) :
    ∃ piece more, piece ∈ pieces (entries.flatMap Entry.text) ∧
      piece.splitOn ';' = entry.kind.text :: entry.flags.flatMap Name.text :: entry.rights.text ::
        entry.objectType.text :: entry.inheritedType.text :: entry.trustee.text :: more := by
  induction entries with
  | nil => cases member
  | cons first rest ih =>
    have cut : pieces ((first :: rest).flatMap Entry.text) =
        pieces first.body ++ pieces (rest.flatMap Entry.text) := by
      rw [List.flatMap_cons, Entry.text, List.cons_append, pieces_open, List.append_assoc]
      exact pieces_append _ _
    rw [cut]
    rcases List.mem_cons.mp member with rfl | later
    · obtain ⟨piece, more, others, split, notOpening, fields⟩ := entry_piece entry
      refine ⟨piece, more, List.mem_append_left _ ?_, fields⟩
      have kept : piece.dropWhile (· == '(') = piece := by
        cases piece with
        | nil => rfl
        | cons => exact List.dropWhile_cons_of_neg (by simpa using notOpening)
      rw [pieces, split, List.map_cons, kept]
      exact List.mem_cons_self
    · obtain ⟨piece, more, inside, fields⟩ := ih later
      exact ⟨piece, more, List.mem_append_right _ inside, fields⟩

theorem plain_notColon {text : Text} (plain : AllPlain text) : ':' ∉ text :=
  fun member => (isPlain_marks (plain _ member)).1 rfl

theorem sections (descriptor : Descriptor) :
    ((findText "G:".toList descriptor.owned).toList ++
        (findText "D:".toList descriptor.owned).toList).min? = some descriptor.owner.text.length ∧
      (findText "D:".toList descriptor.owned).map (fun found => descriptor.owned.drop (found + 2)) =
        some descriptor.dacl := by
  generalize isRest : descriptor.owned = rest
  have owner := plain_notColon descriptor.owner.plain
  cases given : descriptor.group with
  | none =>
    have whole : rest = descriptor.owner.text ++ 'D' :: ':' :: descriptor.dacl := by
      simp [← isRest, Descriptor.owned, given]
    have found : findText "D:".toList rest = some descriptor.owner.text.length := by
      rw [whole]
      exact findText_marked owner (by decide) _
    have passed : findText "G:".toList rest = (findText "G:".toList descriptor.dacl).map
        (· + (descriptor.owner.text.length + 2)) := by
      rw [whole]
      exact findText_passes owner (by decide) (by decide) (by decide) _
    rw [found, passed]
    constructor
    · cases findText "G:".toList descriptor.dacl with
      | none => simp
      | some =>
        simp only [Option.map_some, Option.toList_some, List.cons_append, List.nil_append,
          List.min?_cons', List.foldl_cons, List.foldl_nil]
        congr 1
        omega
    · have joined : rest = (descriptor.owner.text ++ ['D', ':']) ++ descriptor.dacl := by simp [whole]
      rw [Option.map_some, joined, List.drop_left' (by simp)]
  | some group =>
    have whole : rest = descriptor.owner.text ++ 'G' :: ':' ::
        (group.text ++ 'D' :: ':' :: descriptor.dacl) := by
      simp [← isRest, Descriptor.owned, given]
    have found : findText "G:".toList rest = some descriptor.owner.text.length := by
      rw [whole]
      exact findText_marked owner (by decide) _
    have later : findText "D:".toList rest =
        some (group.text.length + (descriptor.owner.text.length + 2)) := by
      rw [whole]
      refine (findText_passes owner (by decide) (by decide) (by decide) _).trans ?_
      exact congrArg _ (findText_marked (plain_notColon group.plain) (by decide) _)
    rw [found, later]
    constructor
    · simp only [Option.toList_some, List.cons_append, List.nil_append, List.min?_cons',
        List.foldl_cons, List.foldl_nil]
      congr 1
      omega
    · have joined : rest = (descriptor.owner.text ++ 'G' :: ':' :: (group.text ++ ['D', ':'])) ++
          descriptor.dacl := by simp [whole]
      have size : (descriptor.owner.text ++ 'G' :: ':' :: (group.text ++ ['D', ':'])).length =
          group.text.length + (descriptor.owner.text.length + 2) + 2 := by
        simp only [List.length_append, List.length_cons, List.length_nil]
        omega
      rw [Option.map_some, joined, List.drop_left' size]

theorem forM_ok {Item : Type} {check : Item → Except String Unit} {items : List Item}
    (done : items.forM check = .ok ()) : ∀ item ∈ items, check item = .ok () := by
  induction items with
  | nil => simp
  | cons _ _ ih =>
    obtain ⟨_, checked, later⟩ := bind_ok.mp done
    intro item member
    rcases List.mem_cons.mp member with rfl | inside
    · exact checked
    · exact ih later item inside

theorem flags_notOpening (flags : List DaclFlag) : '(' ∉ flags.flatMap DaclFlag.text := by
  intro member
  obtain ⟨flag, _, inside⟩ := List.mem_flatMap.mp member
  cases flag <;> exact absurd inside (by decide)

theorem pieces_dacl (descriptor : Descriptor) :
    pieces (((splitOnce '(' descriptor.dacl).map Prod.snd).getD []) =
      pieces (descriptor.entries.flatMap Entry.text) := by
  rw [Descriptor.dacl]
  cases descriptor.entries with
  | nil =>
    have absent (text : Text) (none_ : '(' ∉ text) : splitOnce '(' text = none := by
      induction text with
      | nil => rfl
      | cons _ _ ih =>
        rw [List.mem_cons, not_or] at none_
        rw [splitOnce, if_neg (Ne.symm none_.1), ih none_.2]
        rfl
    rw [List.flatMap_nil, List.append_nil, absent _ (flags_notOpening _)]
    rfl
  | cons =>
    rw [List.flatMap_cons, Entry.text, List.cons_append,
      splitOnce_append '(' _ _ (flags_notOpening _)]
    exact (pieces_open _).symm

theorem assessSddl_ok {descriptor : Descriptor} {role : Role}
    (passed : assessSddl descriptor.text role = .ok ()) :
    isTrusted descriptor.owner.text = true ∧ descriptor.flags.head? ≠ some .noAccessControl ∧
      ∀ piece ∈ pieces (descriptor.entries.flatMap Entry.text), assessEntry role piece = .ok () := by
  obtain ⟨stop, dacl⟩ := sections descriptor
  have owner : descriptor.owned.take descriptor.owner.text.length = descriptor.owner.text :=
    List.take_left
  rw [assessSddl, Descriptor.text, stripped_append, orError_some, ok_bind, stop, orError_some, ok_bind]
    at passed
  rw [owner, dacl] at passed
  obtain ⟨owned, passed⟩ := refused_ok.mp passed
  obtain ⟨controlled, passed⟩ := refused_ok.mp passed
  refine ⟨by simpa using owned, ?_, ?_⟩
  · intro first
    apply controlled
    cases flags : descriptor.flags with
    | nil =>
      rw [flags] at first
      cases first
    | cons =>
      rw [flags] at first
      cases first
      rw [Descriptor.dacl, flags]
      exact List.isPrefixOf_iff_prefix.mpr (List.prefix_append _ _)
  · rw [← pieces_dacl]
    exact forM_ok passed

end Reading

section Meaning

variable (other : Name → Mask)

theorem namesMask_names (names : List Name) (mask : Mask) (role : Role) :
    namesMask mask (names.flatMap Name.text) &&& dangerous role = 0 →
      names.foldl (fun mask name => mask ||| name.right other) mask &&& dangerous role = 0 := by
  have everything : BitVec.allOnes 32 &&& dangerous role ≠ 0 := by
    cases role <;> decide
  induction names generalizing mask with
  | nil => exact id
  | cons name _ ih =>
    rw [List.flatMap_cons, Name.text, List.cons_append, List.cons_append, namesMask,
      List.foldl_cons]
    cases known : namedRight name.first name.second with
    | none => exact fun harmless => absurd harmless everything
    | some right =>
      rw [show name.right other = right by rw [Name.right, known]; rfl]
      exact ih (mask ||| right)

theorem length_names (names : List Name) : (names.flatMap Name.text).length % 2 = 0 := by
  induction names with
  | nil => rfl
  | cons =>
    rw [List.flatMap_cons, List.length_append, Name.text]
    simp only [List.length_cons, List.length_nil]
    omega

theorem hexNumber_digits (digits : Text) (read : Nat)
    (hex : ∀ c ∈ digits, (toDigit 16 c).isSome = true) : ∃ n, hexNumber read digits = some n := by
  induction digits generalizing read with
  | nil => exact ⟨read, rfl⟩
  | cons c _ ih =>
    obtain ⟨digit, isDigit⟩ := Option.isSome_iff_exists.mp (hex c List.mem_cons_self)
    rw [hexNumber, isDigit]
    exact ih _ fun other member => hex other (List.mem_cons_of_mem _ member)

theorem maskOf_rights (rights : Rights) (role : Role)
    (harmless : maskOf rights.text &&& dangerous role = 0) :
    rights.granted other &&& dangerous role = 0 := by
  have everything : BitVec.allOnes 32 &&& dangerous role ≠ 0 := by
    cases role <;> decide
  cases rights with
  | mask capital digits hex =>
    obtain ⟨some_, digit⟩ := hex
    have number : ∃ n, hexNumber 0 digits = some n := hexNumber_digits digits 0 digit
    obtain ⟨n, number⟩ := number
    have unsigned : fromHex 32 digits = (some n).filter (fun n => decide (n < 2^32)) := by
      have same : withoutPlus digits = digits :=
        withoutPlus_same fun plus => absurd (digit '+' plus) (by decide)
      rw [fromHex, same, if_neg some_, number]
    have read : maskOf (Rights.mask capital digits ⟨some_, digit⟩).text =
        ((fromHex 32 digits).map (BitVec.ofNat 32)).getD (BitVec.allOnes 32) := by
      cases capital <;> rfl
    rw [read, unsigned] at harmless
    rw [Rights.granted, number]
    by_cases small : n < 2^32
    · rw [Option.filter_some, decide_eq_true small] at harmless
      exact harmless
    · rw [Option.filter_some, decide_eq_false small] at harmless
      exact absurd harmless everything
  | names listed =>
    cases listed with
    | nil => exact absurd harmless everything
    | cons name rest =>
      have notHex : (stripped "0x".toList ((name :: rest).flatMap Name.text)).or
          (stripped "0X".toList ((name :: rest).flatMap Name.text)) = none := by
        have notNought : ¬ '0' = name.first := by
          intro same
          have upper := name.upper.1
          rw [← same] at upper
          exact absurd upper (by decide)
        simp [stripped, Name.text, notNought]
      have even := length_names (name :: rest)
      have text : (name :: rest).flatMap Name.text ≠ [] := by simp [Name.text]
      rw [Rights.text, maskOf, notHex] at harmless
      rw [if_neg (not_or.mpr ⟨text, not_not.mpr even⟩)] at harmless
      exact namesMask_names other (name :: rest) 0 role harmless

/-- Flags spell `IO` as a token or across two of them. -/
theorem containsText_flags (flags : List Name) :
    containsText "IO".toList (flags.flatMap Name.text) = true ↔
      Name.inheritOnly ∈ flags ∨ crosses flags = true := by
  induction flags with
  | nil => simp [containsText, findText, crosses]
  | cons name rest ih =>
    have same : Name.inheritOnly = name ↔ 'I' = name.first ∧ 'O' = name.second := by
      obtain ⟨first, second, upper⟩ := name
      simp [Name.inheritOnly]
    cases rest with
    | nil =>
      change containsText ['I', 'O'] [name.first, name.second] = true ↔ _
      rw [List.mem_singleton, same]
      simp [containsText, findText, crosses]
    | cons next rest =>
      rw [List.mem_cons, crosses]
      change containsText ['I', 'O'] (name.first :: name.second :: next.first :: next.second ::
        rest.flatMap Name.text) = true ↔ _
      rw [containsText_pair, containsText_pair]
      simp only [Bool.or_eq_true, Bool.and_eq_true, decide_eq_true_eq, beq_iff_eq]
      tauto

end Meaning

/-- A descriptor that is accepted is closed, exactly unless something in it is misread that matters. -/
theorem accepted_is_closed (other : Name → Mask) (descriptor : Descriptor) (role : Role) :
    (assessSddl descriptor.text role = .ok () → descriptor.Closed other role) ↔
      (assessSddl descriptor.text role = .ok () → descriptor.Straight other role) := by
  apply imp_congr_right
  intro passed
  obtain ⟨owned, notFirst, each⟩ := assessSddl_ok passed
  constructor
  · rintro ⟨_, controlled, closed⟩
    exact ⟨fun later => controlled (List.mem_of_mem_tail later),
      fun entry member opens => absurd opens (closed entry member)⟩
  · rintro ⟨notLater, straight⟩
    refine ⟨owned, ?_, ?_⟩
    · intro member
      cases flags : descriptor.flags with
      | nil =>
        rw [flags] at member
        cases member
      | cons =>
        rw [flags] at member notFirst notLater
        rcases List.mem_cons.mp member with rfl | later
        · exact notFirst rfl
        · exact notLater later
    · intro entry member opens
      have uncrossed := straight entry member opens
      obtain ⟨allows, effective, untrusted, notOwner, dangerousRight⟩ := opens
      obtain ⟨piece, more, inside, fields⟩ := piece_of_entry member
      have assessed := each piece inside
      have some : piece ≠ [] := by
        rintro rfl
        simp at fields
      have kind : allowKinds.contains entry.kind.text = true := by
        cases found : entry.kind <;> rw [found] at allows <;> first | rfl | cases allows
      have spelt : containsText "IO".toList (entry.flags.flatMap Name.text) = false := by
        rw [← Bool.not_eq_true, containsText_flags]
        exact not_or.mpr ⟨effective, by simp [uncrossed]⟩
      rw [assessEntry, if_neg some, fields] at assessed
      dsimp only at assessed
      rw [kind, spelt, untrusted, notOwner] at assessed
      obtain ⟨harmless, assessed⟩ := refused_ok.mp assessed
      exact dangerousRight (maskOf_rights other _ role (not_not.mp harmless))

/-- Everyone may write to the program, under flags that a program and the folders in it inherit. -/
theorem inherited_entry_passes :
    let everyone : Entry := ⟨.a, [⟨'C', 'I', by decide⟩, ⟨'O', 'I', by decide⟩],
      .names [⟨'F', 'A', by decide⟩], ⟨[], by simp⟩, ⟨[], by simp⟩, ⟨"WD".toList, List.all_eq_true.mp rfl⟩, none⟩
    let descriptor : Descriptor := ⟨⟨"SY".toList, List.all_eq_true.mp rfl⟩, none, [.isProtected], [everyone]⟩
    descriptor.text = "O:SYD:P(A;CIOI;FA;;;WD)".toList ∧
      assessSddl descriptor.text .programFolder = .ok () ∧
      ¬ descriptor.Closed (fun _ => 0) .programFolder := by
  intro everyone descriptor
  refine ⟨by decide +kernel, by decide +kernel, ?_⟩
  rintro ⟨_, _, closed⟩
  exact closed everyone (by simp [descriptor]) (by
    refine ⟨rfl, by decide, by decide +kernel, by decide +kernel, by decide +kernel⟩)

section Objects

/-- A resolved path: the names below a root, the innermost first. -/
structure Path where
  root : String
  names : List String
  deriving DecidableEq

def Path.ancestors (path : Path) : List Path := path.names.tails.map (Path.mk path.root)

def roles (program : Path) : List (Path × Role) :=
  match program.ancestors with
  | program :: folder :: above =>
    (program, .program) :: (folder, .programFolder) :: above.map (·, .ancestor)
  | root => root.map (·, .program)

/-- Paths with their roles, each path once. -/
abbrev Objects := AList fun _ : Path => Role

def Objects.add (out : Objects) (object : Path × Role) : Objects :=
  if object.1 ∈ out then out else out.insert object.1 object.2

def objectsToCheck (programs : List Path) : Objects :=
  programs.foldl (fun out program => (roles program).foldl Objects.add out) ∅

/-- What an object is to a program. -/
def roleFor (path program : Path) : Option Role :=
  (roles program).findSome? fun object => if object.1 = path then some object.2 else none

variable {path : Path}

theorem lookup_add (out : Objects) (object : Path × Role) :
    (out.add object).lookup path =
      (out.lookup path).or (if object.1 = path then some object.2 else none) := by
  rw [Objects.add]
  by_cases same : object.1 = path
  · subst same
    cases listed : out.lookup object.1 <;> simp [← AList.lookup_isSome, listed]
  · rw [if_neg same, Option.or_none]
    split
    · rfl
    · exact AList.lookup_insert_ne (Ne.symm same)

/-- What is listed is what the object is to the first program it is something to. -/
theorem lookup_objects (programs : List Path) (path : Path) :
    (objectsToCheck programs).lookup path = programs.findSome? (roleFor path) :=
  foldl_or (fun out program => foldl_or lookup_add (roles program) out) programs ∅

theorem roleFor_isSome {program : Path} :
    (roleFor path program).isSome ↔ path ∈ program.ancestors := by
  have paths : (roles program).map Prod.fst = program.ancestors := by
    rw [roles]
    split <;> simp [*, Function.comp_def]
  simp [← paths, roleFor, List.findSome?_isSome_iff, apply_ite Option.isSome]

end Objects

end DnetEngine.InstallTrust
