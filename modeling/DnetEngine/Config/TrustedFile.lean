import DnetEngine.Lib.Bytes
import DnetEngine.Lib.Mortal
import DnetEngine.Lib.Run
import DnetEngine.Lib.Search

/-! A state file that only SYSTEM and Administrators control. It is replaced whole, by a rename, and
restricted after that; it is read only if it is restricted. -/

namespace DnetEngine.TrustedFile

open Lib Mortal

inductive TrustedFileError
  | io (text : String)
  | untrusted (text : String)
  deriving DecidableEq

def runDirSddl : Text := "D:P(A;OICI;FA;;;SY)(A;OICI;FA;;;BA)".toList
def runFileSddl : Text := "D:P(A;;FA;;;SY)(A;;FA;;;BA)".toList

/-- An object that only SYSTEM and Administrators control. -/
def isTrustedSddl (sddl : Text) : Bool :=
  match stripped "O:".toList sddl with
  | none => false
  | some rest =>
    match findText "D:".toList rest with
    | none => false
    | some found =>
      let owner := rest.take found
      if !(owner == "SY".toList || owner == "BA".toList) then false
      else match splitOnce '(' (rest.drop (found + 2)) with
        | none => false
        | some (flags, aces) =>
          if !flags.contains 'P' then false
          else (((aces.splitOn ')').map (fun ace => ace.dropWhile (· == '('))).filter
            (fun ace => !ace.isEmpty)).all
              (fun ace => ";;;SY".toList.isSuffixOf ace || ";;;BA".toList.isSuffixOf ace)

structure File where
  contents : Bytes
  dacl : Text
  deriving DecidableEq

/-- The state directory and the one file in it, and what the running process remembers of it. -/
structure World where
  /-- The permissions of the directory, if there is one. -/
  dir : Option Text := none
  tmp : Option File := none
  /-- The files that the path has named, the present one first. -/
  versions : List File := []
  dirRestricted : Bool := false
  deriving DecidableEq

/-- Everything is owned by SYSTEM. -/
def sddlOf (dacl : Text) : Text := "O:SY".toList ++ dacl

/-- What a file has that is created in the restricted directory: the two entries of the directory, in
a list that is not protected. -/
def inheritedDacl : Text := "D:AI(A;ID;FA;;;SY)(A;ID;FA;;;BA)".toList

/-- What becomes of a system call. One that fails may have written some bytes. -/
inductive Fate
  | done
  | fails (written : Nat) (reason : String)

section Operations

variable (path : String)

def ioError (what reason : String) : TrustedFileError := .io (what ++ " " ++ path ++ ": " ++ reason)

def untrusted (sddl : Text) : TrustedFileError :=
  .untrusted ("refusing " ++ path ++ ": not controlled only by SYSTEM and Administrators (" ++
    String.ofList sddl ++ ")")

abbrev Process := ExceptT TrustedFileError (Mortal Fate World)

/-- A system call that changes something, in whole or, if it fails, in part. -/
def call (what : String) (whole : World → World) (part : Nat → World → World) : Process Unit :=
  ExceptT.mk (act fun fate world => match fate with
    | .done => (.ok (), whole world)
    | .fails written reason => (.error (ioError path what reason), part written world))

def dirOwner (world : World) : Except TrustedFileError Unit :=
  match world.dir with
  | none => .error (ioError path "reading the security of the directory of" "not found")
  | some dacl =>
    if "O:SY".toList.isPrefixOf (sddlOf dacl) || "O:BA".toList.isPrefixOf (sddlOf dacl) then .ok ()
    else .error (untrusted path (sddlOf dacl))

def checkDirOwner : Process Unit :=
  ExceptT.mk (act fun fate world => match fate with
    | .done => (dirOwner path world, world)
    | .fails _ reason =>
      (.error (ioError path "reading the security of the directory of" reason), world))

def prepareDir : Process Unit := do
  if ← ExceptT.lift (look World.dirRestricted) then return
  call path "creating the directory of" (fun world => { world with dir := some (world.dir.getD []) })
    (fun _ world => world)
  call path "restricting the directory of" (fun world => { world with dir := some runDirSddl })
    (fun _ world => world)
  checkDirOwner path
  ExceptT.lift (change fun world => { world with dirRestricted := true })

-- A file that is there is emptied and keeps its permissions.
def createTmp (world : World) : World :=
  { world with tmp := some ⟨[], (world.tmp.map File.dacl).getD inheritedDacl⟩ }

def fillTmp (bytes : Bytes) (world : World) : World :=
  { world with tmp := world.tmp.map (fun file => { file with contents := bytes }) }

def renameTmp (world : World) : World :=
  match world.tmp with
  | none => world
  | some file => { world with tmp := none, versions := file :: world.versions }

def writeDurably (contents : Bytes) : Process Unit := do
  call path "writing" createTmp (fun _ world => world)
  call path "writing" (fillTmp contents) (fun written world => fillTmp (contents.take written) world)
  call path "writing" id (fun _ world => world)
  call path "writing" renameTmp (fun _ world => world)

def restrict (world : World) : World :=
  { world with versions := world.versions.modifyHead (fun file => { file with dacl := runFileSddl }) }

def write (contents : Bytes) : Process Unit := do
  prepareDir path
  writeDurably path contents
  call path "restricting" restrict (fun _ world => world)

def read (world : World) : Except TrustedFileError (Option Bytes) :=
  match world.versions with
  | [] => .ok none
  | file :: _ =>
    if !isTrustedSddl (sddlOf file.dacl) then .error (untrusted path (sddlOf file.dacl))
    else (dirOwner path world).map (fun _ => some file.contents)

end Operations

/-- A call of `write`, and what it returned if the process lived to see it. -/
structure Attempt where
  contents : Bytes
  outcome : Option (Except TrustedFileError Unit)

/-- A process that starts remembers nothing. -/
def World.restarted (world : World) : World := { world with dirRestricted := false }

/-- One call of `write`, after which the service may have been started again. -/
def Writes (path : String) (world : World) (attempt : Attempt) (after : World) : Prop :=
  ∃ fates, match (write path attempt.contents).run fates world with
    | (some (result, _), left) =>
      attempt.outcome = some result ∧ (after = left ∨ after = left.restarted)
    | (none, left) => attempt.outcome = none ∧ after = left.restarted

/-- The contents of the last write that returned `Ok` and of those interrupted after it. -/
def candidates : List (Taken World Attempt) → List Bytes
  | [] => []
  | taken :: older =>
    taken.label.contents ::
      (match taken.label.outcome with
      | some (.ok _) => []
      | _ => candidates older)

/-- What a crash may leave to be read. -/
def Survives (path : String) (history : List (Taken World Attempt)) (world : World) : Prop :=
  (∃ contents ∈ candidates history, read path world = .ok (some contents)) ∨
    (read path world = .ok none ∧ world.versions = [])

/-- The write that last replaced the file got to restrict it. -/
def Restricted (world : World) : Prop := ∀ file ∈ world.versions.head?, file.dacl = runFileSddl

section Writing

variable {path : String}

/-- The files that the path has named, and what goes with that: what is being written has what the
directory gives it, and there is a directory. -/
structure Named (files : List File) (world : World) : Prop where
  named : world.versions = files
  tmp : ∀ file ∈ world.tmp, file.dacl = inheritedDacl
  dir : files ≠ [] ∨ world.dirRestricted = true → world.dir.isSome = true

/-- Where a write stopped: before it replaced the file or after. -/
def Stopped (files : List File) (contents : Bytes) (world : World) : Prop :=
  Named files world ∨ Named (⟨contents, inheritedDacl⟩ :: files) world

theorem safe_call {what : String} {whole : World → World} {part : Nat → World → World}
    {pre killed : World → Prop} (succeeded : World → Prop)
    {failed : TrustedFileError → World → Prop}
    (survives : ∀ world, pre world → killed world)
    (succeeds : ∀ world, pre world → succeeded (whole world))
    (fails : ∀ written error world, pre world → failed error (part written world)) :
    Safe pre (call path what whole part).run (Either (fun _ => succeeded) failed) killed := by
  apply safe_act survives
  intro fate world before
  cases fate with
  | done => exact succeeds world before
  | fails written => exact fails written _ world before

variable {files : List File} {contents : Bytes} {killed : World → Prop}
  {failed : TrustedFileError → World → Prop}
  (survives : ∀ world, Named files world → killed world)
  (fails : ∀ error world, Named files world → failed error world)

include survives fails

theorem prepareDir_safe :
    Safe (Named files) (prepareDir path).run
      (Either (fun _ world => Named files world ∧ world.dir.isSome = true) failed) killed := by
  have known : Safe (Named files) (look World.dirRestricted : Mortal Fate World Bool)
      (fun restricted world => Named files world ∧ (restricted = true → world.dir.isSome = true))
      killed :=
    safe_look fun world named => ⟨named, fun restricted => named.dir (.inr restricted)⟩
  apply Safe.attempt (safe_lift known)
  intro restricted
  cases restricted with
  | true => exact safe_return fun world holds => ⟨holds.1, holds.2 rfl⟩
  | false =>
    have withDir (dacl : Text) (world : World) (named : Named files world) :
        Named files { world with dir := some dacl } := ⟨named.named, named.tmp, fun _ => rfl⟩
    refine Safe.attempt (safe_call (Named files) (fun world holds => survives world holds.1)
      (fun world holds => withDir _ world holds.1)
      (fun _ error world holds => fails error world holds.1)) fun _ => ?_
    refine Safe.attempt (safe_call (fun world => Named files world ∧ world.dir.isSome = true) survives
      (fun world named => ⟨withDir _ world named, rfl⟩)
      (fun _ error world named => fails error world named)) fun _ => ?_
    have checked : Safe (fun world => Named files world ∧ world.dir.isSome = true)
        (checkDirOwner path).run
        (Either (fun _ world => Named files world ∧ world.dir.isSome = true) failed) killed := by
      apply safe_act (fun world holds => survives world holds.1)
      intro fate world holds
      cases fate with
      | fails => exact fails _ world holds.1
      | done =>
        obtain ⟨dacl, isDir⟩ := Option.isSome_iff_exists.mp holds.2
        have owned : dirOwner path world = .ok () := by
          rw [dirOwner, isDir]
          rfl
        rw [owned]
        exact holds
    refine checked.attempt fun _ => ?_
    exact safe_lift (safe_change fun world holds =>
      ⟨⟨holds.1.named, holds.1.tmp, fun _ => holds.2⟩, holds.2⟩)

theorem writeDurably_safe :
    Safe (fun world => Named files world ∧ world.dir.isSome = true) (writeDurably path contents).run
      (Either (fun _ => Named (⟨contents, inheritedDacl⟩ :: files)) failed) killed := by
  let holding (bytes : Bytes) (world : World) : Prop :=
    (Named files world ∧ world.dir.isSome = true) ∧ world.tmp = some ⟨bytes, inheritedDacl⟩
  have created (world : World) (holds : Named files world ∧ world.dir.isSome = true) :
      holding [] (createTmp world) := by
    have inherited : (world.tmp.map File.dacl).getD inheritedDacl = inheritedDacl := by
      cases left : world.tmp with
      | none => rfl
      | some file => exact holds.1.tmp file left
    have made : (createTmp world).tmp = some ⟨[], inheritedDacl⟩ := by rw [createTmp, inherited]
    refine ⟨⟨⟨holds.1.named, ?_, holds.1.dir⟩, holds.2⟩, made⟩
    intro file isTmp
    rw [made] at isTmp
    cases isTmp
    rfl
  have filled (bytes : Bytes) (world : World) (holds : holding [] world) :
      holding bytes (fillTmp bytes world) := by
    have made : (fillTmp bytes world).tmp = some ⟨bytes, inheritedDacl⟩ := by
      rw [fillTmp, holds.2]
      rfl
    refine ⟨⟨⟨holds.1.1.named, ?_, holds.1.1.dir⟩, holds.1.2⟩, made⟩
    intro file isTmp
    rw [made] at isTmp
    cases isTmp
    rfl
  have renamed (world : World) (holds : holding contents world) :
      Named (⟨contents, inheritedDacl⟩ :: files) (renameTmp world) := by
    rw [renameTmp, holds.2]
    exact ⟨congrArg _ holds.1.1.named, by simp, fun _ => holds.1.2⟩
  refine Safe.attempt (safe_call (holding []) (fun world holds => survives world holds.1) created
    (fun _ error world holds => fails error world holds.1)) fun _ => ?_
  refine Safe.attempt (safe_call (holding contents) (fun world holds => survives world holds.1.1)
    (filled contents)
    (fun _ error world holds => fails error _ (filled _ world holds).1.1)) fun _ => ?_
  refine Safe.attempt (safe_call (holding contents) (fun world holds => survives world holds.1.1)
    (fun world holds => holds) (fun _ error world holds => fails error world holds.1.1)) fun _ => ?_
  exact safe_call _ (fun world holds => survives world holds.1.1) renamed
    (fun _ error world holds => fails error world holds.1.1)

end Writing

/-- A write that returns has replaced the file and restricted it; one that stops has done the first
or neither. -/
theorem write_safe (path : String) (files : List File) (contents : Bytes) :
    Safe (Named files) (write path contents).run
      (Either (fun _ => Named (⟨contents, runFileSddl⟩ :: files)) (fun _ => Stopped files contents))
      (Stopped files contents) := by
  have before (world : World) (named : Named files world) : Stopped files contents world := .inl named
  refine (prepareDir_safe before (fun _ => before)).attempt fun _ => ?_
  refine (writeDurably_safe before (fun _ => before)).attempt fun _ => ?_
  have after (world : World) (named : Named (⟨contents, inheritedDacl⟩ :: files) world) :
      Stopped files contents world := .inr named
  refine safe_call _ after ?_ (fun _ _ => after)
  intro world named
  refine ⟨?_, named.tmp, fun _ => named.dir (.inl (by simp))⟩
  rw [restrict, named.named]
  rfl

/-- The file holds the contents of a write that may count, and is restricted or as it was created. -/
structure Present (history : List (Taken World Attempt)) (world : World) : Prop where
  named : Named world.versions world
  candidate : ∀ file ∈ world.versions.head?, file.contents ∈ candidates history
  dacl : ∀ file ∈ world.versions.head?, file.dacl = inheritedDacl ∨ file.dacl = runFileSddl

variable {world : World} {history : List (Taken World Attempt)}

theorem Named.restarted {files : List File} (named : Named files world) :
    Named files world.restarted :=
  ⟨named.named, named.tmp, fun isDir => named.dir (isDir.imp_right (by simp [World.restarted]))⟩

theorem Present.restarted (present : Present history world) : Present history world.restarted :=
  ⟨present.named.restarted, present.candidate, present.dacl⟩

theorem present_next {path : String} {after : World} {attempt : Attempt}
    (present : Present history world) (writes : Writes path world attempt after) :
    Present (⟨world, attempt, after⟩ :: history) after := by
  obtain ⟨fates, writes⟩ := writes
  have safe := write_safe path world.versions attempt.contents fates world present.named
  -- Where the write stopped, what stood before may still count.
  have stopped (left : World) (holds : Stopped world.versions attempt.contents left)
      (interrupted : ∀ result, attempt.outcome ≠ some (.ok result)) :
      Present (⟨world, attempt, left⟩ :: history) left := by
    have still : candidates (⟨world, attempt, left⟩ :: history) =
        attempt.contents :: candidates history := by
      rw [candidates]
      split
      next result done => exact absurd done (interrupted result)
      next => rfl
    rcases holds with before | replaced
    · have same := before.named
      refine ⟨same ▸ before, ?_, same ▸ present.dacl⟩
      intro file isHead
      rw [same] at isHead
      rw [still]
      exact List.mem_cons_of_mem _ (present.candidate file isHead)
    · have same := replaced.named
      refine ⟨same ▸ replaced, ?_, ?_⟩
      · intro file isHead
        rw [same] at isHead
        cases isHead
        exact List.mem_cons_self
      · intro file isHead
        rw [same] at isHead
        cases isHead
        exact .inl rfl
  generalize (write path attempt.contents).run fates world = ended at safe writes
  obtain ⟨returned, left⟩ := ended
  have whole : Present (⟨world, attempt, left⟩ :: history) left := by
    cases returned with
    | none => exact stopped left safe (by simp [writes.1])
    | some returned =>
      obtain ⟨result, rest⟩ := returned
      cases result with
      | error => exact stopped left safe (by simp [writes.1])
      | ok =>
        have named : Named (⟨attempt.contents, runFileSddl⟩ :: world.versions) left := safe
        have same := named.named
        refine ⟨same ▸ named, ?_, ?_⟩
        · intro file isHead
          rw [same] at isHead
          cases isHead
          exact List.mem_cons_self
        · intro file isHead
          rw [same] at isHead
          cases isHead
          exact .inr rfl
  -- The candidates are those of the calls, whatever the world is after the last.
  have reached (later : World) : Present (⟨world, attempt, later⟩ :: history) left :=
    ⟨whole.named, whole.candidate, whole.dacl⟩
  cases returned with
  | none =>
    rw [writes.2]
    exact (reached _).restarted
  | some =>
    rcases writes.2 with rfl | rfl
    · exact whole
    · exact (reached _).restarted

theorem run_present {path : String} {dir : Option Text}
    (run : Run (Writes path) { dir } history world) : Present history world := by
  apply run_invariant Present ?_ ?_ run
  · exact ⟨⟨rfl, by simp, by simp⟩, by simp, by simp⟩
  · intro history world attempt after _ present writes
    exact present_next present writes

end DnetEngine.TrustedFile
