import DnetEngine.Lib.Mortal
import DnetEngine.Lib.Run
import DnetEngine.Netstate.Undo
import Mathlib.Data.List.Nodup

/-! The undo registry over a store that may fail, in a process that may be killed between any two
effects and started again from the store. -/

namespace DnetEngine.Netstate

open Lib Mortal

/-- What outlives the process: the stored journal, the mutations in effect, and every journal that
was ever saved, the newest first. -/
structure World where
  stored : Option UndoJournal
  live : List UndoEntry
  saved : List UndoJournal
  deriving DecidableEq

inductive Fate
  | done
  | present
  | failed (error : NetstateError)
  deriving DecidableEq

namespace World

/-- The stored journal, or an empty one if none has been written. -/
def disk (world : World) : UndoJournal :=
  world.stored.getD .default

def load (world : World) : Except NetstateError UndoJournal :=
  match world.stored with
  | none => .ok .default
  | some journal => journal.check.map fun _ => journal

def save (world : World) (journal : UndoJournal) : World :=
  ⟨some journal, world.live, journal :: world.saved⟩

def mutate (world : World) (entry : UndoEntry) : World :=
  ⟨world.stored, entry :: world.live, world.saved⟩

def reverse (world : World) (entry : UndoEntry) : World :=
  ⟨world.stored, world.live.filter (·.id ≠ entry.id), world.saved⟩

end World

/-- A save that fails leaves the stored journal as it is. -/
def store : UndoStore (Mortal Fate World) where
  load := act fun fate world =>
    match fate with
    | .failed error => (.error error, world)
    | .done | .present => (world.load, world)
  save journal := act fun fate world =>
    match fate with
    | .failed error => (.error error, world)
    | .done | .present => (.ok (), world.save journal)

def executor : UndoExecutor (Mortal Fate World) where
  reverse entry := act fun fate world =>
    match fate with
    | .failed error => (.error error, world)
    | .done | .present => (.ok (), world.reverse entry)

/-- A mutation that succeeds, fails or finds its target already present. -/
def mutation (record : UndoRecord) (id : UndoId) :
    ExceptT NetstateError (Mortal Fate World) Mutation :=
  act fun fate world =>
    match fate with
    | .done => (.ok .applied, world.mutate ⟨id, record⟩)
    | .present => (.ok .alreadyPresent, world)
    | .failed error => (.error error, world)

def ops : RecoveryOps (Mortal Fate World) where
  reapOrphanCores := act fun fate world =>
    match fate with
    | .failed error => (.error error.display, world)
    | .done | .present => (.ok 0, world)
  store := store
  executor := executor

/-- The world, the registry of the running process, and the ids that `apply` returned, the newest
first. -/
structure System where
  world : World
  registry : Option UndoJournal
  returned : List UndoId
  deriving DecidableEq

def System.new (stored : Option UndoJournal) : System := ⟨⟨stored, [], []⟩, none, []⟩

/-- The operations, each with the fates of its effects: where they end before the operation does,
the process is killed. A recovery is with whether it succeeded. -/
inductive Operation
  | opens (fates : List Fate)
  | applies (record : UndoRecord) (fates : List Fate)
  | undoes (id : UndoId) (fates : List Fate)
  | replays (fates : List Fate)
  | recovers (fates : List Fate) (ok : Bool)
  | killed
  deriving DecidableEq

namespace System

/-- The system after a program, with what it leaves in memory if it returned. -/
def after {Value : Type} (system : System) (done : Option (Value × List Fate) × World)
    (keep : Value → Option UndoJournal × List UndoId) : System :=
  match done with
  | (some (value, _), world) => ⟨world, (keep value).1, (keep value).2⟩
  | (none, world) => ⟨world, none, system.returned⟩

def next (system : System) : Operation → Option System
  | .opens fates =>
    some (system.after (store.load.run fates system.world) fun loaded =>
      (loaded.toOption, system.returned))
  | .applies record fates =>
    system.registry.map fun journal =>
      system.after (apply store journal record (mutation record) fates system.world)
        fun (result, journal) =>
          (some journal,
            match result with
            | .ok (some id) => id :: system.returned
            | _ => system.returned)
  | .undoes id fates =>
    system.registry.map fun journal =>
      system.after (undo store executor journal id fates system.world) fun done =>
        (some done.2, system.returned)
  | .replays fates =>
    system.registry.map fun journal =>
      system.after (replay store executor journal fates system.world) fun done =>
        (some done.2, system.returned)
  | .recovers fates ok =>
    let done := recoverAtStart ops fates system.world
    if (done.1.any fun returned => returned.1.isOk) = ok then
      some (system.after done fun recovered => (recovered.toOption.map Recovered.undo,
        system.returned))
    else none
  | .killed => some ⟨system.world, none, system.returned⟩

def Steps (system : System) (operation : Operation) (after : System) : Prop :=
  system.next operation = some after

end System

section Journals

variable {journal : UndoJournal}

/-- What the checks of a journal ask for. -/
structure UndoJournal.Trusted (journal : UndoJournal) : Prop where
  version : journal.version = journalVersion
  valid : ∀ entry ∈ journal.entries, entry.record.validate = .ok ()
  distinct : (journal.entries.map UndoEntry.id).Nodup
  below : ∀ entry ∈ journal.entries, entry.id < journal.nextId

theorem checkEntries_cons (nextId : Nat) (seen : List UndoId) (entry : UndoEntry)
    (rest : List UndoEntry) :
    UndoJournal.checkEntries nextId seen (entry :: rest) = .ok () ↔
      entry.record.validate = .ok () ∧ entry.id ∉ seen ∧ entry.id < nextId ∧
        UndoJournal.checkEntries nextId (entry.id :: seen) rest = .ok () := by
  rw [UndoJournal.checkEntries]
  cases valid : entry.record.validate with
  | error => simp
  | ok =>
    by_cases known : entry.id ∈ seen
    · simp [known]
    · by_cases late : entry.id ≥ nextId
      · simp [known, late]
      · simp [known, late, Nat.lt_of_not_ge late]

theorem checkEntries_iff (nextId : Nat) (seen : List UndoId) (entries : List UndoEntry) :
    UndoJournal.checkEntries nextId seen entries = .ok () ↔
      (∀ entry ∈ entries, entry.record.validate = .ok () ∧ entry.id ∉ seen ∧ entry.id < nextId) ∧
        (entries.map UndoEntry.id).Nodup := by
  induction entries generalizing seen with
  | nil => simp [UndoJournal.checkEntries]
  | cons _ _ ih =>
    rw [checkEntries_cons, ih, List.forall_mem_cons, List.map_cons, List.nodup_cons]
    constructor
    · rintro ⟨valid, fresh, below, each, distinct⟩
      refine ⟨⟨⟨valid, fresh, below⟩, fun other member => ?_⟩, fun again => ?_, distinct⟩
      · obtain ⟨otherValid, otherFresh, otherBelow⟩ := each other member
        exact ⟨otherValid, fun old => otherFresh (List.mem_cons_of_mem _ old), otherBelow⟩
      · obtain ⟨other, member, same⟩ := List.mem_map.mp again
        exact (each other member).2.1 (same ▸ List.mem_cons_self)
    · rintro ⟨⟨⟨valid, fresh, below⟩, each⟩, notAgain, distinct⟩
      refine ⟨valid, fresh, below, fun other member => ?_, distinct⟩
      obtain ⟨otherValid, otherFresh, otherBelow⟩ := each other member
      refine ⟨otherValid, fun old => ?_, otherBelow⟩
      rcases List.mem_cons.mp old with same | old
      · exact notAgain (same ▸ List.mem_map_of_mem member)
      · exact otherFresh old

theorem check_iff : journal.check = .ok () ↔ journal.Trusted := by
  rw [UndoJournal.check]
  by_cases version : journal.version = journalVersion
  · rw [if_neg (not_not.mpr version), checkEntries_iff]
    constructor
    · rintro ⟨each, distinct⟩
      exact ⟨version, fun entry member => (each entry member).1, distinct,
        fun entry member => (each entry member).2.2⟩
    · intro trusted
      exact ⟨fun entry member => ⟨trusted.valid entry member, List.not_mem_nil,
        trusted.below entry member⟩, trusted.distinct⟩
  · rw [if_pos version]
    exact ⟨nofun, fun trusted => absurd trusted.version version⟩

theorem trusted_default : UndoJournal.default.Trusted :=
  ⟨rfl, nofun, List.nodup_nil, nofun⟩

theorem UndoJournal.Trusted.register (trusted : journal.Trusted) {record : UndoRecord}
    (valid : record.validate = .ok ()) : (journal.register record).Trusted where
  version := trusted.version
  valid := by
    intro entry member
    rcases List.mem_append.mp member with old | new
    · exact trusted.valid entry old
    · rw [List.mem_singleton.mp new]
      exact valid
  distinct := by
    rw [UndoJournal.register, List.map_append]
    refine List.Nodup.append trusted.distinct (by simp) fun id old new => ?_
    obtain ⟨entry, member, rfl⟩ := List.mem_map.mp old
    exact (trusted.below entry member).ne (List.mem_singleton.mp new)
  below := by
    intro entry member
    rcases List.mem_append.mp member with old | new
    · exact Nat.lt_succ_of_lt (trusted.below entry old)
    · rw [List.mem_singleton.mp new]
      exact Nat.lt_succ_self _

theorem UndoJournal.mem_without {ids : List UndoId} {entry : UndoEntry} :
    entry ∈ (journal.without ids).entries ↔ entry ∈ journal.entries ∧ entry.id ∉ ids := by
  simp [UndoJournal.without]

theorem UndoJournal.Trusted.without (trusted : journal.Trusted) (ids : List UndoId) :
    (journal.without ids).Trusted where
  version := trusted.version
  valid entry member := trusted.valid entry (mem_without.mp member).1
  distinct := trusted.distinct.sublist (List.filter_sublist.map _)
  below entry member := trusted.below entry (mem_without.mp member).1

end Journals

/-- What holds of the world whatever became of the process: the stored journal passes the checks
and has every mutation in effect, and its ids go on from those handed out below `next`. -/
structure Durable (next : Nat) (world : World) : Prop where
  trusted : world.disk.Trusted
  next_le : next ≤ world.disk.nextId
  live : ∀ entry ∈ world.live, entry ∈ world.disk.entries
  saved : ∀ journal ∈ world.saved, journal.Trusted

/-- What holds between the journal in memory and the world. The stored journal may have more
entries: those of withdrawals that could not be written. -/
structure Agrees (journal : UndoJournal) (world : World) : Prop where
  trusted : journal.Trusted
  disk : world.disk.Trusted
  nextId : world.disk.nextId = journal.nextId
  entries : ∀ entry ∈ journal.entries, entry ∈ world.disk.entries
  live : ∀ entry ∈ world.live, entry ∈ journal.entries
  saved : ∀ journal ∈ world.saved, journal.Trusted

section Effects

variable {journal : UndoJournal} {world : World}

variable {next : Nat}

theorem Agrees.durable (agrees : Agrees journal world) (le : next ≤ journal.nextId) :
    Durable next world where
  trusted := agrees.disk
  next_le := agrees.nextId ▸ le
  live entry member := agrees.entries entry (agrees.live entry member)
  saved := agrees.saved

theorem Durable.agrees (durable : Durable next world) : Agrees world.disk world where
  trusted := durable.trusted
  disk := durable.trusted
  nextId := rfl
  entries _ member := member
  live := durable.live
  saved := durable.saved

variable {changed : UndoJournal} {entry : UndoEntry}

theorem Agrees.save (agrees : Agrees journal world) (trusted : changed.Trusted)
    (live : ∀ entry ∈ world.live, entry ∈ changed.entries) :
    Agrees changed (world.save changed) where
  trusted := trusted
  disk := trusted
  nextId := rfl
  entries _ member := member
  live := live
  saved := List.forall_mem_cons.mpr ⟨trusted, agrees.saved⟩

theorem Agrees.mutate (agrees : Agrees journal world) (registered : entry ∈ journal.entries) :
    Agrees journal (world.mutate entry) where
  trusted := agrees.trusted
  disk := agrees.disk
  nextId := agrees.nextId
  entries := agrees.entries
  live := List.forall_mem_cons.mpr ⟨registered, agrees.live⟩
  saved := agrees.saved

theorem World.mem_reverse {other : UndoEntry} :
    other ∈ (world.reverse entry).live ↔ other ∈ world.live ∧ other.id ≠ entry.id := by
  simp [World.reverse]

theorem Agrees.reverse (agrees : Agrees journal world) (entry : UndoEntry) :
    Agrees journal (world.reverse entry) where
  trusted := agrees.trusted
  disk := agrees.disk
  nextId := agrees.nextId
  entries := agrees.entries
  live other member := agrees.live other (World.mem_reverse.mp member).1
  saved := agrees.saved

/-- Entries of nothing in effect can be dropped from memory alone. -/
theorem Agrees.without (agrees : Agrees journal world) {ids : List UndoId}
    (gone : ∀ entry ∈ world.live, entry.id ∉ ids) : Agrees (journal.without ids) world where
  trusted := agrees.trusted.without ids
  disk := agrees.disk
  nextId := agrees.nextId
  entries entry member := agrees.entries entry (UndoJournal.mem_without.mp member).1
  live entry member := UndoJournal.mem_without.mpr ⟨agrees.live entry member, gone entry member⟩
  saved := agrees.saved

theorem Agrees.save_without (agrees : Agrees journal world) {ids : List UndoId}
    (gone : ∀ entry ∈ world.live, entry.id ∉ ids) :
    Agrees (journal.without ids) (world.save (journal.without ids)) :=
  (agrees.without gone).save (agrees.trusted.without ids) (agrees.without gone).live

theorem Durable.load (durable : Durable next world) : world.load = .ok world.disk := by
  have trusted := durable.trusted
  unfold World.load World.disk at *
  cases stored : world.stored with
  | none => rfl
  | some =>
    rw [stored] at trusted
    rw [Option.getD_some] at trusted ⊢
    simp [check_iff.mpr trusted, Except.map]

theorem save_safe {pre : World → Prop} (durable : ∀ world, pre world → Durable next world) :
    Safe pre (store.save changed).run
      (fun result world =>
        match result with
        | .ok _ => ∃ before, pre before ∧ world = before.save changed
        | .error _ => pre world)
      (Durable next) := by
  apply safe_act durable
  intro fate world before
  cases fate with
  | failed => exact before
  | done | present => exact ⟨world, before, rfl⟩

theorem reverse_safe {pre : World → Prop} (durable : ∀ world, pre world → Durable next world) :
    Safe pre (executor.reverse entry).run
      (fun result world =>
        match result with
        | .ok _ => ∃ before, pre before ∧ world = before.reverse entry
        | .error _ => pre world)
      (Durable next) := by
  apply safe_act durable
  intro fate world before
  cases fate with
  | failed => exact before
  | done | present => exact ⟨world, before, rfl⟩

end Effects

section Operations

variable {journal : UndoJournal} {next : Nat}

/-- The record is registered, and its mutation not in effect yet. -/
def Registered (journal : UndoJournal) (record : UndoRecord) (world : World) : Prop :=
  Agrees (journal.register record) world ∧ ∀ entry ∈ world.live, entry.id ∉ [journal.nextId]

theorem Agrees.registered {record : UndoRecord} {world : World} (agrees : Agrees journal world)
    (valid : record.validate = .ok ()) :
    Registered journal record (world.save (journal.register record)) := by
  constructor
  · exact agrees.save (agrees.trusted.register valid) fun entry member =>
      List.mem_append_left _ (agrees.live entry member)
  · intro entry member same
    have below := agrees.trusted.below entry (agrees.live entry member)
    exact below.ne (List.mem_singleton.mp same)

theorem mutation_safe (record : UndoRecord) (le : next ≤ journal.nextId) :
    Safe (Registered journal record) (mutation record journal.nextId).run
      (fun outcome world =>
        match outcome with
        | .ok .applied => Agrees (journal.register record) world
        | _ => Registered journal record world)
      (Durable next) := by
  apply safe_act fun world registered => registered.1.durable (Nat.le_succ_of_le le)
  intro fate world registered
  cases fate with
  | done => exact registered.1.mutate (List.mem_append_right _ List.mem_cons_self)
  | present | failed => exact registered

theorem withdraw_safe {Value : Type} (record : UndoRecord) (le : next ≤ journal.nextId)
    (value : Value) :
    Safe (Registered journal record)
      (do
        let _ ← (store.save ((journal.register record).without [journal.nextId])).run
        pure (value, (journal.register record).without [journal.nextId]))
      (fun done world => done.1 = value ∧ Agrees done.2 world ∧ journal.nextId ≤ done.2.nextId)
      (Durable next) := by
  refine Safe.bind (save_safe fun world registered =>
    registered.1.durable (Nat.le_succ_of_le le)) fun saved => safe_pure fun world after => ?_
  refine ⟨rfl, ?_, Nat.le_succ _⟩
  cases saved with
  | error => exact after.1.without after.2
  | ok =>
    obtain ⟨before, registered, rfl⟩ := after
    exact registered.1.save_without registered.2

theorem apply_safe (record : UndoRecord) (le : next ≤ journal.nextId) :
    Safe (Agrees journal) (apply store journal record (mutation record))
      (fun done world => Agrees done.2 world ∧ journal.nextId ≤ done.2.nextId ∧
        ∀ id, done.1 = .ok (some id) → journal.nextId ≤ id ∧ id < done.2.nextId)
      (Durable next) := by
  have none_ {world : World} {done : Except NetstateError (Option UndoId) × UndoJournal}
      {error : Except NetstateError Mutation}
      (holds : done.1 = error.map (fun _ => none) ∧ Agrees done.2 world ∧
        journal.nextId ≤ done.2.nextId) :
      Agrees done.2 world ∧ journal.nextId ≤ done.2.nextId ∧
        ∀ id, done.1 = .ok (some id) → journal.nextId ≤ id ∧ id < done.2.nextId := by
    refine ⟨holds.2.1, holds.2.2, fun id returned => ?_⟩
    rw [holds.1] at returned
    cases error <;> cases returned
  rw [apply]
  cases valid : record.validate with
  | error => exact safe_pure fun world agrees => ⟨agrees, le_rfl, nofun⟩
  | ok =>
    refine Safe.bind (save_safe fun world agrees => agrees.durable le) fun saved => ?_
    cases saved with
    | error => exact safe_pure fun world agrees => ⟨agrees, le_rfl, nofun⟩
    | ok _ =>
      refine Safe.bind ((mutation_safe record le).given ?_) fun outcome => ?_
      · rintro _ ⟨before, agrees, rfl⟩
        exact agrees.registered valid
      cases outcome with
      | error =>
        exact (withdraw_safe record le _).mono fun done world holds => none_ holds
      | ok outcome =>
        cases outcome with
        | alreadyPresent =>
          exact (withdraw_safe record le _).mono fun done world holds => none_ holds
        | applied =>
          refine safe_pure fun world agrees => ⟨agrees, Nat.le_succ _, fun id returned => ?_⟩
          cases returned
          exact ⟨le_rfl, Nat.lt_succ_self _⟩

theorem undo_safe (id : UndoId) (le : next ≤ journal.nextId) :
    Safe (Agrees journal) (undo store executor journal id)
      (fun done world => Agrees done.2 world ∧ journal.nextId ≤ done.2.nextId) (Durable next) := by
  rw [undo]
  cases found : journal.entries.find? (·.id = id) with
  | none => exact safe_pure fun world agrees => ⟨agrees, le_rfl⟩
  | some entry =>
    have same : entry.id = id := by simpa using List.find?_some found
    have durable (world : World) (agrees : Agrees journal world) : Durable next world :=
      agrees.durable le
    refine Safe.bind (reverse_safe durable) fun reversed => ?_
    cases reversed with
    | error => exact safe_pure fun world agrees => ⟨agrees, le_rfl⟩
    | ok _ =>
      refine Safe.bind (save_safe ?_) fun saved => ?_
      · rintro _ ⟨before, agrees, rfl⟩
        exact (agrees.reverse entry).durable le
      cases saved with
      | error =>
        refine safe_pure ?_
        rintro _ ⟨before, agrees, rfl⟩
        exact ⟨agrees.reverse entry, le_rfl⟩
      | ok _ =>
        refine safe_pure ?_
        rintro _ ⟨_, ⟨before, agrees, rfl⟩, rfl⟩
        refine ⟨(agrees.reverse entry).save_without fun other member again => ?_, le_rfl⟩
        rw [← same, List.mem_singleton] at again
        exact (World.mem_reverse.mp member).2 again

/-- In the course of a replay: nothing was written yet, and nothing of what was reversed is in
effect. -/
structure Replaying (journal : UndoJournal) (stored : Option UndoJournal) (gone : List UndoId)
    (world : World) : Prop where
  agrees : Agrees journal world
  unwritten : world.stored = stored
  gone : ∀ entry ∈ world.live, entry.id ∉ gone

theorem reverseAll_safe {stored : Option UndoJournal} (entries : List UndoEntry)
    (gone : List UndoId) (le : next ≤ journal.nextId) :
    Safe (Replaying journal stored gone) (reverseAll executor entries)
      (fun done world => Replaying journal stored (done.1 ++ gone) world ∧
        (done.2 = [] → done.1 = entries.map UndoEntry.id))
      (Durable next) := by
  induction entries generalizing gone with
  | nil => exact safe_pure fun world replaying => ⟨replaying, fun _ => rfl⟩
  | cons entry _ ih =>
    refine Safe.bind (reverse_safe fun world replaying => replaying.agrees.durable le)
      fun outcome => ?_
    cases outcome with
    | error =>
      refine Safe.bind (ih gone) fun done => safe_pure fun world holds => ?_
      exact ⟨holds.1, nofun⟩
    | ok _ =>
      refine Safe.bind ((ih (entry.id :: gone)).given ?_) fun done =>
        safe_pure fun world holds => ?_
      · rintro _ ⟨before, replaying, rfl⟩
        refine ⟨replaying.agrees.reverse entry, replaying.unwritten, fun other member => ?_⟩
        obtain ⟨old, differs⟩ := World.mem_reverse.mp member
        exact List.not_mem_cons_of_ne_of_not_mem differs (replaying.gone other old)
      · refine ⟨⟨holds.1.agrees, holds.1.unwritten, fun other member => ?_⟩, fun none_ => ?_⟩
        · have before := holds.1.gone other member
          simp only [List.cons_append, List.mem_append, List.mem_cons, not_or] at before ⊢
          exact ⟨before.2.1, before.1, before.2.2⟩
        · exact congrArg (List.cons entry.id) (holds.2 none_)

/-- A replay that failed nowhere leaves nothing in effect and nothing in memory, and in the store
what is in memory, unless there was nothing to write. -/
theorem replay_safe (stored : Option UndoJournal) (le : next ≤ journal.nextId) :
    Safe (Replaying journal stored []) (replay store executor journal)
      (fun done world => Agrees done.2 world ∧ journal.nextId ≤ done.2.nextId ∧
        ∀ report, done.1 = .ok report → report.failed = [] →
          done.2.entries = [] ∧ (world.disk = done.2 ∨ done.2 = journal ∧ world.stored = stored))
      (Durable next) := by
  refine Safe.bind (reverseAll_safe journal.entries.reverse [] le) fun reversed => ?_
  obtain ⟨restored, failed⟩ := reversed
  simp only [List.append_nil]
  have all (reversed : restored = (journal.entries.reverse).map UndoEntry.id) :
      (journal.without restored).entries = [] := by
    rw [List.eq_nil_iff_forall_not_mem]
    intro entry member
    obtain ⟨old, kept⟩ := UndoJournal.mem_without.mp member
    rw [reversed] at kept
    exact kept (List.mem_map_of_mem (List.mem_reverse.mpr old))
  cases restored with
  | nil =>
    refine safe_pure fun world holds => ⟨holds.1.agrees, le_rfl, fun report ok none_ => ?_⟩
    cases ok
    have empty : journal.entries = [] := by simpa using (holds.2 none_).symm
    exact ⟨empty, .inr ⟨rfl, holds.1.unwritten⟩⟩
  | cons =>
    refine Safe.bind (save_safe fun world holds => holds.1.agrees.durable le) fun saved => ?_
    cases saved with
    | error =>
      exact safe_pure fun world holds => ⟨holds.1.agrees, le_rfl, nofun⟩
    | ok _ =>
      refine safe_pure ?_
      rintro _ ⟨before, ⟨replaying, whole⟩, rfl⟩
      refine ⟨replaying.agrees.save_without replaying.gone, le_rfl, fun report ok none_ => ?_⟩
      cases ok
      exact ⟨all (whole none_), .inl rfl⟩

theorem load_safe :
    Safe (Durable next) store.load.run
      (fun loaded world => Durable next world ∧ ∀ journal, loaded = .ok journal → journal = world.disk)
      (Durable next) := by
  apply safe_act fun world durable => durable
  intro fate world durable
  cases fate with
  | failed => exact ⟨durable, nofun⟩
  | done | present =>
    refine ⟨durable, fun journal loaded => ?_⟩
    rw [durable.load] at loaded
    exact (Except.ok.inj loaded).symm

theorem recoverAtStart_safe :
    Safe (Durable next) (recoverAtStart ops)
      (fun done world => Durable next world ∧ ∀ recovered, done = .ok recovered →
        Agrees recovered.undo world ∧ next ≤ recovered.undo.nextId ∧ world.live = [] ∧
          world.disk.entries = [])
      (Durable next) := by
  have reaps : Safe (Durable next) ops.reapOrphanCores.run (fun _ world => Durable next world)
      (Durable next) := by
    apply safe_act fun world durable => durable
    intro fate world durable
    cases fate with
    | failed | done | present => exact durable
  refine Safe.bind reaps fun reaped => ?_
  cases reaped with
  | error => exact safe_pure fun world durable => ⟨durable, nofun⟩
  | ok =>
    refine Safe.bind load_safe fun loaded => ?_
    cases loaded with
    | error => exact safe_pure fun world holds => ⟨holds.1, nofun⟩
    | ok undo =>
      apply safe_from
      rintro start ⟨durable, same⟩
      obtain rfl := same undo rfl
      refine Safe.bind ((replay_safe start.stored durable.next_le).given ?_) fun replayed => ?_
      · rintro _ rfl
        exact ⟨durable.agrees, rfl, nofun⟩
      obtain ⟨result, undo⟩ := replayed
      cases result with
      | error =>
        refine safe_pure fun world holds => ⟨holds.1.durable ?_, nofun⟩
        exact durable.next_le.trans holds.2.1
      | ok report =>
        obtain ⟨restored, failed⟩ := report
        cases failed with
        | cons =>
          refine safe_pure fun world holds => ⟨holds.1.durable ?_, nofun⟩
          exact durable.next_le.trans holds.2.1
        | nil =>
          refine safe_pure fun world holds => ?_
          obtain ⟨agrees, later, whole⟩ := holds
          have le := durable.next_le.trans later
          refine ⟨agrees.durable le, fun recovered is => ?_⟩
          cases is
          obtain ⟨empty, written⟩ := whole _ rfl rfl
          have disk : world.disk = undo := by
            rcases written with same | ⟨rfl, same⟩
            · exact same
            · rw [World.disk, same]
              rfl
          refine ⟨agrees, le, ?_, disk ▸ empty⟩
          rw [List.eq_nil_iff_forall_not_mem]
          intro entry member
          have kept := agrees.live entry member
          rw [empty] at kept
          cases kept

end Operations

/-- What holds of the system between two operations, and of the world a killed process left. -/
structure System.Sound (system : System) : Prop where
  world : ∃ next, Durable next system.world ∧ ∀ id ∈ system.returned, id < next
  registry : ∀ journal ∈ system.registry, Agrees journal system.world ∧
    ∀ id ∈ system.returned, id < journal.nextId
  returned : system.returned.Pairwise (· > ·)

section Steps

variable {system after : System}

theorem sound_of_agrees {journal : UndoJournal} {world : World} {returned : List UndoId}
    (agrees : Agrees journal world) (below : ∀ id ∈ returned, id < journal.nextId)
    (increasing : returned.Pairwise (· > ·)) : System.Sound ⟨world, some journal, returned⟩ where
  world := ⟨journal.nextId, agrees.durable le_rfl, below⟩
  registry := by
    intro other up
    cases up
    exact ⟨agrees, below⟩
  returned := increasing

variable (sound : system.Sound)

include sound

theorem System.Sound.killed {next : Nat} {world : World} (durable : Durable next world)
    (below : ∀ id ∈ system.returned, id < next) :
    System.Sound ⟨world, none, system.returned⟩ :=
  ⟨⟨next, durable, below⟩, nofun, sound.returned⟩

theorem System.Sound.runs {Value : Type} {pre : World → Prop} {program : Mortal Fate World Value}
    {post : Value → World → Prop} {next : Nat} (safe : Safe pre program post (Durable next))
    (starts : pre system.world) (below : ∀ id ∈ system.returned, id < next)
    (keep : Value → Option UndoJournal × List UndoId)
    (returns : ∀ value world, post value world → System.Sound ⟨world, (keep value).1, (keep value).2⟩)
    (fates : List Fate) :
    (system.after (program fates system.world) keep).Sound := by
  have reached := safe fates system.world starts
  generalize program fates system.world = done at reached
  obtain ⟨returned, world⟩ := done
  cases returned with
  | none => exact sound.killed reached below
  | some returned => exact returns returned.1 world reached

variable {fates : List Fate}

theorem opens_sound (steps : system.Steps (.opens fates) after) :
    after.Sound := by
  obtain ⟨next, durable, below⟩ := sound.world
  cases steps
  refine sound.runs load_safe durable below _ (fun loaded world holds => ?_) fates
  cases loaded with
  | error => exact sound.killed holds.1 below
  | ok journal =>
    obtain rfl := holds.2 journal rfl
    exact sound_of_agrees holds.1.agrees
      (fun id member => (below id member).trans_le holds.1.next_le) sound.returned

theorem applies_sound {record : UndoRecord} (steps : system.Steps (.applies record fates) after) :
    after.Sound := by
  obtain ⟨journal, up, rfl⟩ := Option.map_eq_some_iff.mp steps
  obtain ⟨agrees, below⟩ := sound.registry journal up
  refine sound.runs (apply_safe record le_rfl) agrees below _ (fun done world holds => ?_) fates
  obtain ⟨result, journal'⟩ := done
  obtain ⟨agrees', later, fresh⟩ := holds
  have belowLater (id : UndoId) (member : id ∈ system.returned) : id < journal'.nextId :=
    (below id member).trans_le later
  have kept : System.Sound ⟨world, some journal', system.returned⟩ :=
    sound_of_agrees agrees' belowLater sound.returned
  cases result with
  | error => exact kept
  | ok given =>
    cases given with
    | none => exact kept
    | some id =>
      obtain ⟨le, lt⟩ := fresh id rfl
      refine sound_of_agrees agrees' (List.forall_mem_cons.mpr ⟨lt, belowLater⟩) ?_
      refine List.pairwise_cons.mpr ⟨fun old member => ?_, sound.returned⟩
      exact (below old member).trans_le le

theorem undoes_sound {id : UndoId} (steps : system.Steps (.undoes id fates) after) : after.Sound := by
  obtain ⟨journal, up, rfl⟩ := Option.map_eq_some_iff.mp steps
  obtain ⟨agrees, below⟩ := sound.registry journal up
  refine sound.runs (undo_safe id le_rfl) agrees below _ (fun done world holds => ?_) fates
  exact sound_of_agrees holds.1 (fun id member => (below id member).trans_le holds.2) sound.returned

theorem replays_sound (steps : system.Steps (.replays fates) after) :
    after.Sound := by
  obtain ⟨journal, up, rfl⟩ := Option.map_eq_some_iff.mp steps
  obtain ⟨agrees, below⟩ := sound.registry journal up
  refine sound.runs (replay_safe system.world.stored le_rfl) ⟨agrees, rfl, nofun⟩ below _
    (fun done world holds => ?_) fates
  exact sound_of_agrees holds.1 (fun id member => (below id member).trans_le holds.2.1)
    sound.returned

theorem recovers_sound {ok : Bool} (steps : system.Steps (.recovers fates ok) after) : after.Sound := by
  obtain ⟨next, durable, below⟩ := sound.world
  rw [System.Steps, System.next] at steps
  split at steps
  next =>
      cases steps
      refine sound.runs recoverAtStart_safe durable below _ (fun done world holds => ?_) fates
      cases done with
      | error => exact sound.killed holds.1 below
      | ok recovered =>
        obtain ⟨agrees, later, _⟩ := holds.2 recovered rfl
        exact sound_of_agrees agrees (fun id member => (below id member).trans_le later)
          sound.returned
  next => cases steps

theorem recovers_clean (steps : system.Steps (.recovers fates true) after) :
    after.world.live = [] ∧ after.world.disk.entries = [] := by
  obtain ⟨next, durable, below⟩ := sound.world
  rw [System.Steps, System.next] at steps
  split at steps
  next ok =>
      have reached := recoverAtStart_safe fates system.world durable
      generalize recoverAtStart ops fates system.world = done at reached ok steps
      cases steps
      obtain ⟨returned, world⟩ := done
      cases returned with
      | none => cases ok
      | some returned =>
        obtain ⟨result, left⟩ := returned
        cases result with
        | error => cases ok
        | ok recovered => exact (reached.2 recovered rfl).2.2
  next => cases steps

theorem step_sound {operation : Operation} (steps : system.Steps operation after) : after.Sound := by
  cases operation with
  | opens => exact opens_sound sound steps
  | applies => exact applies_sound sound steps
  | undoes => exact undoes_sound sound steps
  | replays => exact replays_sound sound steps
  | recovers => exact recovers_sound sound steps
  | killed =>
    obtain ⟨next, durable, below⟩ := sound.world
    cases steps
    exact sound.killed durable below

end Steps

theorem sound_new {stored : Option UndoJournal} (trusted : ∀ journal ∈ stored, journal.check = .ok ()) :
    (System.new stored).Sound where
  world := by
    refine ⟨0, ⟨?_, Nat.zero_le _, nofun, nofun⟩, nofun⟩
    cases stored with
    | none => exact trusted_default
    | some journal => exact check_iff.mp (trusted journal rfl)
  registry := nofun
  returned := List.Pairwise.nil

section Traces

def exampleRoute : UndoRecord :=
  .hostRoute 17 (.v4 (.ofOctets 203 0 113 10)) (.v4 (.ofOctets 192 168 1 1))

/-- A route is applied and the process killed between the save and the mutation of another; the
next start reverses both. -/
def restarted : System × List (Taken System Operation) :=
  follow System.next (.new none)
    [.recovers [.done, .done] true, .applies exampleRoute [.done, .done],
      .applies exampleRoute [.done], .recovers [.done, .done, .done, .done, .done] true,
      .applies exampleRoute [.done, .done]]

end Traces

end DnetEngine.Netstate
