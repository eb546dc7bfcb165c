import DnetEngine.Netstate.HostRoute

/-! The undo registry. A mutation of the machine's routing is recorded durably before it is applied,
and the records are reversed on teardown and at the next start. The store, the executor and the
mutations are effects in whatever monad they live; the journal the registry holds in memory is
passed from call to call. -/

namespace DnetEngine

namespace Lib.IpAddr

def isUnspecified : IpAddr → Bool
  | .v4 addr => addr.groups.all (· == 0)
  | .v6 addr => addr.groups.all (· == 0)

def isIpv4 : IpAddr → Bool
  | .v4 _ => true
  | .v6 _ => false

end Lib.IpAddr

namespace Netstate

open Lib

/-- The text of an error. -/
def NetstateError.display : NetstateError → String
  | .operation detail => "network-state operation failed: " ++ detail
  | .journal detail => "undo journal: " ++ detail

def journalVersion : Nat := 1

abbrev UndoId := Nat

inductive UndoRecord
  | hostRoute (interfaceLuid : UInt64) (destination nextHop : IpAddr)
  deriving DecidableEq

def UndoRecord.validate : UndoRecord → Except NetstateError Unit
  | .hostRoute interfaceLuid destination nextHop =>
    let invalid (why : String) : Except NetstateError Unit :=
      .error (.journal ("invalid host route: " ++ why))
    if interfaceLuid = 0 then invalid "no interface"
    else if destination.isUnspecified || nextHop.isUnspecified then invalid "unspecified address"
    else if destination.isIpv4 ≠ nextHop.isIpv4 then
      invalid "destination and next hop differ in address family"
    else .ok ()

structure UndoEntry where
  id : UndoId
  record : UndoRecord
  deriving DecidableEq

structure UndoJournal where
  version : Nat
  nextId : Nat
  entries : List UndoEntry
  deriving DecidableEq

namespace UndoJournal

def default : UndoJournal := ⟨journalVersion, 1, []⟩

/-- The checks of the entries, in their order; `seen` are the ids of the entries before. -/
def checkEntries (nextId : Nat) : List UndoId → List UndoEntry → Except NetstateError Unit
  | _, [] => .ok ()
  | seen, entry :: rest =>
    match entry.record.validate with
    | .error error => .error error
    | .ok () =>
      if entry.id ∈ seen then .error (.journal ("duplicate id " ++ toString entry.id))
      else if entry.id ≥ nextId then
        .error (.journal ("id " ++ toString entry.id ++ " is not below the next id " ++
          toString nextId))
      else checkEntries nextId (entry.id :: seen) rest

/-- The checks of `from_json` on a journal that could be read. -/
def check (journal : UndoJournal) : Except NetstateError Unit :=
  if journal.version ≠ journalVersion then
    .error (.journal ("unsupported version " ++ toString journal.version))
  else checkEntries journal.nextId [] journal.entries

def without (journal : UndoJournal) (ids : List UndoId) : UndoJournal :=
  { journal with entries := journal.entries.filter fun entry => !ids.contains entry.id }

end UndoJournal

inductive Mutation
  | applied
  | alreadyPresent
  deriving DecidableEq

structure UndoStore (m : Type → Type) where
  load : ExceptT NetstateError m UndoJournal
  save : UndoJournal → ExceptT NetstateError m Unit

/-- It is told the whole entry, so that it can be said which mutation it reverses; the source gives
it the record only. -/
structure UndoExecutor (m : Type → Type) where
  reverse : UndoEntry → ExceptT NetstateError m Unit

structure ReplayReport where
  restored : Nat
  failed : List (UndoId × NetstateError)
  deriving DecidableEq

section Registry

variable {m : Type → Type} [Monad m] (store : UndoStore m) (executor : UndoExecutor m)
  (journal : UndoJournal)

def UndoJournal.register (journal : UndoJournal) (record : UndoRecord) : UndoJournal :=
  ⟨journal.version, journal.nextId + 1, journal.entries ++ [⟨journal.nextId, record⟩]⟩

/-- The mutation is told its id for the same reason as the executor. A withdrawal that cannot be
written is dropped from memory all the same. -/
def apply (record : UndoRecord) (mutation : UndoId → ExceptT NetstateError m Mutation) :
    m (Except NetstateError (Option UndoId) × UndoJournal) :=
  match record.validate with
  | .error error => pure (.error error, journal)
  | .ok () => do
      let id := journal.nextId
      let registered := journal.register record
      match ← (store.save registered).run with
      | .error error => pure (.error error, journal)
      | .ok () =>
        let outcome ← (mutation id).run
        if outcome matches .ok .applied then
          pure (.ok (some id), registered)
        else
          let withdrawn := registered.without [id]
          let _ ← (store.save withdrawn).run
          pure (outcome.map fun _ => none, withdrawn)

def undo (id : UndoId) : m (Except NetstateError Unit × UndoJournal) :=
  match journal.entries.find? (·.id = id) with
  | none => pure (.error (.journal ("no outstanding record " ++ toString id)), journal)
  | some entry => do
      match ← (executor.reverse entry).run with
      | .error error => pure (.error error, journal)
      | .ok () =>
        let remaining := journal.without [id]
        match ← (store.save remaining).run with
        | .error error => pure (.error error, journal)
        | .ok () => pure (.ok (), remaining)

/-- The reversals one after another: which succeeded, and which failed. -/
def reverseAll : List UndoEntry → m (List UndoId × List (UndoId × NetstateError))
  | [] => pure ([], [])
  | entry :: rest => do
      let outcome ← (executor.reverse entry).run
      let (restored, failed) ← reverseAll rest
      match outcome with
      | .ok () => pure (entry.id :: restored, failed)
      | .error error => pure (restored, (entry.id, error) :: failed)

def replay : m (Except NetstateError ReplayReport × UndoJournal) := do
  let (restored, failed) ← reverseAll executor journal.entries.reverse
  let report : ReplayReport := ⟨restored.length, failed⟩
  if restored.isEmpty then
    pure (.ok report, journal)
  else
    let remaining := journal.without restored
    match ← (store.save remaining).run with
    | .error error => pure (.error error, journal)
    | .ok () => pure (.ok report, remaining)

end Registry

inductive RecoveryError
  | orphanCores (detail : String)
  | journalUnusable (detail : String)
  | unrestored (remaining : Nat) (first : String)
  deriving DecidableEq

structure Recovered where
  undo : UndoJournal
  reaped : Nat
  restored : Nat
  deriving DecidableEq

structure RecoveryOps (m : Type → Type) where
  reapOrphanCores : ExceptT String m Nat
  store : UndoStore m
  executor : UndoExecutor m

def recoverAtStart {m : Type → Type} [Monad m] (ops : RecoveryOps m) :
    m (Except RecoveryError Recovered) := do
  match ← ops.reapOrphanCores.run with
  | .error detail => pure (.error (.orphanCores detail))
  | .ok reaped =>
    match ← ops.store.load.run with
    | .error error => pure (.error (.journalUnusable error.display))
    | .ok undo =>
      match ← replay ops.store ops.executor undo with
      | (.error error, _) => pure (.error (.journalUnusable error.display))
      | (.ok report, undo) =>
        match report.failed with
        | (_, first) :: _ =>
          pure (.error (.unrestored report.failed.length first.display))
        | [] => pure (.ok ⟨undo, reaped, report.restored⟩)

end Netstate

end DnetEngine
