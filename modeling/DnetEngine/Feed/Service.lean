import DnetEngine.Feed.Authorised
import DnetEngine.Lib.Mortal
import DnetEngine.Lib.Run

/-! The feed inside the service: what was accepted is kept in two files, offered documents are
stored before they take effect, and a start verifies again what the files hold. The files are behind
`StateFile`, in whatever monad their effects live; further down they may fail, and the process may be
killed between any two operations on them. -/

namespace DnetEngine.Feed

open Lib Mortal

/-- Something to tell the person about. -/
inductive FeedNote
  | discarded (document : Document) (reason : String)
  | updated (sequence endpointUpdates : Nat)
  | evicted
  deriving DecidableEq

/-- Why a document was not taken. -/
inductive FeedRefusal
  | rejected (error : FeedError)
  | trialFailed (detail : String)
  | storage (detail : String)
  deriving DecidableEq

structure StateFile (m : Type → Type) where
  read : m (Except String (Option Bytes))
  write : Bytes → m (Except String Unit)
  remove : m (Except String Unit)

structure FeedService (VerifyingKey : Type) where
  state : FeedState VerifyingKey
  definitions : ClientDefinitions := {}
  reportedOutOfDate : Bool := false
  deriving DecidableEq

/-- What the applied feed says, or the defaults if there is none. -/
def definitionsOf {VerifyingKey : Type} (state : FeedState VerifyingKey) : ClientDefinitions :=
  (state.feed.map (fun applied => ClientDefinitions.fromFeed applied.document)).getD {}

section Model

variable {VerifyingKey : Type} [DecidableEq VerifyingKey] {crates : Crates VerifyingKey}

namespace FeedService

/-- Put the client section of the applied feed where the connection code reads it. -/
def publishDefinitions (service : FeedService VerifyingKey) : FeedService VerifyingKey :=
  { service with definitions := definitionsOf service.state }

def commit (service : FeedService VerifyingKey) (state : FeedState VerifyingKey) :
    FeedService VerifyingKey :=
  publishDefinitions { service with state, reportedOutOfDate := false }

variable {m : Type → Type} [Monad m]

/-- The stored bytes of a document, or nothing and a note if they cannot be read. -/
def readOrNote (file : StateFile m) (document : Document) : m (Option Bytes × List FeedNote) := do
  match ← file.read with
  | .ok bytes => pure (bytes, [])
  | .error error =>
    pure (none, [.discarded document ("it could not be read (" ++ error ++ ")")])

def discardNote (display : FeedError → String) (document : Document) (error : Option FeedError) :
    List FeedNote :=
  (error.map (fun error => FeedNote.discarded document (display error))).toList

/-- Read back what was stored, verify it again, and put the result into effect. -/
def start (trust : FeedTrust crates) (display : FeedError → String)
    (keysFile feedFile : StateFile m) : m (FeedService VerifyingKey × List FeedNote) := do
  let (keys, keysNotes) ← readOrNote keysFile .keys
  let (feed, feedNotes) ← readOrNote feedFile .feed
  let restored := restore crates trust keys feed
  let notes := keysNotes ++ feedNotes ++ discardNote display .keys restored.keysDiscarded ++
    discardNote display .feed restored.feedDiscarded
  pure (publishDefinitions { state := restored.state }, notes)

/-- Remove the file of a feed that was dropped; that it cannot be removed is told, and no more. -/
def removeEvicted (feedFile : StateFile m) : m (List FeedNote) := do
  match ← feedFile.remove with
  | .ok () => pure [.evicted]
  | .error error =>
    pure [.evicted, .discarded .feed
      ("the evicted feed's file could not be removed (" ++ error ++ ")")]

/-- Store accepted keys, then put the new state into effect. -/
def storeKeys (service : FeedService VerifyingKey) (keysFile feedFile : StateFile m)
    (envelope : Bytes) (state : FeedState VerifyingKey) (feedEvicted : Bool) :
    m (Except FeedRefusal (List FeedNote) × FeedService VerifyingKey) := do
  match ← keysFile.write envelope with
  | .error error => pure (.error (.storage error), service)
  | .ok () =>
    if feedEvicted then
      let notes ← removeEvicted feedFile
      pure (.ok notes, service.commit state)
    else pure (.ok [], service.commit state)

def offerKeys (service : FeedService VerifyingKey) (trust : FeedTrust crates)
    (keysFile feedFile : StateFile m) (envelope : Bytes) (now : Nat) :
    m (Except FeedRefusal (List FeedNote) × FeedService VerifyingKey) :=
  match acceptKeysDocument crates trust service.state envelope now with
  | .error error => pure (.error (.rejected error), service)
  | .ok .unchanged => pure (.ok [], service)
  | .ok (.accepted state feedEvicted) =>
    service.storeKeys keysFile feedFile envelope state feedEvicted

/-- What is told of a feed that was applied. -/
def updatedNote (document : FeedDocument) : FeedNote :=
  .updated document.sequence (stagedEndpointUpdates document).length

def storeFeed (service : FeedService VerifyingKey) (feedFile : StateFile m) (envelope : Bytes)
    (state : FeedState VerifyingKey) (document : FeedDocument)
    (trial : FeedDocument → Except String Unit) :
    m (Except FeedRefusal (List FeedNote) × FeedService VerifyingKey) :=
  match trial document with
  | .error detail => pure (.error (.trialFailed detail), service)
  | .ok () => do
      match ← feedFile.write envelope with
      | .error error => pure (.error (.storage error), service)
      | .ok () => pure (.ok [updatedNote document], service.commit state)

/-- Offer a feed; `trial` makes a configuration for every profile it covers. -/
def offerFeed (service : FeedService VerifyingKey) (crates : Crates VerifyingKey)
    (feedFile : StateFile m) (envelope : Bytes) (now : Nat)
    (trial : FeedDocument → Except String Unit) :
    m (Except FeedRefusal (List FeedNote) × FeedService VerifyingKey) :=
  match acceptFeed crates service.state envelope now with
  | .error error => pure (.error (.rejected error), service)
  | .ok .unchanged => pure (.ok [], service)
  | .ok (.accepted state) =>
    match state.feed with
    -- An accepted feed is applied, by `acceptFeed_ok`: the source expects it here.
    | none => pure (.ok [], service)
    | some applied => service.storeFeed feedFile envelope state applied.document trial

end FeedService

end Model

structure Files where
  keys : Option Bytes
  feed : Option Bytes
  deriving DecidableEq

/-- What becomes of an operation on a file. One that fails leaves the file as it was. -/
inductive Fate
  | done
  | failed (error : String)
  deriving DecidableEq

def attempt (change : Files → Files) : Mortal Fate Files (Except String Unit) :=
  act fun fate files =>
    match fate with
    | .done => (.ok (), change files)
    | .failed error => (.error error, files)

def keysFile : StateFile (Mortal Fate Files) where
  read := act fun _ files => (.ok files.keys, files)
  write bytes := attempt fun files => { files with keys := some bytes }
  remove := attempt fun files => { files with keys := none }

def feedFile : StateFile (Mortal Fate Files) where
  read := act fun _ files => (.ok files.feed, files)
  write bytes := attempt fun files => { files with feed := some bytes }
  remove := attempt fun files => { files with feed := none }

/-- The files, and the service of the running process. -/
structure System (VerifyingKey : Type) where
  files : Files
  service : Option (FeedService VerifyingKey)
  deriving DecidableEq

/-- What is asked of the service, each with the fates of its operations on the files: where they end
before it does, the process is killed. -/
inductive Operation
  | start (fates : List Fate)
  | offerKeys (envelope : Bytes) (now : Nat) (fates : List Fate)
  | offerFeed (envelope : Bytes) (now : Nat) (trial : FeedDocument → Except String Unit)
      (fates : List Fate)
  | killed

/-- An operation with what it returned, if it did. -/
structure Performed where
  operation : Operation
  answer : Option (Except FeedRefusal (List FeedNote))

section Running

variable {VerifyingKey : Type} [DecidableEq VerifyingKey] {crates : Crates VerifyingKey}
  (trust : FeedTrust crates) (display : FeedError → String)

namespace System

/-- The system after an operation, and what that returned. -/
def ended (done : Option ((Except FeedRefusal (List FeedNote) × FeedService VerifyingKey) ×
    List Fate) × Files) : Option (Except FeedRefusal (List FeedNote)) × System VerifyingKey :=
  match done with
  | (some ((answer, service), _), files) => (some answer, ⟨files, some service⟩)
  | (none, files) => (none, ⟨files, none⟩)

/-- Nothing can be offered where no service runs. -/
def perform (system : System VerifyingKey) :
    Operation → Option (Option (Except FeedRefusal (List FeedNote)) × System VerifyingKey)
  | .start fates =>
    let started : Mortal Fate Files
        (Except FeedRefusal (List FeedNote) × FeedService VerifyingKey) := do
      let (service, notes) ← FeedService.start trust display keysFile feedFile
      pure (.ok notes, service)
    some (ended (started fates system.files))
  | .offerKeys envelope now fates =>
    system.service.map fun service =>
      ended (service.offerKeys trust keysFile feedFile envelope now fates system.files)
  | .offerFeed envelope now trial fates =>
    system.service.map fun service =>
      ended (service.offerFeed crates feedFile envelope now trial fates system.files)
  | .killed => some (none, ⟨system.files, none⟩)

def Steps (system : System VerifyingKey) (performed : Performed) (after : System VerifyingKey) :
    Prop :=
  system.perform trust display performed.operation = some (performed.answer, after)

instance (system after : System VerifyingKey) (performed : Performed) :
    Decidable (system.Steps trust display performed after) :=
  inferInstanceAs (Decidable (_ = _))

end System

/-- What a start from the files would put into effect. -/
def Files.restored (files : Files) : FeedState VerifyingKey :=
  (restore crates trust files.keys files.feed).state

/-- Everything an operation can do. -/
inductive Does (before after : System VerifyingKey) : Performed → Prop
  | started {fates : List Fate} {notes : List FeedNote} (files : after.files = before.files)
      (service : after.service =
        some { state := before.files.restored trust
               definitions := definitionsOf (before.files.restored trust) }) :
      Does before after ⟨.start fates, some (.ok notes)⟩
  | died {operation : Operation} (files : after.files = before.files)
      (gone : after.service = none) : Does before after ⟨operation, none⟩
  | nothing {operation : Operation} {answer : Except FeedRefusal (List FeedNote)}
      (same : after = before) (running : before.service.isSome = true) :
      Does before after ⟨operation, some answer⟩
  | keysStored {envelope : Bytes} {now : Nat} {fates : List Fate}
      {answer : Option (Except FeedRefusal (List FeedNote))} {service : FeedService VerifyingKey}
      {state : FeedState VerifyingKey} {accepted : AcceptedKeys VerifyingKey} {evicted : Bool}
      (running : before.service = some service)
      (accepts : acceptKeysDocument crates trust service.state envelope now =
        .ok (.accepted state evicted))
      (replaced : KeysReplaced crates trust service.state state envelope accepted)
      (keys : after.files.keys = some envelope)
      (feed : after.files.feed = before.files.feed ∨ evicted = true ∧ after.files.feed = none)
      (ends : evicted = true ∧ answer = none ∧ after.service = none ∨
        (∃ notes, answer = some (.ok notes)) ∧ after.service = some (service.commit state)) :
      Does before after ⟨.offerKeys envelope now fates, answer⟩
  | feedStored {envelope : Bytes} {now : Nat} {trial : FeedDocument → Except String Unit}
      {fates : List Fate} {notes : List FeedNote} {service : FeedService VerifyingKey}
      {state : FeedState VerifyingKey} {under : AcceptedKeys VerifyingKey} {applied : AppliedFeed}
      (running : before.service = some service)
      (accepts : acceptFeed crates service.state envelope now = .ok (.accepted state))
      (replaced : FeedReplaced crates service.state state envelope now under applied)
      (files : after.files = { before.files with feed := some envelope })
      (committed : after.service = some (service.commit state)) :
      Does before after ⟨.offerFeed envelope now trial fates, some (.ok notes)⟩

variable {trust display} {before after : System VerifyingKey}

variable {answer : Option (Except FeedRefusal (List FeedNote))}

variable {fates : List Fate}

theorem start_does (steps : before.Steps trust display ⟨.start fates, answer⟩ after) :
    Does trust before after ⟨.start fates, answer⟩ := by
  match fates with
  | [] | [_] =>
    cases steps
    exact .died rfl rfl
  | _ :: _ :: _ =>
    cases steps
    exact .started rfl rfl

theorem offerKeys_does {envelope : Bytes} {now : Nat}
    (steps : before.Steps trust display ⟨.offerKeys envelope now fates, answer⟩ after) :
    Does trust before after ⟨.offerKeys envelope now fates, answer⟩ := by
  obtain ⟨files, running⟩ := before
  cases running with
  | none => cases steps
  | some service =>
    have ends : System.ended (service.offerKeys trust keysFile feedFile envelope now fates files) =
        (answer, after) := Option.some.inj steps
    unfold FeedService.offerKeys at ends
    generalize accepts : acceptKeysDocument crates trust service.state envelope now = outcome
      at ends
    match outcome with
    | .error error | .ok .unchanged =>
      cases ends
      exact .nothing rfl rfl
    | .ok (.accepted state evicted) =>
      obtain ⟨accepted, replaced⟩ := acceptKeysDocument_ok accepts
      -- One case for each point at which the files may fail or the process end.
      match fates, evicted with
      | [], _ =>
        cases ends
        exact .died rfl rfl
      | .failed error :: rest, _ =>
        cases ends
        exact .nothing rfl rfl
      | .done :: rest, false =>
        cases ends
        exact .keysStored rfl accepts replaced rfl (.inl rfl) (.inr ⟨⟨_, rfl⟩, rfl⟩)
      | [.done], true =>
        cases ends
        exact .keysStored rfl accepts replaced rfl (.inl rfl) (.inl ⟨rfl, rfl, rfl⟩)
      | .done :: .failed error :: rest, true =>
        cases ends
        exact .keysStored rfl accepts replaced rfl (.inl rfl) (.inr ⟨⟨_, rfl⟩, rfl⟩)
      | .done :: .done :: rest, true =>
        cases ends
        exact .keysStored rfl accepts replaced rfl (.inr ⟨rfl, rfl⟩) (.inr ⟨⟨_, rfl⟩, rfl⟩)

theorem offerFeed_does {envelope : Bytes} {now : Nat} {trial : FeedDocument → Except String Unit}
    (steps : before.Steps trust display ⟨.offerFeed envelope now trial fates, answer⟩ after) :
    Does trust before after ⟨.offerFeed envelope now trial fates, answer⟩ := by
  obtain ⟨files, running⟩ := before
  cases running with
  | none => cases steps
  | some service =>
    have ends : System.ended (service.offerFeed crates feedFile envelope now trial fates files) =
        (answer, after) := Option.some.inj steps
    unfold FeedService.offerFeed at ends
    generalize accepts : acceptFeed crates service.state envelope now = outcome at ends
    match outcome with
    | .error error | .ok .unchanged =>
      cases ends
      exact .nothing rfl rfl
    | .ok (.accepted state) =>
      obtain ⟨under, applied, replaced⟩ := acceptFeed_ok accepts
      dsimp only at ends
      rw [replaced.feed] at ends
      dsimp only [FeedService.storeFeed] at ends
      generalize trial applied.document = tried at ends
      match tried, fates with
      | .error detail, _ | .ok (), .failed _ :: _ =>
        cases ends
        exact .nothing rfl rfl
      | .ok (), [] =>
        cases ends
        exact .died rfl rfl
      | .ok (), .done :: rest =>
        cases ends
        exact .feedStored rfl accepts replaced rfl rfl

theorem steps_does {performed : Performed} (steps : before.Steps trust display performed after) :
    Does trust before after performed := by
  obtain ⟨operation, answer⟩ := performed
  cases operation with
  | start => exact start_does steps
  | offerKeys => exact offerKeys_does steps
  | offerFeed => exact offerFeed_does steps
  | killed =>
    cases steps
    exact .died rfl rfl

end Running

end DnetEngine.Feed
