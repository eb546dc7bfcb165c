import DnetEngine.Config.StoredCredentials
import DnetEngine.Core.Stored
import DnetEngine.Lib.Run

/-! The secret store: an endpoint's credentials sealed under a key of their own, and kept by name. -/

namespace DnetEngine

open Lib

structure SecretKey where
  name : String
  deriving DecidableEq

namespace SecretKey

def forEndpoint (id : EndpointId) : SecretKey := ⟨"endpoint-" ++ id.display⟩

def credentialRef (key : SecretKey) : CredentialRef := ⟨key.name⟩

/-- A reference as a key, or the text of the reason why it is none. -/
def parse (reference : CredentialRef) : Except String SecretKey :=
  let invalid (reason : String) : Except String SecretKey :=
    .error ("the credential reference is not a valid secret-store key: " ++ reason)
  let key := reference.storeKey
  if key.isEmpty then invalid "it is empty"
  else if 80 < key.utf8ByteSize then invalid "it is longer than 80 characters"
  else if !key.toList.all (fun c => c.isLower || c.isDigit || c == '-') then
    invalid "it may contain only a-z, 0-9 and '-'"
  else if key.toList.head? = some '-' ∨ key.toList.getLast? = some '-' then
    invalid "it may not start or end with '-'"
  else .ok ⟨key⟩

def blobName (key : SecretKey) : String := "secret-" ++ key.name ++ ".bin"

/-- What a blob is bound to, so that it opens under its own key only. -/
def sealContext (key : SecretKey) : String := "dnet-engine/secret/v1/" ++ key.name

theorem blobName_inj {key other : SecretKey} (same : key.blobName = other.blobName) :
    key = other := by
  obtain ⟨name⟩ := key
  have chars := congrArg String.toList same
  simp only [blobName, String.toList_append, List.append_cancel_left_eq,
    List.append_cancel_right_eq] at chars
  rw [String.toList_inj.mp chars]

end SecretKey

inductive SecretStoreError
  | empty
  | credentials (error : CredentialsError)
  | sealing (key reason : String)
  | storage (key reason : String)
  deriving DecidableEq

/-- What protects bytes, bound to a context. Sealing the same bytes again may give something else, by
what is drawn for it. What was sealed is unsealed under the same context. -/
structure Sealer (Text Sealed : Type) where
  sealText : (draw : Nat) → Text → (context : String) → Except String Sealed
  unsealText : Sealed → (context : String) → Except String Text
  unsealText_sealText : ∀ draw text context sealed,
    sealText draw text context = .ok sealed → unsealText sealed context = .ok text

/-- What holds sealed bytes by name. What was written is read, and what is done under one name, also if
it fails, leaves the others as they were. -/
structure BlobStorage (Sealed : Type) where
  Blobs : Type
  read : Blobs → String → Except String (Option Sealed)
  write : Blobs → String → Sealed → Except String Unit × Blobs
  remove : Blobs → String → Except String Bool × Blobs
  read_write : ∀ blobs name sealed after,
    write blobs name sealed = (.ok (), after) → read after name = .ok (some sealed)
  read_write_other : ∀ blobs name sealed other,
    other ≠ name → read (write blobs name sealed).2 other = read blobs other
  read_remove_other : ∀ blobs name other,
    other ≠ name → read (remove blobs name).2 other = read blobs other

structure SealedSecretStore (Text Sealed : Type) where
  serde : SerdeJson Text
  sealer : Sealer Text Sealed
  storage : BlobStorage Sealed

inductive StoreOperation
  | put (draw : Nat) (key : SecretKey) (credentials : EndpointCredentials)
  | get (key : SecretKey)
  | delete (key : SecretKey)

def StoreOperation.concerns (key : SecretKey) : StoreOperation → Prop
  | .put _ other _ | .delete other => other = key
  | .get _ => False

namespace SealedSecretStore

variable {Text Sealed : Type} (store : SealedSecretStore Text Sealed)

def put (blobs : store.storage.Blobs) (draw : Nat) (key : SecretKey)
    (credentials : EndpointCredentials) : Except SecretStoreError Unit × store.storage.Blobs :=
  if credentials.isEmpty then (.error .empty, blobs)
  else
    match credentials.toPlaintextJson store.serde with
    | .error error => (.error (.credentials error), blobs)
    | .ok plaintext =>
      match store.sealer.sealText draw plaintext key.sealContext with
      | .error reason => (.error (.sealing key.name reason), blobs)
      | .ok sealed =>
        match store.storage.write blobs key.blobName sealed with
        | (.error reason, after) => (.error (.storage key.name reason), after)
        | (.ok (), after) => (.ok (), after)

def get (blobs : store.storage.Blobs) (key : SecretKey) :
    Except SecretStoreError (Option EndpointCredentials) := do
  let found ← (store.storage.read blobs key.blobName).mapError (.storage key.name)
  match found with
  | none => return none
  | some sealed =>
    let plaintext ← (store.sealer.unsealText sealed key.sealContext).mapError (.sealing key.name)
    let decoded ← (EndpointCredentials.fromPlaintextJson store.serde plaintext).mapError .credentials
    return some decoded

def delete (blobs : store.storage.Blobs) (key : SecretKey) :
    Except SecretStoreError Bool × store.storage.Blobs :=
  match store.storage.remove blobs key.blobName with
  | (.error reason, after) => (.error (.storage key.name reason), after)
  | (.ok found, after) => (.ok found, after)

def after (blobs : store.storage.Blobs) : StoreOperation → store.storage.Blobs
  | .put draw key credentials => (store.put blobs draw key credentials).2
  | .get _ => blobs
  | .delete key => (store.delete blobs key).2

abbrev Operates := Run (fun blobs operation after => store.after blobs operation = after)

variable {store} {blobs : store.storage.Blobs} {key : SecretKey}

variable {draw : Nat} {credentials : EndpointCredentials}

theorem put_ok {after : store.storage.Blobs}
    (done : store.put blobs draw key credentials = (.ok (), after)) :
    ∃ plaintext sealed, credentials.toPlaintextJson store.serde = .ok plaintext ∧
      store.sealer.sealText draw plaintext key.sealContext = .ok sealed ∧
      store.storage.write blobs key.blobName sealed = (.ok (), after) := by
  unfold put at done
  split at done
  · cases done
  · split at done
    · cases done
    next plaintext stored =>
      split at done
      · cases done
      next sealed done_ =>
        split at done
        · cases done
        next written =>
          cases done
          exact ⟨plaintext, sealed, stored, done_, written⟩

theorem read_put {changed : SecretKey} {name : String} (other : name ≠ changed.blobName) :
    store.storage.read (store.put blobs draw changed credentials).2 name =
      store.storage.read blobs name := by
  unfold put
  split
  · rfl
  · split
    · rfl
    · split
      · rfl
      next sealed _ =>
        have kept := store.storage.read_write_other blobs changed.blobName sealed name other
        split
        next written =>
          rw [written] at kept
          exact kept
        next written =>
          rw [written] at kept
          exact kept

theorem read_delete {deleted : SecretKey} {name : String} (other : name ≠ deleted.blobName) :
    store.storage.read (store.delete blobs deleted).2 name = store.storage.read blobs name := by
  have kept := store.storage.read_remove_other blobs deleted.blobName name other
  unfold delete
  split
  next removed =>
    rw [removed] at kept
    exact kept
  next removed =>
    rw [removed] at kept
    exact kept

theorem read_operates {history : List (Taken store.storage.Blobs StoreOperation)}
    {last : store.storage.Blobs} (operates : store.Operates blobs history last)
    (others : ∀ taken ∈ history, ¬ taken.label.concerns key) :
    store.storage.read last key.blobName = store.storage.read blobs key.blobName := by
  induction operates with
  | start => rfl
  | @next _ _ _ operation _ taken ih =>
    have before := ih fun taken member => others taken (List.mem_cons_of_mem _ member)
    have other : ¬ operation.concerns key := others _ List.mem_cons_self
    rw [← before, ← taken]
    cases operation with
    | get => rfl
    | delete => exact read_delete fun same => other (SecretKey.blobName_inj same).symm
    | put => exact read_put fun same => other (SecretKey.blobName_inj same).symm

theorem get_of_read {plaintext : Text} {sealed : Sealed}
    (sealedAs : store.sealer.sealText draw plaintext key.sealContext = .ok sealed)
    (read : store.storage.read blobs key.blobName = .ok (some sealed)) :
    store.get blobs key =
      ((EndpointCredentials.fromPlaintextJson store.serde plaintext).mapError .credentials).map some := by
  have unsealed := store.sealer.unsealText_sealText draw plaintext key.sealContext sealed sealedAs
  unfold get
  rw [read]
  simp only [Except.mapError, bind, Except.bind, unsealed]
  cases EndpointCredentials.fromPlaintextJson store.serde plaintext <;> rfl

end SealedSecretStore

/-- What can be printed is read back exactly when it is not larger than what is read, and so it is with
what was put in the store, until something is put or deleted under the same key. -/
theorem stored_credentials_read_back {Text Sealed : Type} (store : SealedSecretStore Text Sealed) :
    (∀ credentials text, EndpointCredentials.toPlaintextJson store.serde credentials = .ok text →
      (EndpointCredentials.fromPlaintextJson store.serde text = .ok credentials ↔
        store.serde.len text ≤ maxStoredLen)) ∧
      (∀ blobs draw key credentials after,
        store.put blobs draw key credentials = (.ok (), after) →
        ∃ text, EndpointCredentials.toPlaintextJson store.serde credentials = .ok text ∧
          ∀ history last, store.Operates after history last →
            (∀ taken ∈ history, ¬ taken.label.concerns key) →
            (store.get last key = .ok (some credentials) ↔ store.serde.len text ≤ maxStoredLen)) := by
  have readBack (credentials : EndpointCredentials) (text : Text)
      (stored : credentials.toPlaintextJson store.serde = .ok text) :
      EndpointCredentials.fromPlaintextJson store.serde text = .ok credentials ↔
        store.serde.len text ≤ maxStoredLen := by
    rw [EndpointCredentials.fromPlaintextJson_toPlaintextJson stored]
    split
    next large => simp [Nat.not_le.mpr large]
    next small => simp [Nat.le_of_not_lt small]
  refine ⟨readBack, fun blobs draw key credentials after done => ?_⟩
  obtain ⟨text, sealed, stored, sealedAs, written⟩ := SealedSecretStore.put_ok done
  refine ⟨text, stored, fun history last operates others => ?_⟩
  have read := store.storage.read_write blobs key.blobName sealed after written
  rw [← SealedSecretStore.read_operates operates others] at read
  rw [SealedSecretStore.get_of_read sealedAs read, ← readBack credentials text stored]
  cases EndpointCredentials.fromPlaintextJson store.serde text with
  | error | ok => simp [Except.mapError, Except.map]

section TooLarge

def longPassword (length : Nat) : Hysteria2Bundle where
  serverPort := 443
  authPassword := ⟨String.ofList (List.replicate length 'a')⟩
  obfsPassword := ⟨"b"⟩
  obfs := .salamander
  trust := .publicCa "vpn.example.net"

theorem longPassword_valid (length : Nat) :
    EndpointCredentials.validate { hysteria2 := some (longPassword (length + 1)) } = .ok () := by
  have differs : ("b" == String.ofList (List.replicate (length + 1) 'a')) = false := by
    apply beq_false_of_ne
    intro same
    have letters := congrArg String.toList same
    simp [List.replicate_succ] at letters
  have named : isDnsHostname "vpn.example.net" = true := by decide +kernel
  have valid : (longPassword (length + 1)).validate = .ok () := by
    simp [Hysteria2Bundle.validate, longPassword, ServerTrust.serverName, differs, named]
  simp only [EndpointCredentials.validate, validateSection, valid]
  rfl

theorem longPassword_long (length : Nat) :
    length ≤
      (EndpointCredentials.toWire { hysteria2 := some (longPassword length) }).print.textLength := by
  have letters : (Json.string (String.ofList (List.replicate length 'a'))).textLength =
      2 + length := by
    simp [Json.textLength, Json.stringLength, Json.charLength, Char.utf8Size]
  calc
    length ≤ 2 + length := Nat.le_add_left length 2
    _ = (Json.string (longPassword length).authPassword.material).textLength := letters.symm
    _ ≤ (longPassword length).toWire.print.textLength := by
      apply Json.textLength_le_of_mem
      exact List.mem_cons_of_mem _ List.mem_cons_self
    _ ≤ _ := by
      apply Json.textLength_le_of_mem
      exact List.mem_cons_of_mem _ List.mem_cons_self

/-- A bundle that is stored and can then not be read. -/
theorem stored_credentials_lost :
    ∃ text, EndpointCredentials.toPlaintextJson SerdeJson.trees
        { hysteria2 := some (longPassword 17000) } = .ok text ∧
      EndpointCredentials.fromPlaintextJson SerdeJson.trees text = .error .tooLarge := by
  have stored : EndpointCredentials.toPlaintextJson SerdeJson.trees
      { hysteria2 := some (longPassword 17000) } =
        .ok (EndpointCredentials.toWire { hysteria2 := some (longPassword 17000) }).print := by
    rw [EndpointCredentials.toPlaintextJson, longPassword_valid 16999]
    rfl
  have large := calc
    maxStoredLen < 17000 := by decide
    _ ≤ _ := longPassword_long 17000
  refine ⟨_, stored, ?_⟩
  exact if_pos large

end TooLarge

end DnetEngine
