import DnetEngine.Lib.Fallible
import DnetEngine.Lib.SortFind
import Mathlib.Data.String.Basic

/-! The ledger of what a provisioning job has created: its events, and the entries that result from
them. -/

namespace DnetEngine.Provision

open Lib

inductive ResourceKind
  /-- The virtual machine. -/
  | machine
  | networkRule
  deriving DecidableEq

def ResourceKind.asStr : ResourceKind → String
  | .machine => "instance"
  | .networkRule => "network-rule"

def ResourceKind.fromName : String → Option ResourceKind
  | "instance" => some .machine
  | "network-rule" => some .networkRule
  | _ => none

/-- Where in its life a recorded resource is. -/
inductive EntryState
  | intended
  | created
  | removed
  deriving DecidableEq

structure LedgerEntry where
  kind : ResourceKind
  token : String
  region : String
  providerId : Option String
  state : EntryState
  deriving DecidableEq

inductive LedgerError
  | write (text : String)
  | corrupt (line : Nat)
  | unknown
  deriving DecidableEq

/-- A name for a resource: what the job makes up, what the provider stores. -/
def validToken (token : String) : Bool :=
  decide (1 ≤ token.utf8ByteSize ∧ token.utf8ByteSize ≤ 80) &&
    token.toList.all (fun c => c.isLower || c.isDigit || c == '-')

inductive Event
  | intent (kind : ResourceKind) (token region : String)
  | created (token providerId : String)
  | removed (token : String)
  deriving DecidableEq

def Event.token : Event → String
  | .intent _ token _ => token
  | .created token _ => token
  | .removed token => token

abbrev Entries := List LedgerEntry

def tokens (entries : Entries) : List String := entries.map LedgerEntry.token

/-- Whether an event makes sense now. -/
def check (entries : Entries) : Event → Except LedgerError Unit
  | .intent _ token _ =>
    if validToken token then .ok () else .error (.write "not a valid resource name")
  | .created token _ | .removed token =>
    if entries.any (fun entry => entry.token == token) then .ok () else .error .unknown

def apply (entries : Entries) : Event → Entries
  | .intent kind token region =>
    -- The same intent twice is the same resource.
    if entries.any (fun entry => entry.token == token) then entries
    else entries ++ [⟨kind, token, region, none, .intended⟩]
  | .created token providerId =>
    updateFirst (fun entry => entry.token == token)
      (fun entry =>
        if entry.state = .removed then entry
        else { entry with providerId := some providerId, state := .created }) entries
  | .removed token =>
    updateFirst (fun entry => entry.token == token)
      (fun entry => { entry with state := .removed }) entries

variable {entries : Entries} {token : String}

theorem any_token :
    entries.any (fun entry => entry.token == token) = true ↔ token ∈ tokens entries := by
  simp [tokens]

theorem tokens_updateFirst (selected : LedgerEntry → Bool) (change : LedgerEntry → LedgerEntry)
    (kept : ∀ entry, (change entry).token = entry.token) (entries : Entries) :
    tokens (updateFirst selected change entries) = tokens entries :=
  map_updateFirst selected change LedgerEntry.token kept entries

/-- No event takes an entry away, and only an intent brings one. -/
theorem tokens_apply (entries : Entries) (event : Event) :
    tokens (apply entries event) = match event with
      | .intent _ token _ =>
        if token ∈ tokens entries then tokens entries else tokens entries ++ [token]
      | .created _ _ | .removed _ => tokens entries := by
  cases event with
  | intent =>
    simp only [apply, any_token]
    split <;> simp [tokens]
  | created =>
    apply tokens_updateFirst
    intro entry
    split <;> rfl
  | removed =>
    apply tokens_updateFirst
    exact fun _ => rfl

theorem distinct_apply (distinct : (tokens entries).Nodup) (event : Event) :
    (tokens (apply entries event)).Nodup := by
  rw [tokens_apply]
  cases event with
  | intent =>
    dsimp only
    split
    · exact distinct
    next absent => exact List.concat_eq_append ▸ distinct.concat absent
  | created | removed => exact distinct

theorem mem_tokens_apply {event : Event} :
    token ∈ tokens (apply entries event) ↔
      token ∈ tokens entries ∨ ∃ kind region, event = .intent kind token region := by
  rw [tokens_apply]
  cases event with
  | intent =>
    dsimp only
    split
    next found =>
      refine ⟨.inl, ?_⟩
      rintro (old | ⟨_, _, ⟨⟩⟩)
      · exact old
      · exact found
    next => simp [eq_comm]
  | created | removed => simp

theorem apply_created (distinct : (tokens entries).Nodup) (token providerId : String) :
    apply entries (.created token providerId) = entries.map (fun entry =>
      if entry.token = token then
        if entry.state = .removed then entry
        else { entry with providerId := some providerId, state := .created }
      else entry) :=
  updateFirst_eq_map LedgerEntry.token token _ entries distinct

theorem apply_removed (distinct : (tokens entries).Nodup) (token : String) :
    apply entries (.removed token) = entries.map (fun entry =>
      if entry.token = token then { entry with state := .removed } else entry) :=
  updateFirst_eq_map LedgerEntry.token token _ entries distinct

def Outstanding (entries : Entries) (token : String) : Prop :=
  ∃ entry ∈ entries, entry.token = token ∧ entry.state ≠ .removed

theorem outstanding_intent (outstanding : Outstanding entries token) (kind : ResourceKind)
    (other region : String) :
    Outstanding (apply entries (.intent kind other region)) token := by
  obtain ⟨entry, member, same, state⟩ := outstanding
  refine ⟨entry, ?_, same, state⟩
  rw [apply]
  split
  · exact member
  · exact List.mem_append_left _ member

variable (distinct : (tokens entries).Nodup)

include distinct

theorem outstanding_created (outstanding : Outstanding entries token) (other providerId : String) :
    Outstanding (apply entries (.created other providerId)) token := by
  obtain ⟨entry, member, same, state⟩ := outstanding
  rw [apply_created distinct]
  refine ⟨_, List.mem_map_of_mem member, ?_⟩
  split
  · exact ⟨same, by simp⟩
  · exact ⟨same, state⟩

theorem outstanding_removed {other : String} (different : token ≠ other)
    (outstanding : Outstanding entries token) :
    Outstanding (apply entries (.removed other)) token := by
  obtain ⟨entry, member, same, state⟩ := outstanding
  rw [apply_removed distinct]
  refine ⟨_, List.mem_map_of_mem member, ?_⟩
  rw [if_neg (by rw [same]; exact different)]
  exact ⟨same, state⟩

theorem outstanding_of_removed {other : String}
    (outstanding : Outstanding (apply entries (.removed other)) token) :
    Outstanding entries token ∧ token ≠ other := by
  obtain ⟨entry, member, same, state⟩ := outstanding
  rw [apply_removed distinct] at member
  obtain ⟨before, present, made⟩ := List.mem_map.mp member
  split at made
  · rw [← made] at state
    exact absurd rfl state
  next different =>
    subst made
    exact ⟨⟨before, present, same, state⟩, same ▸ different⟩

end DnetEngine.Provision
