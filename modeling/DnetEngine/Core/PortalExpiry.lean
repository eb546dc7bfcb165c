import Mathlib.Data.List.Basic

/-! Whether the network is a captive portal, from the readings of the connectivity probe. -/

namespace DnetEngine.Portal

inductive PortalState
  | isOpen
  | intercepted (login : Option String)
  | unreachable
  | inconclusive
  deriving DecidableEq

inductive Recognised
  | portalAppeared (login : Option String)
  | sessionExpired (login : Option String)
  | cleared
  deriving DecidableEq

@[grind] def confirmReadings : Nat := 2

structure PortalWatch where
  run : Nat := 0
  active : Bool := false
  signedInBefore : Bool := false
  login : Option String := none
  deriving DecidableEq

@[grind] def PortalWatch.observe (w : PortalWatch) : PortalState → PortalWatch × Option Recognised
  | .isOpen =>
    if w.active then
      ({ w with run := 0, active := false, signedInBefore := true, login := none }, some .cleared)
    else ({ w with run := 0 }, none)
  | .intercepted login =>
    let w := if login.isSome then { w with login } else w
    if w.active then (w, none)
    else
      let w := { w with run := w.run + 1 }
      let needed := if w.signedInBefore then 1 else confirmReadings
      if w.run < needed then (w, none)
      else
        ({ w with active := true },
          some (if w.signedInBefore then .sessionExpired w.login else .portalAppeared w.login))
  | .unreachable | .inconclusive => (w, none)

/-- A call of `observe` or of `new_network`. -/
inductive Call
  | observe (reading : PortalState)
  | newNetwork
  deriving DecidableEq

@[grind] def take (w : PortalWatch) : Call → PortalWatch × Option Recognised
  | .observe reading => w.observe reading
  | .newNetwork => ({}, none)

@[grind] def after : List Call → PortalWatch
  | [] => {}
  | call :: earlier => (take (after earlier) call).1

/-- What the newest call was told. -/
@[grind] def told : List Call → Option Recognised
  | [] => none
  | call :: earlier => (take (after earlier) call).2

@[grind] def Recognised.login? : Recognised → Option (Option String)
  | .portalAppeared login | .sessionExpired login => some login
  | .cleared => none

@[grind] def Recognised.appears : Recognised → Bool
  | .portalAppeared _ => true
  | .sessionExpired _ | .cleared => false

@[grind] def Recognised.expires : Recognised → Bool
  | .sessionExpired _ => true
  | .portalAppeared _ | .cleared => false

/-- The last change was a declaration. -/
@[grind] def declared : List Call → Bool
  | [] => false
  | call :: earlier => (told (call :: earlier)).elim (declared earlier) fun change =>
    change.login?.isSome

/-- The calls since the machine came to this network, and the readings since the last open one. -/
def onNetwork (calls : List Call) : List Call := calls.takeWhile (· ≠ .newNetwork)

def sinceOpen (calls : List Call) : List Call :=
  (onNetwork calls).takeWhile (· ≠ .observe .isOpen)

@[grind] def isIntercepted : Call → Bool
  | .observe (.intercepted _) => true
  | _ => false

@[grind] def declaredHere : List Call → Bool
  | [] | .newNetwork :: _ => false
  | .observe reading :: earlier =>
    (told (.observe reading :: earlier)).any (fun change => change.login?.isSome) ||
      declaredHere earlier

/-- What the watch promises after the newest call. -/
structure Honest (calls : List Call) : Prop where
  between : (after calls).active = declared calls
  alternates : ∀ change, told calls = some change →
    (change.login?.isSome = true ↔ declared calls.tail = false)
  first : (told calls).any Recognised.appears = true ↔
    calls.head?.any isIntercepted = true ∧ declaredHere calls.tail = false ∧
      (sinceOpen calls).countP isIntercepted = confirmReadings
  later : (told calls).any Recognised.expires = true ↔
    calls.head?.any isIntercepted = true ∧ declaredHere calls.tail = true ∧
      (sinceOpen calls).countP isIntercepted = 1
  given : ∀ address, (after calls).login = some address ∨
      (told calls).bind Recognised.login? = some (some address) →
    .observe (.intercepted (some address)) ∈ sinceOpen calls

/-- No network is left while it is a portal, and an open reading finds a declared portal or no
address to sign in at. -/
def NothingLeft (call : Call) (earlier : List Call) : Prop :=
  (call = .newNetwork → (after earlier).active = false) ∧
    (call = .observe .isOpen → (after earlier).active = true ∨ (after earlier).login = none)

structure Counts (calls : List Call) : Prop where
  here : declaredHere calls = ((after calls).signedInBefore || (after calls).active)
  fresh : (after calls).active = false → (after calls).signedInBefore = false →
    (after calls).run = (sinceOpen calls).countP isIntercepted ∧ (after calls).run < 2
  signedIn : (after calls).active = false → (after calls).signedInBefore = true →
    (after calls).run = 0 ∧ (sinceOpen calls).countP isIntercepted = 0
  active : (after calls).active = true →
    (if (after calls).signedInBefore then 1 else 2) ≤ (sinceOpen calls).countP isIntercepted

variable {calls earlier : List Call} {reading : PortalState}

@[grind =] theorem sinceOpen_nil : sinceOpen [] = [] := rfl

@[grind =] theorem sinceOpen_newNetwork : sinceOpen (.newNetwork :: earlier) = [] := rfl

@[grind =] theorem sinceOpen_open : sinceOpen (.observe .isOpen :: earlier) = [] := by
  simp [sinceOpen, onNetwork]

@[grind =] theorem sinceOpen_observe (kept : reading ≠ .isOpen) :
    sinceOpen (.observe reading :: earlier) = .observe reading :: sinceOpen earlier := by
  simp [sinceOpen, onNetwork, kept]

theorem counts (calls : List Call) : Counts calls := by
  induction calls with
  | nil => constructor <;> grind
  | cons call earlier ih =>
    obtain ⟨here, fresh, signedIn, active⟩ := ih
    rcases call with reading | _
    · cases reading <;> constructor <;> grind
    · constructor <;> grind

theorem Honest.next {call : Call} (honest : Honest earlier) (left : NothingLeft call earlier) :
    Honest (call :: earlier) := by
  obtain ⟨between, -, -, -, given⟩ := honest
  obtain ⟨here, fresh, signedIn, active⟩ := counts earlier
  obtain ⟨away, found⟩ := left
  rcases call with reading | _
  · cases reading <;> constructor <;> grind
  · constructor <;> grind

/-- The watch keeps its promises over a run exactly if no network is left while it is a portal, and
an address to sign in at is never left over when a network that was not declared turns out open. -/
theorem watch_honest_iff (calls : List Call) : (∀ part, part <:+ calls → Honest part) ↔
    ∀ call earlier, call :: earlier <:+ calls → NothingLeft call earlier := by
  constructor
  · intro honest call earlier part
    have now := honest _ part
    have before := honest _ ((List.suffix_cons call earlier).trans part)
    constructor
    · rintro rfl
      exact before.between.trans now.between.symm
    · rintro rfl
      by_contra stale
      simp only [not_or] at stale
      obtain ⟨address, kept⟩ := Option.ne_none_iff_exists'.mp stale.2
      have given := now.given address
      grind
  · intro left
    induction calls with
    | nil =>
      intro part suffix
      constructor <;> grind
    | cons call earlier ih =>
      intro part suffix
      have before := ih fun other older inside => left other older (inside.trans (List.suffix_cons _ _))
      rcases List.suffix_cons_iff.mp suffix with rfl | inside
      · exact (before _ (List.suffix_refl _)).next (left call earlier (List.suffix_refl _))
      · exact before part inside

/-- An address from before the network was open is offered for the portal that appears later. -/
theorem stale_login_kept :
    let calls := [.observe .isOpen, .observe (.intercepted (some "http://old"))]
    (after calls).login = some "http://old" ∧ sinceOpen calls = [] ∧
      told (.observe (.intercepted none) :: .observe (.intercepted none) :: calls) =
        some (.portalAppeared (some "http://old")) := by
  decide

end DnetEngine.Portal
