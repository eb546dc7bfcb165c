import Mathlib.Tactic.Common

/-! Programs that can be killed between any two of their effects. A program runs on a script that
gives the fate of each effect, and is killed where the script ends; the world outlives it. `Safe` is
the judgment of such a program: what holds where it returns, and what holds where it was killed. -/

namespace DnetEngine.Lib

def Mortal (Fate World Value : Type) : Type :=
  List Fate → World → Option (Value × List Fate) × World

variable {Fate World Value Result Error : Type}

namespace Mortal

instance : Monad (Mortal Fate World) where
  pure value := fun fates world => (some (value, fates), world)
  bind program rest := fun fates world =>
    match program fates world with
    | (some (value, left), after) => rest value left after
    | (none, after) => (none, after)

def act (effect : Fate → World → Value × World) : Mortal Fate World Value
  | [], world => (none, world)
  | fate :: fates, world => (some ((effect fate world).1, fates), (effect fate world).2)

/-- What stands in memory, or is read where nothing can go wrong. -/
def look (view : World → Value) : Mortal Fate World Value :=
  fun fates world => (some (view world, fates), world)

/-- A change of memory, between which and the next effect nobody is killed. -/
def change (next : World → World) : Mortal Fate World Unit :=
  fun fates world => (some ((), fates), next world)

end Mortal

open Mortal

def Safe (pre : World → Prop) (program : Mortal Fate World Value) (post : Value → World → Prop)
    (killed : World → Prop) : Prop :=
  ∀ fates world, pre world →
    match program fates world with
    | (some (value, _), after) => post value after
    | (none, after) => killed after

variable {pre killed : World → Prop}

variable {post : Value → World → Prop} {failed : Error → World → Prop}
  {program : Mortal Fate World Value}

theorem safe_pure {value : Value} (holds : ∀ world, pre world → post value world) :
    Safe pre (pure value : Mortal Fate World Value) post killed :=
  fun _ world before => holds world before

theorem safe_act {effect : Fate → World → Value × World}
    (survives : ∀ world, pre world → killed world)
    (holds : ∀ fate world, pre world → post (effect fate world).1 (effect fate world).2) :
    Safe pre (act effect) post killed := by
  intro fates world before
  cases fates with
  | nil => exact survives world before
  | cons fate => exact holds fate world before

theorem safe_look {view : World → Value} (holds : ∀ world, pre world → post (view world) world) :
    Safe pre (look view : Mortal Fate World Value) post killed :=
  fun _ world before => holds world before

theorem safe_change {next : World → World} {post : Unit → World → Prop}
    (holds : ∀ world, pre world → post () (next world)) :
    Safe pre (change next : Mortal Fate World Unit) post killed :=
  fun _ world before => holds world before

variable {middle succeeded : Value → World → Prop}

theorem Safe.bind {first : Mortal Fate World Value} {rest : Value → Mortal Fate World Result}
    {post : Result → World → Prop} (safe : Safe pre first middle killed)
    (goesOn : ∀ value, Safe (middle value) (rest value) post killed) :
    Safe pre (first >>= rest) post killed := by
  intro fates world before
  have reached := safe fates world before
  change match (match first fates world with
    | (some (value, left), after) => rest value left after
    | (none, after) => (none, after)) with
    | (some (value, _), after) => post value after
    | (none, after) => killed after
  generalize first fates world = done at reached
  obtain ⟨returned, after⟩ := done
  cases returned with
  | none => exact reached
  | some returned => exact goesOn returned.1 returned.2 after reached

/-- What holds where a computation succeeds, and where it fails. -/
def Either (succeeded : Value → World → Prop) (failed : Error → World → Prop) :
    Except Error Value → World → Prop
  | .ok value => succeeded value
  | .error error => failed error

theorem Safe.attempt {first : ExceptT Error (Mortal Fate World) Value}
    {rest : Value → ExceptT Error (Mortal Fate World) Result} {succeeded : Result → World → Prop}
    (safe : Safe pre first.run (Either middle failed) killed)
    (goesOn : ∀ value, Safe (middle value) (rest value).run (Either succeeded failed) killed) :
    Safe pre (first >>= rest).run (Either succeeded failed) killed := by
  apply safe.bind
  intro result
  cases result with
  | error => exact safe_pure fun _ stopped => stopped
  | ok value => exact goesOn value

theorem safe_return {value : Value} (holds : ∀ world, pre world → succeeded value world) :
    Safe pre (pure value : ExceptT Error (Mortal Fate World) Value).run (Either succeeded failed)
      killed :=
  safe_pure holds

theorem safe_lift (safe : Safe pre program succeeded killed) :
    Safe pre (ExceptT.lift program : ExceptT Error (Mortal Fate World) Value).run
      (Either succeeded failed) killed :=
  Safe.bind safe fun _ => safe_pure fun _ holds => holds

theorem Safe.mono {weaker : Value → World → Prop} (safe : Safe pre program post killed)
    (after : ∀ value world, post value world → weaker value world) :
    Safe pre program weaker killed := by
  intro fates world before
  have reached := safe fates world before
  generalize program fates world = done at reached ⊢
  obtain ⟨returned, world⟩ := done
  cases returned with
  | none => exact reached
  | some returned => exact after returned.1 world reached

theorem Safe.given {stronger : World → Prop} (safe : Safe pre program post killed)
    (before : ∀ world, stronger world → pre world) : Safe stronger program post killed :=
  fun fates world holds => safe fates world (before world holds)

theorem safe_from
    (safe : ∀ start, pre start → Safe (fun world => world = start) program post killed) :
    Safe pre program post killed :=
  fun fates world before => safe world before fates world rfl

end DnetEngine.Lib
