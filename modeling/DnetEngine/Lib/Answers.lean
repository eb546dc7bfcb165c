import Mathlib.Tactic.Common

/-! What a program answers in whatever world it is run. The world is state that the program passes
on; nothing is said of it, so that the answer holds for every behaviour of the outside. -/

namespace DnetEngine.Lib

variable {World Value Result : Type}

/-- Whatever the world, the answer of the program has the property. -/
structure Answers (program : StateM World Value) (holds : Value → Prop) : Prop where
  always : ∀ world, holds (program.run world).1

theorem answers_pure {holds : Value → Prop} {value : Value} (holding : holds value) :
    Answers (pure value : StateM World Value) holds :=
  ⟨fun _ => holding⟩

theorem run_bind (first : StateM World Value) (rest : Value → StateM World Result)
    (world : World) :
    (first >>= rest).run world = (rest (first.run world).1).run (first.run world).2 := rfl

theorem answers_any (program : StateM World Value) : Answers program (fun _ => True) :=
  ⟨fun _ => trivial⟩

theorem Answers.bind {first : StateM World Value} {rest : Value → StateM World Result}
    {middle : Value → Prop} {holds : Result → Prop} (begins : Answers first middle)
    (continues : ∀ value, middle value → Answers (rest value) holds) :
    Answers (first >>= rest) holds :=
  ⟨fun world => (continues _ (begins.always world)).always _⟩

theorem Answers.mono {program : StateM World Value} {holds weaker : Value → Prop}
    (answers : Answers program holds) (implies : ∀ value, holds value → weaker value) :
    Answers program weaker :=
  ⟨fun world => implies _ (answers.always world)⟩

end DnetEngine.Lib
