import DnetEngine.Lib.Bytes

/-! Decoders that are given what has arrived so far. Such a decoder takes one item off the front,
asks for more, or gives up; what it once said it says again when more has arrived. However a stream
of encoded items is cut, it is then read as those items. -/

namespace DnetEngine.Lib

/-- An item and how many bytes it took, nothing while it is not complete, or an error. -/
abbrev Incremental (Error Item : Type) := Bytes → Except Error (Option (Item × Nat))

variable {Error Item : Type}

/-- What was decided stays decided, and an item takes at least one byte and no more than there are. -/
structure Incremental.Stable (decode : Incremental Error Item) : Prop where
  kept : ∀ buf more, decode buf ≠ .ok none → decode (buf ++ more) = decode buf
  taken : ∀ {buf item count}, decode buf = .ok (some (item, count)) → 0 < count ∧ count ≤ buf.length

/-- What is encoded is decoded, and nothing else is taken with it. -/
def Incremental.Reads (decode : Incremental Error Item) (encode : Item → Bytes) (item : Item) : Prop :=
  decode (encode item) = .ok (some (item, (encode item).length))

variable {decode : Incremental Error Item} {encode : Item → Bytes} {item : Item}
  {items : List Item} {buf later : Bytes}

/-- The beginning of a stream of items either is too short or gives the first of them. -/
theorem Incremental.Stable.decode_stream (stable : decode.Stable) (reads : decode.Reads encode item)
    (stream : buf ++ later = encode item ++ items.flatMap encode) :
    decode buf = .ok none ∨
      decode buf = .ok (some (item, (encode item).length)) ∧
        buf.drop (encode item).length ++ later = items.flatMap encode := by
  by_cases decided : decode buf = .ok none
  · exact .inl decided
  · have whole : decode (encode item ++ items.flatMap encode) =
        .ok (some (item, (encode item).length)) := by
      rw [stable.kept _ _ (by rw [reads]; simp), reads]
    have same := stable.kept buf later decided
    rw [stream, whole] at same
    have fits := (stable.taken same.symm).2
    refine .inr ⟨same.symm, ?_⟩
    rw [← List.drop_append_of_le_length fits, stream, List.drop_left]

/-- All that has arrived of a stream of items, and nothing more to come: the first item is there. -/
theorem Incremental.Stable.decode_whole (stable : decode.Stable) (reads : decode.Reads encode item)
    (stream : buf = encode item ++ items.flatMap encode) :
    decode buf = .ok (some (item, (encode item).length)) := by
  rw [stream, stable.kept _ _ (by rw [reads]; simp), reads]

end DnetEngine.Lib
