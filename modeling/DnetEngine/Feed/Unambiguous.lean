import DnetEngine.Feed.Envelope
import DnetEngine.Lib.LengthPrefix

/-! The encoding that is signed: no two payloads or types share one, so that what is signed as one
kind of document is not what is checked for the other. -/

namespace DnetEngine.Feed

open Lib

/-- What is assumed of the signatures: one that verifies was made for one message. -/
structure Crates.MessageBound {VerifyingKey : Type} (crates : Crates VerifyingKey) : Prop where
  bound : ∀ key first second signature, crates.verifyStrict key first signature = true →
    crates.verifyStrict key second signature = true → first = second

theorem pae_eq_counted (payloadType : String) (body : Bytes) :
    pae payloadType body =
      utf8 "DSSEv1 " ++ (counted (utf8 payloadType) ++ 32 :: counted body) := by
  have length : (utf8 payloadType).length = payloadType.utf8ByteSize := rfl
  have blank : utf8 " " = [32] := rfl
  simp only [pae, counted, length, blank, List.append_assoc, List.cons_append,
    List.nil_append]

theorem pae_inj {firstType secondType : String} {first second : Bytes}
    (same : pae firstType first = pae secondType second) :
    firstType = secondType ∧ first = second := by
  rw [pae_eq_counted, pae_eq_counted] at same
  obtain ⟨types, rest⟩ := counted_append_inj (List.append_cancel_left same)
  have bodies : counted first ++ [] = counted second ++ [] := by
    rw [List.append_nil, List.append_nil, (List.cons.inj rest).2]
  exact ⟨utf8_injective types, (counted_append_inj bodies).1⟩

theorem feed_message_ne_keys_message (feed keys : Bytes) :
    pae feedPayloadType feed ≠ pae keysPayloadType keys := by
  intro same
  exact absurd (pae_inj same).1 (by decide)

theorem parseEnvelope_type {VerifyingKey : Type} {crates : Crates VerifyingKey} {bytes : Bytes}
    {expectedType : String} {document : Document} {envelope : Envelope}
    (parsed : parseEnvelope crates bytes expectedType document = .ok envelope) :
    envelope.payloadType = expectedType := by
  obtain ⟨_, parsed⟩ := refused_ok.mp parsed
  obtain ⟨json, _, rest⟩ := bind_ok.mp parsed
  obtain ⟨_, rest⟩ := refused_ok.mp rest
  obtain ⟨_, rest⟩ := refused_ok.mp rest
  obtain ⟨payload, _, rest⟩ := bind_ok.mp rest
  obtain ⟨signatures, _, rest⟩ := bind_ok.mp rest
  cases rest
  rfl

/-- What is signed determines its type and its payload. So the messages checked for a feed and for
a keys document always differ, and no signature that is bound to its message verifies as both. -/
theorem pae_unambiguous {VerifyingKey : Type} (crates : Crates VerifyingKey) :
    (∀ (firstType secondType : String) (first second : Bytes),
        pae firstType first = pae secondType second →
          firstType = secondType ∧ first = second) ∧
      (∀ (feedBytes keysBytes : Bytes) (feed keys : Envelope),
        parseEnvelope crates feedBytes feedPayloadType .feed = .ok feed →
          parseEnvelope crates keysBytes keysPayloadType .keys = .ok keys →
          feed.signedMessage ≠ keys.signedMessage) ∧
      (crates.MessageBound → ∀ (key : VerifyingKey) (signature : Signature) (feed keys : Bytes),
        crates.verifyStrict key (pae feedPayloadType feed) signature = true →
          crates.verifyStrict key (pae keysPayloadType keys) signature = false) := by
  refine ⟨fun _ _ _ _ same => pae_inj same, ?_, ?_⟩
  · intro feedBytes keysBytes feed keys feedParsed keysParsed
    rw [Envelope.signedMessage, Envelope.signedMessage, parseEnvelope_type feedParsed,
      parseEnvelope_type keysParsed]
    exact feed_message_ne_keys_message feed.payload keys.payload
  · intro bound key signature feed keys signed
    apply Bool.eq_false_of_not_eq_true
    intro alsoSigned
    exact feed_message_ne_keys_message feed keys (bound.bound key _ _ signature signed alsoSigned)

/-- Crates whose signatures spell the payload of the feed they are made for. -/
def spellingCrates : Crates Unit where
  envelopeFromSlice
    | 0 :: _ => some ⟨"", feedPayloadType, [⟨""⟩]⟩
    | _ => some ⟨"", keysPayloadType, [⟨""⟩]⟩
  keysFromSlice _ := .error ""
  feedFromSlice _ := .error ""
  base64Decode _ := some (List.replicate 64 7)
  base64Encode _ := ""
  keyFromBytes _ := some ()
  isWeak _ := false
  verifyStrict _ message signature := message == pae feedPayloadType signature.toList
  sha256 _ := List.Vector.replicate 32 0

theorem spellingCrates_messageBound : spellingCrates.MessageBound where
  bound _ _ _ _ signed alsoSigned :=
    (eq_of_beq signed).trans (eq_of_beq alsoSigned).symm

theorem pae_unambiguous_spelled :
    (parseEnvelope spellingCrates [0] feedPayloadType .feed).isOk = true ∧
      (parseEnvelope spellingCrates [1] keysPayloadType .keys).isOk = true ∧
      let signature : Signature := List.Vector.replicate 64 7
      spellingCrates.verifyStrict () (pae feedPayloadType (List.replicate 64 7)) signature = true ∧
        spellingCrates.verifyStrict () (pae keysPayloadType []) signature = false := by
  have signed : spellingCrates.verifyStrict () (pae feedPayloadType (List.replicate 64 7))
      (List.Vector.replicate 64 7) = true := by decide +kernel
  exact ⟨by decide +kernel, by decide +kernel, signed,
    (pae_unambiguous spellingCrates).2.2 spellingCrates_messageBound () _ _ _ signed⟩

end DnetEngine.Feed
