/-
The way of confirming transactions is decoded from what it is encoded to. Its mode is the tag
of the record: the other fields are set aside and read once the mode is known.
-/

import PerpDeploy.Proofs.Contract.Message
import PerpDeploy.Settings.Basic

namespace PerpDeploy.Confirmation

open Json (Context Document Decoder Fields Gives Reads)

/-- The times of polling are within what their decoders allow. -/
def InRange : Confirmation → Prop
  | .block => True
  | .poll timeout interval => IsWord timeout ∧ IsWord interval

theorem readParts_block (context : Context) :
    readParts context { mode := none, others := [] }
        (Document.ofFields [("mode", .string "block")]) =
      .ok { mode := some .block, others := [] } := by
  simp [readParts, Document.ofFields, Document.ofJson, Mode.decoder, Decoder.string, bind,
    Except.bind]

/-- Whatever stands behind the mode is set aside as it was written. -/
theorem readParts_poll (context : Context) (timeout interval : Nat) :
    readParts context { mode := none, others := [] }
        (Document.ofFields
          [ ("mode", .string "poll"), ("timeout_secs", .natural timeout),
            ("interval_secs", .natural interval) ]) =
      .ok
        { mode := some .poll
          others := [("timeout_secs", .natural timeout), ("interval_secs", .natural interval)] } := by
  simp [readParts, Document.ofFields, Document.ofJson, Mode.decoder, Decoder.string,
    Json.readJson, Json.natural, bind, Except.bind]

/-- What was set aside is read as a record of its own. -/
theorem ofMode_poll (others : Json) :
    ofMode others .poll =
      (Confirmation.poll <$> Fields.required "timeout_secs" Decoder.word
        <*> Fields.required "interval_secs" Decoder.word).decoder Context.ofSetAside
        (Document.ofJson others) := rfl

theorem ofMode_times {timeout interval : Nat} (timeoutWord : IsWord timeout)
    (intervalWord : IsWord interval) :
    ofMode (.object [("timeout_secs", .natural timeout), ("interval_secs", .natural interval)])
      .poll = .ok (.poll timeout interval) := by
  have fields : Gives (Confirmation.poll <$> Fields.required "timeout_secs" Decoder.word
      <*> Fields.required "interval_secs" Decoder.word) 0
      [("timeout_secs", .natural timeout), ("interval_secs", .natural interval)]
      (.poll timeout interval) :=
    ((Gives.required "timeout_secs" (reads_word timeoutWord)).map Confirmation.poll).andThen
      (Gives.required "interval_secs" (reads_word intervalWord)) (by decide)
  rw [ofMode_poll]
  exact fields.reads.decoded Context.ofSetAside fun text => by cases text

/-- The mode decides what the fields beside it are read as. -/
theorem decoder_object {context inner : Context} (entered : context.enter = .ok inner)
    {fields others : List (String × Json)} {mode : Mode}
    (parts : readParts inner { mode := none, others := [] } (Document.ofFields fields) =
      .ok { mode := some mode, others }) :
    decoder context (Document.ofJson (.object fields)) = ofMode (.object others) mode := by
  simp only [Document.ofJson, decoder, entered, bind, Except.bind, parts,
    Json.Ending.forReader]

theorem reads {confirmation : Confirmation} (inRange : confirmation.InRange) :
    Reads decoder 1 confirmation.encode confirmation := by
  cases confirmation with
  | block =>
      refine { exact := ⟨trivial, trivial⟩, decoded := fun context holds => ?_ }
      obtain ⟨inner, entered, _⟩ := holds.enter
      exact decoder_object entered (readParts_block inner)
  | poll timeout interval =>
      obtain ⟨timeoutWord, intervalWord⟩ := inRange
      refine
        { exact := ⟨trivial, inWords_of_word timeoutWord, inWords_of_word intervalWord, trivial⟩
          decoded := fun context holds => ?_ }
      obtain ⟨inner, entered, _⟩ := holds.enter
      exact (decoder_object entered (readParts_poll inner timeout interval)).trans
        (ofMode_times timeoutWord intervalWord)

end PerpDeploy.Confirmation
