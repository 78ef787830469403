import ChatRiddles.Proofs.JsonGrammar
import ChatRiddles.Proofs.RoundTrip
/-!
# The forms in which a riddle is given

A riddle is given as a JSON text, as a value, or as a document. What a text brings and what is given
as a value are read as documents by two readers, and they agree. A text is compiled if and only if
its value is, and a value if and only if it is a document that is compiled. The definitions are the
same, and so is the reason for which a document is rejected. Only what is told about a value that is
no document depends on the form: there are the same faults, in different words.

In the value of a text every name that is written again has its last value, at every depth.

Main statement: `Definition.forms_agree`.
-/

namespace ChatRiddles.Definition

open Json

variable {t : List UInt8} {v : Json}

/-- Bytes that write a value compile like the value in the form of texts. -/
theorem ofBytes_of_ofDocumentText (h : ofDocumentText t = .ok v) :
    ofBytes t = ofJsonIn .text v := by
  rw [ofBytes, h]

/-- Take a JSON text whose value is an object. Its fields have the values that have been written
last under their names, at every depth. The reader for texts and the reader for values read the
same document, or find the same faults. The text is compiled to a definition if and only if the
value is, and if and only if the value is a document that is compiled to it. If the value is a
document that is rejected, or that breaks the compiler down, then the text and the value are so for
the same reason; and if it is none, then both are rejected for the same faults. -/
theorem forms_agree {fields : List (String × Json)}
    (h : ofDocumentText t = .ok (.object fields)) :
    let v := Json.object fields
    (∃ pairs, SpelledBy t (.object pairs) ∧ v = (Json.object pairs).merged ∧
        ∀ name, v.field? name = fieldOf name (mergedFields pairs).reverse) ∧
      v.NamesDiffer ∧
      Document.ofWritten v = Document.ofJson v ∧
      (∀ d, ofBytes t = .ok d ↔ ofJson v = .ok d) ∧
      (∀ d, ofJson v = .ok d ↔
        ∃ document, Document.ofJson v = .ok document ∧ ofDocument document = .ok d) ∧
      (∀ document failure, Document.ofJson v = .ok document →
        ofDocument document = .error failure →
          ofBytes t = .error failure ∧ ofJson v = .error failure) ∧
      ∀ faults, Document.ofJson v = .error faults →
        ofBytes t = reject (.malformed .text faults) ∧
          ofJson v = reject (.malformed .value faults) := by
  intro v
  have hbytes : ofBytes t = ofJsonIn .text v := ofBytes_of_ofDocumentText h
  have hjson : ofJson v = ofJsonIn .value v := rfl
  obtain ⟨written, hspelled, hv⟩ := ofDocumentText_eq_ok_iff.mp h
  -- only an object becomes an object
  obtain ⟨pairs, rfl⟩ : ∃ pairs, written = .object pairs := by
    cases written with
    | object pairs => exact ⟨pairs, rfl⟩
    | _ => cases hv
  refine ⟨⟨pairs, hspelled, hv, ?_⟩, ?_, congrFun Document.ofWritten_eq_ofJson v, ?_,
    fun d => ofJsonIn_eq_ok_iff, ?_, ?_⟩
  · intro name
    show (Json.object fields).field? name = _
    rw [hv, merged, field?_ofFields]
  · show (Json.object fields).NamesDiffer
    rw [hv]
    exact namesDiffer_merged _
  · intro d
    rw [hbytes, hjson, ofJsonIn_eq_ok_iff, ofJsonIn_eq_ok_iff]
  · intro document failure hdocument hfailure
    rw [hbytes, hjson, ofJsonIn_of_document _ hdocument, ofJsonIn_of_document _ hdocument]
    exact ⟨hfailure, hfailure⟩
  · intro faults hfaults
    rw [hbytes, hjson]
    exact ⟨ofJsonIn_of_faults _ hfaults, ofJsonIn_of_faults _ hfaults⟩

/-- A text in which the initial state is written twice, and a chat as a truth value. -/
def repeatedText : String :=
  "\x7b\"initial_state\":5,\"states\":[\x7b\"name\":\"a\",\"edges\":[\x7b\"prompt\":" ++
    "\x7b\"type\":\"either\"\x7d,\"actions\":[\x7b\"type\":\"send_to\",\"chat_id\":true," ++
    "\"message\":\"hi\"\x7d]\x7d]\x7d],\"accepting_states\":[],\"initial_state\":\"a\"\x7d"

/-- The value of the text is compiled, and the text with it. -/
theorem forms_agree_repeatedText :
    ∃ fields d, ofDocumentText (Text.Utf8.encode repeatedText.toList) = .ok (.object fields) ∧
      ofJson (.object fields) = .ok d ∧ ofText repeatedText = .ok d ∧
      d.toDocument = ⟨"a", [], [⟨"a", [⟨.either, [.sendTo 1 "hi"], none⟩]⟩]⟩ := by
  have hcheck : ((ofDocumentText (Text.Utf8.encode repeatedText.toList)).toOption.any fun v =>
      (v.field? "states").isSome && decide ((ofJson v).toOption.map toDocument =
        some ⟨"a", [], [⟨"a", [⟨.either, [.sendTo 1 "hi"], none⟩]⟩]⟩)) = true := by
    decide +kernel
  cases hread : ofDocumentText (Text.Utf8.encode repeatedText.toList) with
  | error fault =>
    rw [hread] at hcheck
    cases hcheck
  | ok v =>
    rw [hread, Except.toOption, Option.any_some, Bool.and_eq_true, decide_eq_true_iff] at hcheck
    obtain ⟨hfield, hdocument⟩ := hcheck
    cases v with
    | object fields =>
      cases hd : ofJson (.object fields) with
      | error failure =>
        rw [hd] at hdocument
        cases hdocument
      | ok d =>
        rw [hd] at hdocument
        have htext : ofText repeatedText = .ok d := ((forms_agree hread).2.2.2.1 d).mpr hd
        exact ⟨fields, d, rfl, hd, htext, Option.some.inj hdocument⟩
    | _ => cases hfield

end ChatRiddles.Definition
