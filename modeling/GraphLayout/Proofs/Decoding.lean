import Mathlib
import GraphLayout.Proofs.Json.Values
import GraphLayout.Proofs.Shapes

/-!
# Decoding graphs

What the decoder makes of a text: the graph that its value stands for, or a refusal.
-/

namespace GraphLayout
namespace Graph

open Json (Value Document)

theorem ofJson_eq_ok_iff {text : String} {graph : Graph} :
    ofJson text = .ok graph <-> exists value, Document text value ∧ Decodes value graph := by
  constructor
  · intro h
    unfold ofJson at h
    cases hread : Json.value text.toList with
    | error failure =>
        simp [hread] at h
    | ok result =>
        rcases result with ⟨value, rest⟩
        cases hshape : ofValue? value with
        | none =>
            simp [hread, hshape] at h
        | some found =>
            cases hfinish : Json.finish rest with
            | error failure =>
                simp [hread, hshape, hfinish] at h
            | ok _ =>
                simp only [hread, hshape, hfinish, Except.ok.injEq] at h
                refine ⟨value, Json.document_iff.mpr ⟨rest, hread, ?_⟩, ?_⟩
                · exact Json.finish_eq_ok_iff.mp hfinish
                · rw [← h]
                  exact ofValue?_eq_some_iff.mp hshape
  · intro h
    rcases h with ⟨value, hdocument, hdecodes⟩
    rcases Json.document_iff.mp hdocument with ⟨rest, hread, hrest⟩
    simp only [ofJson, hread, ofValue?_eq_some_iff.mpr hdecodes,
      Json.finish_eq_ok_iff.mpr hrest]

theorem ofJson_eq_noShape {text : String} {value : Value} (hdocument : Document text value)
    (hshape : ¬IsPayload value) : ofJson text = .error ⟨.noShape⟩ := by
  rcases Json.document_iff.mp hdocument with ⟨rest, hread, _⟩
  have hnone : ofValue? value = none := by
    cases hvalue : ofValue? value with
    | none =>
        rfl
    | some graph =>
        exact absurd (isPayload_iff.mpr ⟨graph, ofValue?_eq_some_iff.mp hvalue⟩) hshape
  simp only [ofJson, hread, hnone]

/-- A document is accepted if its value has a shape of payloads, and it is then decoded to
what the shape stands for. Every other document is refused for its shape. -/
theorem ofJson_document {text : String} {value : Value} (hdocument : Document text value) :
    ((exists graph, ofJson text = .ok graph) <-> IsPayload value) ∧
      (forall graph, ofJson text = .ok graph <-> Decodes value graph) ∧
      (¬IsPayload value -> ofJson text = .error ⟨.noShape⟩) := by
  have hdecodes : forall graph, ofJson text = .ok graph <-> Decodes value graph := by
    intro graph
    rw [ofJson_eq_ok_iff]
    constructor
    · intro h
      rcases h with ⟨value', hdocument', hdecodes⟩
      rw [hdocument.unique hdocument']
      exact hdecodes
    · intro h
      exact ⟨value, hdocument, h⟩
  refine ⟨?_, hdecodes, ofJson_eq_noShape hdocument⟩
  simp only [hdecodes, isPayload_iff]

/-- A member besides the elements is ignored, and a repeated name keeps its first place. -/
theorem ofJson_document_repeated_name :
    let text := "\x7b\"n\":[],\"elements\":[[7,\x7b\"a\":\"x\",\"b\":\"y\",\"a\":\"z\"\x7d]]\x7d "
    let element := .array [.number (.whole 7), objectOfTexts [("a", "x"), ("b", "y"), ("a", "z")]]
    let value := .object [("n", .array []), ("elements", .array [element])]
    Document text value ∧ IsPayload value ∧
      ofJson text = .ok ⟨[.node 7 (.ofList [("a", "z"), ("b", "y")])]⟩ := by
  intro text element value
  have hdocument : Document text value :=
    Json.document_iff.mpr ⟨[' '], by cbv, Json.finish_eq_ok_iff.mp rfl⟩
  have hdecodes : Decodes value ⟨[.node 7 (.ofList [("a", "z"), ("b", "y")])]⟩ :=
    ofValue?_eq_some_iff.mp (by cbv)
  exact ⟨hdocument, isPayload_iff.mpr ⟨_, hdecodes⟩,
    ((ofJson_document hdocument).2.1 _).mpr hdecodes⟩

example : ofJson "[\x7b\"id\":1,\"id\":1\x7d]" = .error ⟨.noShape⟩ := by
  cbv

end Graph
end GraphLayout
