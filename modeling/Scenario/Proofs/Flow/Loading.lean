import Scenario.Flow.Document
import Scenario.Proofs.Success
/-!
Why a flow cannot be loaded.

With a handler for every kind, the handler that is looked up by the type of a node is there and is
the one for its data. So whatever keeps a text or a document from being a flow is a fault of the
document itself.
-/
namespace Scenario

open Json (Value)

/-- The text or the document that a flow is loaded from. -/
inductive Source where
  | text (text : String)
  | document (document : Value)

def Source.load : Source → Except FlowError (Option Flow)
  | .text s => Registry.standard.read s
  | .document v => Registry.standard.decode v

theorem Node.fault_of_decodeBy {kind : Kind} {fields : List (String × Value)} {e : FlowError}
    (failed : Node.decodeBy kind fields = .error e) : ∃ fault, e = .document fault := by
  unfold Node.decodeBy at failed
  split at failed
  · cases failed
    exact ⟨_, rfl⟩
  · split at failed
    · cases failed
      exact ⟨_, rfl⟩
    · cases failed

theorem fault_of_decodeNode {entry : Value} {e : FlowError}
    (failed : Registry.standard.decodeNode entry = .error e) : ∃ fault, e = .document fault := by
  unfold Registry.decodeNode at failed
  split at failed
  · split at failed
    · cases failed
      exact ⟨_, rfl⟩
    · split at failed
      · cases failed
        exact ⟨_, rfl⟩
      · exact Node.fault_of_decodeBy failed
  · cases failed
    exact ⟨_, rfl⟩

theorem fault_of_decodeLabel {edge : String} {label : Option Value} {e : FlowError}
    (failed : decodeLabel edge label = .error e) : ∃ fault, e = .document fault := by
  unfold decodeLabel at failed
  split at failed
  · cases failed
  · cases failed
  · cases failed
  · split at failed
    · cases failed
    · cases failed
      exact ⟨_, rfl⟩

theorem Edge.fault_of_decode {entry : Value} {e : FlowError}
    (failed : Edge.decode entry = .error e) : ∃ fault, e = .document fault := by
  cases entry with
  | object fields =>
    unfold Edge.decode at failed
    -- The three fields that an edge must have are looked up in the same way.
    iterate 3
      rcases Success.error_of_bind failed with missing | ⟨_, -, failed⟩
      · dsimp only at missing
        split at missing
        · cases missing
        · cases missing
          exact ⟨_, rfl⟩
    rcases Success.error_of_bind failed with label | ⟨_, -, failed⟩
    · exact fault_of_decodeLabel label
    · cases failed
  | null | bool | number | string | array =>
    cases failed
    exact ⟨_, rfl⟩

theorem fault_of_decodeEdges {edges : Option Value} {e : FlowError}
    (failed : Registry.decodeEdges edges = .error e) : ∃ fault, e = .document fault := by
  unfold Registry.decodeEdges at failed
  split at failed
  · cases failed
  · cases failed
  · obtain ⟨entry, -, cause⟩ := Success.error_of_mapM failed
    exact Edge.fault_of_decode cause
  · cases failed
    exact ⟨_, rfl⟩

theorem fault_of_decode {document : Value} {e : FlowError}
    (failed : Registry.standard.decode document = .error e) : ∃ fault, e = .document fault := by
  unfold Registry.decode at failed
  split at failed
  · cases failed
  · cases failed
  · split at failed
    · cases failed
      exact ⟨_, rfl⟩
    · rcases Success.error_of_bind failed with nodes | ⟨_, -, failed⟩
      · obtain ⟨entry, -, cause⟩ := Success.error_of_mapM nodes
        exact fault_of_decodeNode cause
      rcases Success.error_of_bind failed with edges | ⟨_, -, failed⟩
      · exact fault_of_decodeEdges edges
      · cases failed
  · cases failed
    exact ⟨_, rfl⟩

theorem Source.fault_of_load {source : Source} {e : FlowError}
    (failed : source.load = .error e) : ∃ fault, e = .document fault := by
  cases source with
  | document v => exact fault_of_decode failed
  | text s =>
    change Registry.standard.read s = .error e at failed
    unfold Registry.read at failed
    split at failed
    · cases failed
    · split at failed
      · cases failed
        exact ⟨_, rfl⟩
      · exact fault_of_decode failed

end Scenario
