import Scenario.Proofs.Run.Twins
import Scenario.Proofs.Run.Writes
/-!
Credentials are kept to requests.

Two flows that differ in nothing but the credentials they put in force are run on the same replies.
As long as all these credentials can be had, nobody who sees the logs and the results can tell the
runs apart; only the headers and the queries of the requests can differ.
-/
namespace Scenario

/-- The headers and the query are all in which the second request can differ. -/
def Sent.SameButSigned (sent twin : Sent) : Prop :=
  twin = { sent with request :=
    { sent.request with headers := twin.request.headers, query := twin.request.query } }

theorem Sent.Alike.sameButSigned {sent twin : Sent} (alike : sent.Alike True twin) :
    sent.SameButSigned twin := by
  obtain ⟨request, timeout⟩ := twin
  obtain ⟨method, url, headers, query, body⟩ := request
  obtain ⟨⟨rfl, rfl, rfl, -⟩, rfl⟩ := alike
  rfl

theorem Transport.Alike.sent {hidden : Prop} {transport twin : Transport}
    (alike : transport.Alike hidden twin) :
    List.Forall₂ (Sent.Alike hidden) transport.sent twin.sent := by
  cases alike with
  | offline => exact .nil
  | scripted replies sents => exact sents

namespace Flow

/-- The other flow differs in the credentials that its nodes put in force, at most. -/
structure Resigns (flow other : Flow) : Prop where
  nodes : List.Forall₂ (fun node twin : Node => twin.id = node.id ∧ twin.metadata = node.metadata ∧
    (twin.step = node.step ∨ ∃ data replaced, node.step = .auth data ∧ twin.step = .auth replaced))
    flow.nodes other.nodes
  edges : other.edges = flow.edges

theorem exists_of_forall₂ {α β : Type} {p : α → β → Prop} {items : List α} {others : List β}
    (related : List.Forall₂ p items others) {item : α} (member : item ∈ items) :
    ∃ other ∈ others, p item other := by
  induction related with
  | nil => cases member
  | cons here _ ih =>
    rcases List.mem_cons.mp member with rfl | later
    · exact ⟨_, List.mem_cons_self, here⟩
    · obtain ⟨other, inside, relates⟩ := ih later
      exact ⟨other, List.mem_cons_of_mem _ inside, relates⟩

theorem Resigns.alike {flow other : Flow} (resigns : flow.Resigns other) :
    flow.Alike True other := by
  constructor
  · intro node member
    obtain ⟨twin, present, id, -, steps⟩ := exists_of_forall₂ resigns.nodes member
    refine ⟨twin, present, id, ?_⟩
    rcases steps with same | ⟨data, replaced, own, others⟩
    · rw [same]
      exact .same node.step
    · rw [own, others]
      exact .auth data replaced trivial
  · intro edge member
    exact ⟨edge, resigns.edges ▸ member, rfl, rfl, rfl⟩
  · intro edge member
    exact ⟨edge, resigns.edges ▸ member, rfl, rfl, rfl⟩

end Flow

namespace Journey

/-- Runs of flows that differ in credentials alone are twins, if all credentials can be had, and
their requests differ in headers and query at most. -/
theorem build_conceals {flow other : Flow} {graph second : Graph}
    (built : Graph.build flow = .ok graph) (otherBuilt : Graph.build other = .ok second)
    (resigns : flow.Resigns other) (tolerance : UInt32) (epoch : Nat) (vars : Variables)
    (timeout : UInt64) (now : Nat) (transport : Transport) (moves : List Move)
    (granted : ((start graph tolerance epoch vars timeout now transport).afterAll moves).Granted)
    (otherGranted :
      ((start second tolerance epoch vars timeout now transport).afterAll moves).Granted) :
    let journey := (start graph tolerance epoch vars timeout now transport).afterAll moves
    let twin := (start second tolerance epoch vars timeout now transport).afterAll moves
    journey.Twins twin ∧
      List.Forall₂ Sent.SameButSigned journey.transport.sent twin.transport.sent := by
  intro journey twin
  have alike : journey.Alike True twin :=
    (alike_start built otherBuilt resigns.alike tolerance epoch vars timeout now
      transport).afterAll moves fun _ => ⟨granted, otherGranted⟩
  exact ⟨alike.twins, alike.transport.sent.imp fun _ _ => Sent.Alike.sameButSigned⟩

end Journey

/-- The flow that puts a key in force, with a token in place of the key. -/
def Flow.bearing : Flow where
  nodes :=
    [⟨"key", .auth (.bearer "token"), {}⟩, ⟨"user", .assignment ⟨"user", .string "Ada"⟩, {}⟩,
      ⟨"ask", .request ⟨.get, "http://localhost", Dict.empty.insert "X-Key" "none", .none⟩, {}⟩]
  edges := [⟨"e0", "key", "user", none, {}⟩, ⟨"e1", "user", "ask", none, {}⟩]

def Graph.bearing : Graph where
  flow := .bearing
  entry := ⟨"key", .auth (.bearer "token"), {}⟩

theorem Flow.resigns_bearing : Flow.signing.Resigns .bearing where
  nodes := .cons ⟨rfl, rfl, .inr ⟨_, _, rfl, rfl⟩⟩
    (.cons ⟨rfl, rfl, .inl rfl⟩ (.cons ⟨rfl, rfl, .inl rfl⟩ .nil))
  edges := rfl

namespace Journey

def bearingStart : Journey := start .bearing 0 0 {} 7 0 signingStart.transport

theorem bearing_conceals :
    Graph.build .signing = .ok .signing ∧ Graph.build .bearing = .ok .bearing ∧
      (signingStart.afterAll [.look, .look, .look]).Granted ∧
      (bearingStart.afterAll [.look, .look, .look]).Granted ∧
      (signingStart.afterAll [.look, .look, .look]).Twins
        (bearingStart.afterAll [.look, .look, .look]) ∧
      (bearingStart.afterAll [.look, .look, .look]).transport.sent ≠
        (signingStart.afterAll [.look, .look, .look]).transport.sent := by
  have built : Graph.build .signing = .ok .signing := rfl
  have otherBuilt : Graph.build .bearing = .ok .bearing := rfl
  have granted : (signingStart.afterAll [.look, .look, .look]).Granted := by decide
  have otherGranted : (bearingStart.afterAll [.look, .look, .look]).Granted := by decide
  have conceals := build_conceals built otherBuilt Flow.resigns_bearing 0 0 {} 7 0
    signingStart.transport [.look, .look, .look] granted otherGranted
  refine ⟨built, otherBuilt, granted, otherGranted, conceals.1, ?_⟩
  decide

end Journey

end Scenario
