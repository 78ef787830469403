import ChatRiddles.Proofs.Failures
import ChatRiddles.Proofs.InputForms
/-!
# The first fault of a document

A document is compiled in two passes. The first goes through the states: the name of a state must be
new, and then its patterns must compile. The second goes through what the document speaks of: the
initial state, the accepting states, and the states that edges lead to. A document that has any
fault is rejected for the one that comes first in this order, however many come after it, and the
message names it.

Main statement: `Definition.reports_first_fault`.
-/

namespace ChatRiddles

namespace Document

open Definition (LeadsTo Rejection)
open Text (quoted)

/-- The first fault of a state after states with some names, and its message. -/
inductive State.FirstFault (names : List String) (s : State) : Rejection → String → Prop where
  -- its name is one of them, whatever its patterns are
  | duplicate (again : s.name ∈ names) :
      FirstFault names s (.duplicateState s.name) ("Duplicate state " ++ quoted s.name)
  -- the pattern of an edge does not compile, and those of the edges before it do
  | pattern {tried : List Edge} {e : Edge} {left : List Edge} {content : String}
      {fault : Pattern.Fault} (new : s.name ∉ names) (edges : s.edges = tried ++ e :: left)
      (before : ∀ e' ∈ tried, e'.Compiles) (prompt : e.prompt = .regex content)
      (refused : Pattern.ofSource content = .error (.fault fault)) :
      FirstFault names s (.badPattern content s.name fault)
        ("Invalid regex " ++ quoted content ++ " in state " ++ quoted s.name ++ ": " ++
          fault.message content.toList)

/-- The first fault of a document, and its message. -/
inductive FirstFault (d : Document) : Rejection → String → Prop where
  -- a state has a fault, and the states before it have none
  | state {done : List State} {s : State} {left : List State} {r : Rejection} {message : String}
      (states : d.states = done ++ s :: left) (before : StatesSound done)
      (first : s.FirstFault (done.map (·.name)) r message) : FirstFault d r message
  -- the initial state is none of the states, which have no faults
  | initial (states : StatesSound d.states) (unknown : d.initialState ∉ d.states.map (·.name)) :
      FirstFault d (.undefinedInitial d.initialState)
        ("Initial state " ++ quoted d.initialState ++ " is not defined")
  -- an accepting state is none of the states, and those before it are
  | accepting {done : List String} {name : String} {left : List String}
      (states : StatesSound d.states) (initial : d.initialState ∈ d.states.map (·.name))
      (names : d.acceptingStates = done ++ name :: left)
      (before : ∀ name' ∈ done, name' ∈ d.states.map (·.name))
      (unknown : name ∉ d.states.map (·.name)) :
      FirstFault d (.undefinedAccepting name)
        ("Accepting state " ++ quoted name ++ " is not defined")
  -- An edge leads to none of the states, and the edges before it do not, neither in the states
  -- before nor in this state. Its index is the number of those in this state.
  | target {done : List State} {s : State} {left : List State} {tried : List Edge} {e : Edge}
      {rest : List Edge} {target : String} (sound : StatesSound d.states)
      (initial : d.initialState ∈ d.states.map (·.name))
      (accepting : ∀ name ∈ d.acceptingStates, name ∈ d.states.map (·.name))
      (states : d.states = done ++ s :: left)
      (before : ∀ s' ∈ done, ∀ e' ∈ s'.edges, LeadsTo (d.states.map (·.name)) e'.next)
      (edges : s.edges = tried ++ e :: rest)
      (edgesBefore : ∀ e' ∈ tried, LeadsTo (d.states.map (·.name)) e'.next)
      (next : e.next = some target) (unknown : target ∉ d.states.map (·.name)) :
      FirstFault d (.undefinedTarget tried.length s.name target)
        ("Edge " ++ Number.integerText tried.length ++ " of state " ++ quoted s.name ++
          " points to undefined state " ++ quoted target)

end Document

namespace Definition

variable {doc : Document} {r : Rejection} {message : String}

/-- A state is rejected for its first fault. -/
theorem stateFails_rejected_iff {names : List String} {s : Document.State} :
    StateFails names s (.rejected r) ∧ r.message = message ↔ s.FirstFault names r message := by
  rw [StateFails, compileEdges_eq_error_iff]
  simp only [compilePrompt_eq_error_iff]
  constructor
  · rintro ⟨⟨again, h⟩ | ⟨new, tried, e, left, edges, before, content, prompt, h⟩, rfl⟩
    · obtain rfl := Failure.rejected.inj h
      exact .duplicate again
    · obtain ⟨fault, refused, h⟩ | ⟨_, -, h⟩ := h
      · obtain rfl := Failure.rejected.inj h
        exact .pattern new edges before prompt refused
      · cases h
  · intro h
    cases h with
    | duplicate again => exact ⟨.inl ⟨again, rfl⟩, rfl⟩
    | @pattern tried e left content fault new edges before prompt refused =>
      exact ⟨.inr ⟨new, tried, e, left, edges, before, content, prompt,
        .inl ⟨fault, refused, rfl⟩⟩, rfl⟩

/-- The states of a document are rejected for the first fault of the first state that has one. -/
theorem compileStates_eq_rejected_iff {l : List Document.State} :
    compileStates [] l = .error (.rejected r) ∧ r.message = message ↔
      ∃ done s left, l = done ++ s :: left ∧ Document.StatesSound done ∧
        s.FirstFault (done.map (·.name)) r message := by
  rw [compileStates_eq_error_iff]
  simp only [← stateFails_rejected_iff, List.append_nil]
  constructor
  · rintro ⟨⟨done, s, left, h, before, -, first⟩, rfl⟩
    exact ⟨done, s, left, h, before, first, rfl⟩
  · rintro ⟨done, s, left, h, before, first, rfl⟩
    exact ⟨⟨done, s, left, h, before, fun _ _ h => (nomatch h), first⟩, rfl⟩

/-- A document is rejected for its first fault, and for nothing else. -/
theorem ofDocument_eq_rejected_iff :
    ofDocument doc = .error (.rejected r) ∧ r.message = message ↔ doc.FirstFault r message := by
  rw [ofDocument_eq_error_iff, or_and_right, compileStates_eq_rejected_iff]
  simp only [checkReferences_eq_error_iff, checkTargets_eq_error_iff, Nat.zero_add]
  constructor
  · rintro (⟨done, s, left, states, before, first⟩ | ⟨⟨sound, h⟩, rfl⟩)
    · exact .state states before first
    · -- the states have no faults, so one of the three kinds of references has the first
      obtain ⟨unknown, h⟩ | ⟨initial, ⟨done, name, left, names, before, unknown, h⟩ |
        ⟨accepting, done, s, left, states, before, tried, e, rest, edges, edgesBefore, target, next,
          unknown, h⟩⟩ := h
      · obtain rfl := Failure.rejected.inj h
        exact .initial sound unknown
      · obtain rfl := Failure.rejected.inj h
        exact .accepting sound initial names before unknown
      · obtain rfl := Failure.rejected.inj h
        exact .target sound initial accepting states before edges edgesBefore next unknown
  · intro h
    cases h with
    | @state done s left _ _ states before first =>
      exact .inl ⟨done, s, left, states, before, first⟩
    | initial sound unknown => exact .inr ⟨⟨sound, .inl ⟨unknown, rfl⟩⟩, rfl⟩
    | @accepting done name left sound initial names before unknown =>
      exact .inr ⟨⟨sound, .inr ⟨initial, .inl ⟨done, name, left, names, before, unknown, rfl⟩⟩⟩,
        rfl⟩
    | @target done s left tried e rest target sound initial accepting states before edges
        edgesBefore next unknown =>
      exact .inr ⟨⟨sound, .inr ⟨initial, .inr ⟨accepting, done, s, left, states, before, tried, e,
        rest, edges, edgesBefore, target, next, unknown, rfl⟩⟩⟩, rfl⟩

/-- Take a document with any fault, and let reading none of its patterns break down. It has exactly
one first fault, and it is rejected for that, in whatever form it is given, with the message that
names it. -/
theorem reports_first_fault
    (hreads : ∀ s ∈ doc.states, ∀ e ∈ s.edges, ∀ b, ¬ e.BreaksDown b) (hfault : ¬ doc.Sound) :
    ∃ r message, doc.FirstFault r message ∧
      (∀ r' message', doc.FirstFault r' message' → r' = r ∧ message' = message) ∧
      r.message = message ∧ ofDocument doc = .error (.rejected r) ∧
      (∀ form v, Document.DescribedBy v doc → ofJsonIn form v = .error (.rejected r)) ∧
      ∀ bytes v, Json.ofDocumentText bytes = .ok v → Document.DescribedBy v doc →
        ofBytes bytes = .error (.rejected r) := by
  -- the document does not compile, and it does not break down
  obtain ⟨r, hr⟩ : ∃ r, ofDocument doc = .error (.rejected r) := by
    cases h : ofDocument doc with
    | ok d => exact absurd (ofDocument_eq_ok_iff.mp h).1 hfault
    | error failure =>
      cases failure with
      | rejected r => exact ⟨r, rfl⟩
      | brokenDown b =>
        obtain ⟨_, s, _, hstates, -, -, _, e, _, hedges, -, hb⟩ := ofDocument_eq_brokenDown_iff.mp h
        refine absurd hb (hreads s ?_ e ?_ b)
        · exact hstates ▸ List.mem_append_right _ List.mem_cons_self
        · exact hedges ▸ List.mem_append_right _ List.mem_cons_self
  have hvalue : ∀ form v, Document.DescribedBy v doc → ofJsonIn form v = .error (.rejected r) := by
    intro form v hv
    rw [ofJsonIn_of_document form (Document.ofJson_eq_ok_iff.mpr hv), hr]
  refine ⟨r, r.message, ofDocument_eq_rejected_iff.mp ⟨hr, rfl⟩, ?_, rfl, hr, hvalue, ?_⟩
  · intro r' message' h
    obtain ⟨hr', rfl⟩ := ofDocument_eq_rejected_iff.mpr h
    obtain rfl : r' = r := Failure.rejected.inj (Except.error.inj (hr'.symm.trans hr))
    exact ⟨rfl, rfl⟩
  · intro bytes v hread hv
    rw [ofBytes_of_ofDocumentText hread]
    exact hvalue .text v hv

/-- The fault for which a pattern is refused, if it is. -/
def faultOf? : Except Pattern.Refusal Pattern → Option Pattern.Fault
  | .error (.fault fault) => some fault
  | _ => none

/-- A document with a fault of each kind. -/
def tangled : Document :=
  ⟨"c", ["d"], [⟨"a", [⟨.text "on", [], some "e"⟩]⟩, ⟨"b", []⟩, ⟨"a", [⟨.regex "(", [], none⟩]⟩]⟩

/-- The repeated name comes first, also before the pattern of its own state. -/
theorem reports_first_fault_tangled :
    (∀ s ∈ tangled.states, ∀ e ∈ s.edges, ∀ b, ¬ e.BreaksDown b) ∧ ¬ tangled.Sound ∧
      ofDocument tangled = .error (.rejected (.duplicateState "a")) ∧
      (Rejection.duplicateState "a").message = "Duplicate state 'a'" := by
  have hfault : ¬ tangled.Sound := fun h => absurd h.initial (by decide)
  have hrefused : (faultOf? (Pattern.ofSource "(")).isSome = true := by decide +kernel
  have hreads : ∀ s ∈ tangled.states, ∀ e ∈ s.edges, ∀ b, ¬ e.BreaksDown b := by
    simp only [tangled, List.forall_mem_cons, List.not_mem_nil, false_imp_iff, implies_true,
      and_true, true_and]
    constructor
    · rintro b ⟨content, h, -⟩
      cases h
    · rintro b ⟨content, h, hb⟩
      obtain rfl := Document.Prompt.regex.inj h
      rw [hb] at hrefused
      cases hrefused
  obtain ⟨r, message, -, hunique, hmessage, hr, -⟩ := reports_first_fault hreads hfault
  have hfirst : tangled.FirstFault (.duplicateState "a") "Duplicate state 'a'" := by
    have hstates : tangled.states = [⟨"a", [⟨.text "on", [], some "e"⟩]⟩, ⟨"b", []⟩] ++
        ⟨"a", [⟨.regex "(", [], none⟩]⟩ :: [] := rfl
    refine .state hstates ⟨by decide, ?_⟩ (.duplicate (by decide))
    simp [Document.Edge.Compiles]
  obtain ⟨rfl, rfl⟩ := hunique _ _ hfirst
  exact ⟨hreads, hfault, hr, hmessage⟩

end Definition

end ChatRiddles
