import ChatRiddles.Proofs.InputForms
import ChatRiddles.Proofs.Transitions
/-!
# Walks among the states of a definition

The compiler checks that a definition has all states that it speaks of, and a walk goes only where
an edge leads. So a walk that begins in a state of a compiled definition stays among its states,
whatever texts come and whatever deliveries fail, and no text is for a state that there is not.

Main definitions: `Definition.Compiled`, `Walk.stepsIn` and `Walk.Track`. Main statement:
`Walk.compiled_closed`.
-/

namespace ChatRiddles

namespace Definition

/-- A definition is what something is compiled to. -/
inductive Compiled (d : Definition) : Prop where
  | document {document : Document} (h : ofDocument document = .ok d)
  | value {form : Shape.Form} {v : Json} (h : ofJsonIn form v = .ok d)
  | bytes {bytes : List UInt8} (h : ofBytes bytes = .ok d)
  | text {text : String} (h : ofText text = .ok d)

variable {d : Definition}

/-- What compiles from a value, in either form, is closed. -/
theorem closed_of_ofJsonIn {form : Shape.Form} {v : Json} (h : ofJsonIn form v = .ok d) :
    d.Closed := by
  obtain ⟨document, -, hdocument⟩ := ofJsonIn_eq_ok_iff.mp h
  exact closed_of_ofDocument hdocument

theorem closed_of_ofBytes {bytes : List UInt8} (h : ofBytes bytes = .ok d) : d.Closed := by
  cases hread : Json.ofDocumentText bytes with
  | error fault =>
    rw [ofBytes, hread] at h
    cases h
  | ok v =>
    rw [ofBytes_of_ofDocumentText hread] at h
    exact closed_of_ofJsonIn h

/-- Whatever it has been compiled from, a definition has all states that it speaks of. -/
theorem Compiled.closed (h : d.Compiled) : d.Closed := by
  cases h with
  | document h => exact closed_of_ofDocument h
  | value h => exact closed_of_ofJsonIn h
  | bytes h => exact closed_of_ofBytes h
  | text h => exact closed_of_ofBytes h

end Definition

namespace Walk

/-- A text with the course of the deliveries that it brings about. -/
structure Entry where
  text : String
  course : Course

/-- The steps that texts make one after another, each in its own course of deliveries. -/
def stepsIn (d : Definition) (chat : Int) : String → List Entry → List (Except UnknownState Step)
  | _, [] => []
  | state, entry :: rest =>
    let made := stepIn d entry.course chat state entry.text
    let next := match made with
      | .ok s => s.state
      | .error _ => state
    made :: stepsIn d chat next rest

/-- Why a text leaves the walk where it was: no edge accepts it, a delivery fails, or the first edge
that accepts it leads nowhere. -/
inductive Stays (s : Definition.State) (text : String) (step : Step) : Prop where
  | refused (refused : ∀ e ∈ s.edges, e.prompt.accepts text = false)
  | failed (failed : step.failure.isSome)
  | nowhere {index : Nat} {edge : Definition.Edge} (takes : s.Takes text index edge)
      (leads : edge.next = none)

/-- Steps that texts make one after another among the states of a definition: the walk stays where
it was for a reason, or no delivery fails and it goes where the first edge that accepts the text
leads. -/
inductive Track (d : Definition) : String → List String → List Step → Prop where
  | done {state : String} (known : (d.state? state).isSome) : Track d state [] []
  | stays {state text : String} {texts : List String} {step : Step} {steps : List Step}
      {s : Definition.State} (known : d.state? state = some s) (why : Stays s text step)
      (same : step.state = state) (rest : Track d step.state texts steps) :
      Track d state (text :: texts) (step :: steps)
  | goes {state text : String} {texts : List String} {step : Step} {steps : List Step}
      {s : Definition.State} {index : Nat} {edge : Definition.Edge}
      (known : d.state? state = some s) (takes : s.Takes text index edge)
      (taken : step.edge = some index) (made : step.failure = none)
      (leads : edge.next = some step.state) (rest : Track d step.state texts steps) :
      Track d state (text :: texts) (step :: steps)

variable {d : Definition} {state text : String} {texts : List String} {step : Step}
  {steps : List Step}

/-- All states on the way are states of the definition. -/
theorem Track.known (h : Track d state texts steps) :
    (d.state? state).isSome ∧ ∀ step ∈ steps, (d.state? step.state).isSome := by
  induction h with
  | done known => exact ⟨known, fun _ hmem => absurd hmem List.not_mem_nil⟩
  | stays known why same rest ih =>
    exact ⟨Option.isSome_iff_exists.mpr ⟨_, known⟩, List.forall_mem_cons.mpr ih⟩
  | goes known takes taken made leads rest ih =>
    exact ⟨Option.isSome_iff_exists.mpr ⟨_, known⟩, List.forall_mem_cons.mpr ih⟩

/-- In a state of a closed definition a text makes a step, with which the walk stays or goes on to
another of its states. -/
theorem exists_stepIn (h : d.Closed) (hs : (d.state? state).isSome) (course : Course) (chat : Int)
    (text : String) :
    ∃ step, stepIn d course chat state text = .ok step ∧ (d.state? step.state).isSome ∧
      ∀ texts steps, Track d step.state texts steps →
        Track d state (text :: texts) (step :: steps) := by
  obtain ⟨s, hs'⟩ := Option.isSome_iff_exists.mp hs
  obtain ⟨step, hmakes⟩ := exists_makes course chat state s text
  refine ⟨step, stepIn_of_makes hs' hmakes, ?_⟩
  cases hmakes with
  | stays refused => exact ⟨hs, fun _ _ rest => .stays hs' (.refused refused) rfl rest⟩
  | fails takes action failed => exact ⟨hs, fun _ _ rest => .stays hs' (.failed rfl) rfl rest⟩
  | @goes index edge takes made =>
    cases hnext : edge.next with
    | none => exact ⟨hs, fun _ _ rest => .stays hs' (.nowhere takes hnext) rfl rest⟩
    | some target =>
      have hedge : edge ∈ s.edges := List.mem_of_getElem? takes.stands
      have htarget := h.next s (List.mem_of_find?_eq_some hs') edge hedge target hnext
      exact ⟨htarget, fun _ _ rest => .goes hs' takes rfl rfl hnext rest⟩

/-- From a state of a closed definition every text makes a step, and the steps are a track. -/
theorem exists_stepsIn (h : d.Closed) (hs : (d.state? state).isSome) (chat : Int)
    (entries : List Entry) :
    ∃ steps : List Step, stepsIn d chat state entries = steps.map .ok ∧
      Track d state (entries.map (·.text)) steps := by
  induction entries generalizing state with
  | nil => exact ⟨[], rfl, .done hs⟩
  | cons entry rest ih =>
    obtain ⟨step, hstep, hknown, hextends⟩ := exists_stepIn h hs entry.course chat entry.text
    obtain ⟨steps, hsteps, htrack⟩ := ih hknown
    -- the walk goes on from the state after the step, so the rest begins there
    refine ⟨step :: steps, ?_, hextends _ _ htrack⟩
    rw [stepsIn, hstep]
    exact congrArg (Except.ok step :: ·) hsteps

/-- The initial state and the accepting states of a compiled definition are among its states. A walk
that begins in one of its states stays among them, whatever texts come and whatever deliveries fail:
every text finds the edges of its state and makes a step. With the step the walk stays where it was,
because no edge accepts the text, a delivery fails or the edge leads nowhere, or no delivery fails
and it goes where the first edge that accepts the text leads. -/
theorem compiled_closed (h : d.Compiled) :
    (d.state? d.initialState).isSome ∧ (∀ name ∈ d.acceptingStates, (d.state? name).isSome) ∧
      ∀ state, (d.state? state).isSome →
        (∀ text, ∃ taken, chooseEdge d state text = .ok taken) ∧
          ∀ chat entries, ∃ steps : List Step, stepsIn d chat state entries = steps.map .ok ∧
            (∀ step ∈ steps, (d.state? step.state).isSome) ∧
              Track d state (entries.map (·.text)) steps := by
  have hclosed := h.closed
  refine ⟨hclosed.initial, hclosed.accepting, ?_⟩
  intro state hs
  constructor
  · intro text
    obtain ⟨s, hs'⟩ := Option.isSome_iff_exists.mp hs
    exact ⟨_, chooseEdge_of_state hs'⟩
  · intro chat entries
    obtain ⟨steps, hsteps, htrack⟩ := exists_stepsIn hclosed hs chat entries
    exact ⟨steps, hsteps, htrack.known.2, htrack⟩

/-- At the gate the first text fails at its second delivery and leaves the walk where it was, the
second is made, and the third finds no edge. -/
theorem compiled_closed_gate :
    let failing : Course := fun n _ => if n = 1 then some (.failed ⟨"transport down"⟩) else none
    let made : Course := fun _ _ => none
    gate.Compiled ∧ ∃ steps : List Step,
      stepsIn gate 1 "a" [⟨"open", failing⟩, ⟨"open", made⟩, ⟨"open", failing⟩] =
        steps.map .ok ∧
      steps.map (·.state) = ["a", "b", "b"] ∧
      ∀ step ∈ steps, (gate.state? step.state).isSome := by
  intro failing made
  have hdocument : Definition.ofDocument gate.toDocument = .ok gate := rfl
  have hcompiled : gate.Compiled := .document hdocument
  have hstates : (stepsIn gate 1 "a" [⟨"open", failing⟩, ⟨"open", made⟩, ⟨"open", failing⟩]).map
      (·.toOption.map (·.state)) = ["a", "b", "b"].map some := rfl
  obtain ⟨-, -, hwalks⟩ := compiled_closed hcompiled
  obtain ⟨steps, hsteps, hknown, -⟩ :=
    (hwalks "a" rfl).2 1 [⟨"open", failing⟩, ⟨"open", made⟩, ⟨"open", failing⟩]
  refine ⟨hcompiled, steps, hsteps, ?_, hknown⟩
  rw [hsteps, List.map_map] at hstates
  apply List.map_injective_iff.mpr (Option.some_injective String)
  rw [List.map_map]
  exact hstates

end Walk

end ChatRiddles
