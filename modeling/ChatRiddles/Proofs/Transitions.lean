import ChatRiddles.Proofs.Automaton
import ChatRiddles.Proofs.FailedTurns
/-!
# One text, one transition

A text takes the first edge of its state that accepts it. The actions of the edge begin one after
another, each after the one before it is done. The first that fails ends the transition with its
failure, and the walk stays; if none fails, the walk goes on where the edge leads. A text that no
edge accepts begins nothing, and the walk stays.

So an edge that no text takes can be left out: one after an edge that accepts any text, and one that
asks for the same text as an edge before it.

Main definitions: `Definition.State.Takes`, `Walk.Makes` and `Definition.Spares`. Main statement:
`Walk.one_transition`.
-/

namespace ChatRiddles

/-! ## Deliveries in a row -/

/-- All deliveries in a row are made. -/
def Course.MakesAll (course : Course) (ds : List Delivery) : Prop :=
  ∀ i (h : i < ds.length), course i ds[i] = none

section Deliveries

variable {course : Course} {d : Delivery} {ds : List Delivery} {k : Nat} {e : DeliveryFailure}

theorem Course.MakesAll.cons (hd : course 0 d = none) (h : course.next.MakesAll ds) :
    course.MakesAll (d :: ds) := by
  intro i hi
  cases i with
  | zero => exact hd
  | succ i => exact h i (Nat.lt_of_succ_lt_succ hi)

theorem Course.MakesAll.head (h : course.MakesAll (d :: ds)) : course 0 d = none :=
  h 0 (Nat.succ_pos _)

theorem Course.MakesAll.tail (h : course.MakesAll (d :: ds)) : course.next.MakesAll ds := by
  intro i hi
  exact h (i + 1) (Nat.succ_lt_succ hi)

/-- In front of a delivery that is made, the place is one farther. -/
theorem Course.FailsAt.cons (hd : course 0 d = none) (h : course.next.FailsAt ds k e) :
    course.FailsAt (d :: ds) (k + 1) e := by
  obtain ⟨hk, he⟩ := h.fails
  refine ⟨?_, Nat.succ_lt_succ hk, he⟩
  intro i hi hik
  cases i with
  | zero => exact hd
  | succ i => exact h.made i (Nat.lt_of_succ_lt_succ hi) (Nat.lt_of_succ_lt_succ hik)

/-- Either all deliveries are made or there is a first that fails. -/
theorem Course.makesAll_or_failsAt (course : Course) (ds : List Delivery) :
    course.MakesAll ds ∨ ∃ k e, course.FailsAt ds k e := by
  induction ds generalizing course with
  | nil =>
    left
    intro i hi
    exact absurd hi (Nat.not_lt_zero i)
  | cons d rest ih =>
    cases hd : course 0 d with
    | some e =>
      right
      refine ⟨0, e, ?_, Nat.succ_pos _, hd⟩
      intro i _ hi
      exact absurd hi (Nat.not_lt_zero i)
    | none =>
      rcases ih course.next with h | ⟨k, e, h⟩
      · exact .inl (h.cons hd)
      · exact .inr ⟨k + 1, e, h.cons hd⟩

/-- If all deliveries are made, all are reported. -/
theorem deliverAllIn_of_makesAll (h : course.MakesAll ds) :
    deliverAllIn course ds = (ds, none) := by
  induction ds generalizing course with
  | nil => rfl
  | cons d rest ih => rw [deliverAllIn_cons_of_none h.head, ih h.tail]

end Deliveries

namespace Definition

/-! ## The edge that is taken -/

/-- The edge at an index is the first of a state that accepts a text. -/
structure State.Takes (s : State) (text : String) (index : Nat) (e : Edge) : Prop where
  stands : s.edges[index]? = some e
  accepts : e.prompt.accepts text = true
  first : ∀ i < index, ∀ e', s.edges[i]? = some e' → e'.prompt.accepts text = false

variable {d : Definition} {s : State} {state text : String} {index : Nat} {e : Edge}

/-- The edge that is found is the first that accepts the text. -/
theorem State.edgeFor?_eq_some_iff :
    s.edgeFor? text = some (index, e) ↔ s.Takes text index e := by
  unfold State.edgeFor?
  rw [Option.map_eq_some_iff]
  constructor
  · rintro ⟨⟨e', i⟩, hfind, heq⟩
    obtain ⟨rfl, rfl⟩ := Prod.mk.inj heq
    obtain ⟨haccepts, i, hi, hget, hfirst⟩ := List.find?_eq_some_iff_getElem.mp hfind
    rw [List.getElem_zipIdx, Nat.zero_add] at hget
    obtain ⟨rfl, rfl⟩ := Prod.mk.inj hget
    rw [List.length_zipIdx] at hi
    refine ⟨List.getElem?_eq_getElem hi, haccepts, ?_⟩
    intro j hj e' he'
    have hbefore := hfirst j hj
    rw [List.getElem_zipIdx] at hbefore
    obtain ⟨hj', rfl⟩ := List.getElem?_eq_some_iff.mp he'
    simpa using hbefore
  · rintro ⟨hstands, haccepts, hfirst⟩
    obtain ⟨hi, rfl⟩ := List.getElem?_eq_some_iff.mp hstands
    refine ⟨(s.edges[index], index), ?_, rfl⟩
    apply List.find?_eq_some_iff_getElem.mpr
    refine ⟨haccepts, index, by rwa [List.length_zipIdx], ?_, ?_⟩
    · rw [List.getElem_zipIdx, Nat.zero_add]
    · intro j hj
      rw [List.getElem_zipIdx]
      have hj' : s.edges[j]? = some s.edges[j] := List.getElem?_eq_getElem (Nat.lt_trans hj hi)
      simpa using hfirst j hj _ hj'

theorem State.edgeFor?_eq_none_iff :
    s.edgeFor? text = none ↔ ∀ e ∈ s.edges, e.prompt.accepts text = false := by
  have hsnd : s.edgeFor? text = none ↔ (s.edgeFor? text).map (·.2) = none :=
    Option.map_eq_none_iff.symm
  rw [hsnd, State.edgeFor?_snd, List.find?_eq_none]
  simp only [Bool.not_eq_true]

/-! ## Edges that no text takes -/

/-- Edges from which some that no text takes are left out. -/
inductive Spares : List Edge → List Edge → Prop where
  -- those after an edge that accepts any text
  | afterEither {before after : List Edge} {e : Edge} (either : e.prompt = .either) :
      Spares (before ++ e :: after) (before ++ [e])
  -- one that asks for the same text as an edge before it
  | sameText {before between after : List Edge} {e e' : Edge} {content : String}
      (text : e.prompt = .text content) (again : e'.prompt = .text content) :
      Spares (before ++ e :: (between ++ e' :: after)) (before ++ e :: (between ++ after))

/-- A definition with other edges in the state of a name. -/
def withEdges (d : Definition) (name : String) (edges : List Edge) : Definition :=
  { d with states := d.states.map fun s => if s.name = name then ⟨s.name, edges⟩ else s }

/-- Edges that can be spared are never found. -/
theorem find?_of_spares {edges edges' : List Edge} (h : Spares edges edges') (text : String) :
    edges'.find? (·.prompt.accepts text) = edges.find? (·.prompt.accepts text) := by
  let p (e : Edge) : Bool := e.prompt.accepts text
  show edges'.find? p = edges.find? p
  cases h with
  | @afterEither before after e either =>
    have haccepts : p e = true := by
      show e.prompt.accepts text = true
      rw [either]
      rfl
    rw [List.find?_append, List.find?_append, List.find?_cons_of_pos haccepts,
      List.find?_cons_of_pos haccepts]
  | @sameText before between after e e' content asks again =>
    rw [List.find?_append, List.find?_append]
    by_cases haccepts : p e = true
    · rw [List.find?_cons_of_pos haccepts, List.find?_cons_of_pos haccepts]
    · -- what the first edge refuses, the second refuses too
      have hagain : ¬ p e' = true := by
        show ¬ e'.prompt.accepts text = true
        rw [again, ← asks]
        exact haccepts
      rw [List.find?_cons_of_neg haccepts, List.find?_cons_of_neg haccepts, List.find?_append,
        List.find?_append, List.find?_cons_of_neg hagain]

/-- Changing the edges of a state changes no other. -/
theorem state?_withEdges (d : Definition) (name : String) (edges : List Edge) (other : String) :
    (d.withEdges name edges).state? other =
      (d.state? other).map fun s => if s.name = name then ⟨s.name, edges⟩ else s := by
  unfold state? withEdges
  rw [List.find?_map]
  congr 2
  funext s
  show ((if s.name = name then (⟨s.name, edges⟩ : State) else s).name == other) = _
  split
  · rfl
  · rfl

end Definition

namespace Walk

variable {d d' : Definition} {s : Definition.State} {state text : String} {course : Course}
  {chat : Int} {actions : List Action} {k : Nat} {e : DeliveryFailure}

/-! ## The steps that are made -/

/-- Each action begins when the one before it is done, and all are done. -/
def inTurn (actions : List Action) : List Event :=
  actions.flatMap fun a => [.started a, .finished a]

/-- The step that a text makes in a state of a name: what is begun, delivered and done, how it
fails, and where the walk is then. -/
inductive Makes (course : Course) (chat : Int) (state : String) (s : Definition.State)
    (text : String) : Step → Prop where
  | stays (refused : ∀ e ∈ s.edges, e.prompt.accepts text = false) :
      Makes course chat state s text ⟨none, [], [], none, state⟩
  | goes {index : Nat} {edge : Definition.Edge} (takes : s.Takes text index edge)
      (made : course.MakesAll (edge.actions.map (·.delivery chat))) :
      Makes course chat state s text
        ⟨some index, inTurn edge.actions, edge.actions.map (·.delivery chat), none,
          edge.next.getD state⟩
  -- an edge is taken, and one of its actions is the first to fail
  | fails {index k : Nat} {edge : Definition.Edge} {a : Action} {e : DeliveryFailure}
      (takes : s.Takes text index edge) (action : edge.actions[k]? = some a)
      (failed : course.FailsAt (edge.actions.map (·.delivery chat)) k e) :
      Makes course chat state s text
        ⟨some index, inTurn (edge.actions.take k) ++ [.started a],
          (edge.actions.take k).map (·.delivery chat), some e, state⟩

/-- If all deliveries are made, each action begins and is done. -/
theorem eventsIn_of_makesAll (h : course.MakesAll (actions.map (·.delivery chat))) :
    eventsIn course chat actions = inTurn actions := by
  induction actions generalizing course with
  | nil => rfl
  | cons a rest ih =>
    rw [eventsIn, h.head]
    simp only [ih h.tail]
    rfl

/-- At the first that fails, the action begins, and nothing follows. -/
theorem eventsIn_of_failsAt {a : Action} (ha : actions[k]? = some a)
    (h : course.FailsAt (actions.map (·.delivery chat)) k e) :
    eventsIn course chat actions = inTurn (actions.take k) ++ [.started a] := by
  induction actions generalizing course k with
  | nil => cases ha
  | cons a' rest ih =>
    cases k with
    | zero =>
      obtain ⟨_, he⟩ := h.fails
      have hfails : course 0 (a'.delivery chat) = some e := he
      obtain rfl := Option.some.inj ha
      rw [eventsIn, hfails]
      rfl
    | succ k =>
      have hmade : course 0 (a'.delivery chat) = none := h.made 0 (Nat.succ_pos _) (Nat.succ_pos k)
      rw [eventsIn, hmade]
      simp only [ih ha h.tail]
      rfl

/-- A step from a known state is what its edge does, if there is one. -/
theorem stepIn_of_edgeFor? (hs : d.state? state = some s) :
    stepIn d course chat state text =
      match s.edgeFor? text with
      | none => .ok ⟨none, [], [], none, state⟩
      | some (index, edge) =>
        let (sent, failure) := deliverAllIn course (edge.actions.map (·.delivery chat))
        .ok ⟨some index, eventsIn course chat edge.actions, sent, failure,
          if failure.isSome then state else edge.target state⟩ := by
  unfold stepIn
  rw [chooseEdge_of_state hs]
  cases s.edgeFor? text with
  | none => rfl
  | some taken => rfl

/-- What is told of a step is made. -/
theorem stepIn_of_makes {made : Step} (hs : d.state? state = some s)
    (h : Makes course chat state s text made) :
    stepIn d course chat state text = .ok made := by
  rw [stepIn_of_edgeFor? hs]
  cases h with
  | stays refused => rw [Definition.State.edgeFor?_eq_none_iff.mpr refused]
  | goes takes all =>
    rw [Definition.State.edgeFor?_eq_some_iff.mpr takes]
    simp only [deliverAllIn_of_makesAll all, eventsIn_of_makesAll all]
    rfl
  | fails takes action failed =>
    rw [Definition.State.edgeFor?_eq_some_iff.mpr takes]
    simp only [deliverAllIn_of_failsAt failed, eventsIn_of_failsAt action failed, List.map_take]
    rfl

/-- One of the steps that are told is made. -/
theorem exists_makes (course : Course) (chat : Int) (state : String) (s : Definition.State)
    (text : String) : ∃ made, Makes course chat state s text made := by
  cases hedge : s.edgeFor? text with
  | none => exact ⟨_, .stays (Definition.State.edgeFor?_eq_none_iff.mp hedge)⟩
  | some taken =>
    obtain ⟨index, edge⟩ := taken
    have htakes := Definition.State.edgeFor?_eq_some_iff.mp hedge
    have hcourse := course.makesAll_or_failsAt (edge.actions.map (·.delivery chat))
    rcases hcourse with hall | ⟨k, e, hfails⟩
    · exact ⟨_, .goes htakes hall⟩
    · obtain ⟨hk, -⟩ := hfails.fails
      rw [List.length_map] at hk
      exact ⟨_, .fails htakes (List.getElem?_eq_getElem hk) hfails⟩

/-- A step without the index of its edge. -/
def Step.unnumbered (made : Step) : Step := { made with edge := none }

/-- Where the same edge is chosen, the same step is made, whatever the indices are. -/
theorem unnumbered_stepIn_congr
    (h : (chooseEdge d' state text).map (·.map (·.2)) =
      (chooseEdge d state text).map (·.map (·.2))) :
    (stepIn d' course chat state text).map Step.unnumbered =
      (stepIn d course chat state text).map Step.unnumbered := by
  unfold stepIn
  cases hd' : chooseEdge d' state text with
  | error unknown' =>
    cases hd : chooseEdge d state text with
    | error unknown =>
      rw [hd', hd] at h
      rw [Except.error.inj h]
    | ok taken =>
      rw [hd', hd] at h
      cases h
  | ok taken' =>
    cases hd : chooseEdge d state text with
    | error unknown =>
      rw [hd', hd] at h
      cases h
    | ok taken =>
      rw [hd', hd] at h
      have hedge : taken'.map (·.2) = taken.map (·.2) := Except.ok.inj h
      cases taken' with
      | none =>
        cases taken with
        | none => rfl
        | some _ => cases hedge
      | some taken' =>
        cases taken with
        | none => cases hedge
        | some taken =>
          obtain ⟨index', edge'⟩ := taken'
          obtain ⟨index, edge⟩ := taken
          obtain rfl : edge' = edge := Option.some.inj hedge
          rfl

/-- Where edges that no text takes are left out, the same edge is chosen. -/
theorem chooseEdge_withEdges {edges : List Definition.Edge} (hs : d.state? state = some s)
    (h : Definition.Spares s.edges edges) (other text : String) :
    (chooseEdge (d.withEdges state edges) other text).map (·.map (·.2)) =
      (chooseEdge d other text).map (·.map (·.2)) := by
  cases hother : d.state? other with
  | none => simp only [chooseEdge, Definition.state?_withEdges, hother, Option.map_none]
  | some s' =>
    have hwith := Definition.state?_withEdges d state edges other
    rw [hother, Option.map_some] at hwith
    rw [chooseEdge_of_state hwith, chooseEdge_of_state hother]
    apply congrArg Except.ok
    show (Definition.State.edgeFor? _ _).map (·.2) = (s'.edgeFor? text).map (·.2)
    rw [Definition.State.edgeFor?_snd, Definition.State.edgeFor?_snd]
    split
    next hname =>
      -- the state is the one whose edges are others
      have hnamed : s'.name = other := by simpa using List.find?_some hother
      obtain rfl : s = s' := by
        rw [← hnamed, hname, hs] at hother
        exact Option.some.inj hother
      exact Definition.find?_of_spares h text
    next => rfl

/-! ## One text -/

/-- In a state of a definition a text makes exactly the step that is told by the edges of the state
and by the deliveries that fail. If no edge accepts the text, nothing is begun and the walk stays.
Otherwise the first edge that accepts it is taken: its actions begin in order, each after the one
before it is done, up to the last or to the first that fails. If none fails, the walk goes where the
edge leads, or stays if it leads nowhere; otherwise the step ends with that failure. Without edges
that no text takes the same steps are made, but for the indices of edges. -/
theorem one_transition (hs : d.state? state = some s) :
    (∀ course chat text,
      (∃ made, stepIn d course chat state text = .ok made) ∧
        ∀ made, stepIn d course chat state text = .ok made ↔
          Makes course chat state s text made) ∧
      ∀ edges, Definition.Spares s.edges edges → ∀ course chat other text,
        (stepIn (d.withEdges state edges) course chat other text).map Step.unnumbered =
          (stepIn d course chat other text).map Step.unnumbered := by
  constructor
  · intro course chat text
    obtain ⟨made, hmakes⟩ := exists_makes course chat state s text
    have hmade := stepIn_of_makes hs hmakes
    refine ⟨⟨made, hmade⟩, ?_⟩
    intro made'
    constructor
    · intro hmade'
      rw [hmade] at hmade'
      rw [← Except.ok.inj hmade']
      exact hmakes
    · exact stepIn_of_makes hs
  · intro edges hspares course chat other text
    exact unnumbered_stepIn_congr (chooseEdge_withEdges hs hspares other text)

/-- An edge that opens a gate and tells another chat about it. -/
def opening : Definition.Edge :=
  ⟨.text "open", [.message "One moment", .sendTo 9 "Somebody comes", .message "Come in"], some "b"⟩

/-- An edge that turns away. -/
def turningAway : Definition.Edge := ⟨.either, [.message "Go away"], none⟩

/-- An edge that nobody gets to, because it stands behind the others. -/
def tooLate : Definition.Edge := ⟨.text "please", [.message "Welcome"], some "b"⟩

/-- A gate, in whose first state some edges are taken by no text. -/
def gate : Definition :=
  ⟨"a", ["b"], [⟨"a", [opening, opening, turningAway, tooLate]⟩, ⟨"b", []⟩]⟩

/-- The second delivery fails, the third is not begun; and some edges of the gate can be left
out. -/
theorem one_transition_gate :
    let course : Course := fun n _ => if n = 1 then some (.failed ⟨"transport down"⟩) else none
    stepIn gate course 1 "a" "open" =
        .ok ⟨some 0, [.started (.message "One moment"), .finished (.message "One moment"),
            .started (.sendTo 9 "Somebody comes")],
          [⟨1, "One moment"⟩], some (.failed ⟨"transport down"⟩), "a"⟩ ∧
      ∀ edges ∈ [[opening, opening, turningAway], [opening, turningAway, tooLate]], ∀ text,
        (stepIn (gate.withEdges "a" edges) course 1 "a" text).map Step.unnumbered =
          (stepIn gate course 1 "a" text).map Step.unnumbered := by
  intro course
  have hstate : gate.state? "a" = some ⟨"a", [opening, opening, turningAway, tooLate]⟩ := rfl
  obtain ⟨hmade, hspared⟩ := one_transition hstate
  constructor
  · apply ((hmade course 1 "open").2 _).mpr
    have htakes : Definition.State.Takes ⟨"a", [opening, opening, turningAway, tooLate]⟩ "open" 0
        opening := by
      refine ⟨rfl, rfl, ?_⟩
      intro i hi
      exact absurd hi (Nat.not_lt_zero i)
    have hfails : course.FailsAt (opening.actions.map (·.delivery 1)) 1
        (.failed ⟨"transport down"⟩) :=
      ⟨by decide, by decide⟩
    exact .fails htakes rfl hfails
  · intro edges hedges text
    apply hspared
    rcases List.mem_pair.mp hedges with rfl | rfl
    · exact @Definition.Spares.afterEither [opening, opening] [tooLate] turningAway rfl
    · exact @Definition.Spares.sameText [] [] [turningAway, tooLate] opening opening "open" rfl rfl

end Walk

end ChatRiddles
