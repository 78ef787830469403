import ChatRiddles.Riddle.Walk
import Mathlib.Data.List.Forall2
/-!
# Compiled definitions are closed

A definition that has been compiled remembers its document, and all states that it speaks of are
states that it has: the initial state, the accepting states and the states that edges lead to. A
walk that starts in a state of such a definition never leaves its states.

Main statements: `Definition.toDocument_of_ofDocument`, `Definition.closed_of_ofDocument`.
-/

namespace ChatRiddles

/-! ## Computations that may fail -/

/-- A chain succeeds if both of its parts do. -/
theorem Except.bind_eq_ok {ε α β : Type} {x : Except ε α} {f : α → Except ε β} {y : β} :
    x >>= f = .ok y ↔ ∃ a, x = .ok a ∧ f a = .ok y := by
  cases x with
  | error e => exact ⟨fun h => (nomatch h), fun ⟨_, h, _⟩ => (nomatch h)⟩
  | ok a =>
    constructor
    · exact fun h => ⟨a, rfl, h⟩
    · rintro ⟨a', h, hf⟩
      obtain rfl := Except.ok.inj h
      exact hf

theorem Except.mapM_eq_ok {ε α β : Type} {f : α → Except ε β} {l : List α} {l' : List β}
    (h : l.mapM f = .ok l') : List.Forall₂ (fun a b => f a = .ok b) l l' := by
  induction l generalizing l' with
  | nil =>
    cases h
    exact .nil
  | cons a rest ih =>
    rw [List.mapM_cons] at h
    obtain ⟨b, hb, h⟩ := Except.bind_eq_ok.mp h
    obtain ⟨bs, hbs, h⟩ := Except.bind_eq_ok.mp h
    cases h
    exact .cons hb (ih hbs)

/-- Trying all succeeds exactly if each does. -/
theorem Except.forM_eq_ok_iff {ε α : Type} {f : α → Except ε Unit} {l : List α} :
    l.forM f = .ok () ↔ ∀ a ∈ l, f a = .ok () := by
  induction l with
  | nil => simp [List.forM, pure, Except.pure]
  | cons a rest ih =>
    show (f a >>= fun _ => rest.forM f) = .ok () ↔ _
    rw [Except.bind_eq_ok, List.forall_mem_cons]
    constructor
    · rintro ⟨_, ha, hr⟩
      exact ⟨ha, ih.mp hr⟩
    · rintro ⟨ha, hr⟩
      exact ⟨(), ha, ih.mpr hr⟩

namespace Definition

variable {d : Definition} {doc : Document}

/-! ## Compilation keeps the document -/

/-- A compiled prompt is written as the one that was compiled. -/
theorem toDocument_of_compilePrompt {state : String} {p : Document.Prompt} {p' : Prompt}
    (h : compilePrompt state p = .ok p') : p'.toDocument = p := by
  cases p with
  | text content =>
    obtain rfl := Except.ok.inj h
    rfl
  | regex content =>
    simp only [compilePrompt] at h
    split at h
    · rename_i pattern hp
      obtain rfl := Except.ok.inj h
      rw [Prompt.toDocument, Pattern.source_of_ofSource hp]
    · cases h
    · cases h
  | either =>
    obtain rfl := Except.ok.inj h
    rfl

theorem toDocument_of_compileEdge {state : String} {e : Document.Edge} {e' : Edge}
    (h : compileEdge state e = .ok e') : e'.toDocument = e := by
  obtain ⟨p, hp, h⟩ := Except.bind_eq_ok.mp h
  obtain rfl := Except.ok.inj h
  rw [Edge.toDocument, toDocument_of_compilePrompt hp]

/-- States are compiled one after another, and each has a name of its own. -/
theorem compileStates_cons {before : List String} {s : Document.State}
    {rest : List Document.State} {states : List State} :
    compileStates before (s :: rest) = .ok states ↔
      s.name ∉ before ∧ ∃ edges states', s.edges.mapM (compileEdge s.name) = .ok edges ∧
        compileStates (s.name :: before) rest = .ok states' ∧
        states = ⟨s.name, edges⟩ :: states' := by
  conv_lhs => unfold compileStates
  by_cases hc : before.contains s.name = true
  · have hm : s.name ∈ before := by simpa using hc
    rw [if_pos hc]
    exact ⟨fun h => (nomatch h), fun h => absurd hm h.1⟩
  · have hm : s.name ∉ before := by simpa using hc
    rw [if_neg hc]
    show (s.edges.mapM (compileEdge s.name) >>= _) = _ ↔ _
    rw [Except.bind_eq_ok]
    constructor
    · rintro ⟨edges, he, h⟩
      obtain ⟨states', hs, h⟩ := Except.bind_eq_ok.mp h
      exact ⟨hm, edges, states', he, hs, (Except.ok.inj h).symm⟩
    · rintro ⟨-, edges, states', he, hs, rfl⟩
      exact ⟨edges, he, Except.bind_eq_ok.mpr ⟨states', hs, rfl⟩⟩

theorem toDocument_of_compileStates {before : List String} {l : List Document.State}
    {states : List State} (h : compileStates before l = .ok states) :
    states.map State.toDocument = l := by
  induction l generalizing before states with
  | nil =>
    obtain rfl := Except.ok.inj h
    rfl
  | cons s rest ih =>
    obtain ⟨-, edges, states', he, hs, rfl⟩ := compileStates_cons.mp h
    have hedges : edges.map Edge.toDocument = s.edges := by
      have hf := (Except.mapM_eq_ok he).flip
      refine (List.forall₂_eq_eq_eq ▸ ?_ : edges.map Edge.toDocument = s.edges)
      rw [List.forall₂_map_left_iff]
      exact hf.imp fun _ _ h => toDocument_of_compileEdge h
    rw [List.map_cons, ih hs, State.toDocument, hedges]

/-- A document compiles if its states do and all references are to states. -/
theorem ofDocument_eq_ok : ofDocument doc = .ok d ↔
    ∃ states, compileStates [] doc.states = .ok states ∧
      checkReferences doc (doc.states.map (·.name)) = .ok () ∧
      d = ⟨doc.initialState, doc.acceptingStates, states⟩ := by
  unfold ofDocument
  rw [Except.bind_eq_ok]
  constructor
  · rintro ⟨states, hs, h⟩
    obtain ⟨_, hr, h⟩ := Except.bind_eq_ok.mp h
    exact ⟨states, hs, hr, (Except.ok.inj h).symm⟩
  · rintro ⟨states, hs, hr, rfl⟩
    exact ⟨states, hs, Except.bind_eq_ok.mpr ⟨(), hr, rfl⟩⟩

/-- A compiled definition remembers its document. -/
theorem toDocument_of_ofDocument (h : ofDocument doc = .ok d) : d.toDocument = doc := by
  obtain ⟨states, hs, -, rfl⟩ := ofDocument_eq_ok.mp h
  rw [toDocument, toDocument_of_compileStates hs]

/-! ## References -/

/-- An edge leads to one of some states, or stays. -/
def LeadsTo (names : List String) (next : Option String) : Prop :=
  ∀ target, next = some target → target ∈ names

/-- The targets of edges pass if each edge leads to a state or stays. -/
theorem checkTargets_eq_ok_iff {names : List String} {state : String} {index : Nat}
    {edges : List Document.Edge} :
    checkTargets names state index edges = .ok () ↔ ∀ e ∈ edges, LeadsTo names e.next := by
  induction edges generalizing index with
  | nil => simp [checkTargets]
  | cons e rest ih =>
    unfold checkTargets
    rw [List.forall_mem_cons, ← @ih (index + 1)]
    cases hn : e.next with
    | none => simp [LeadsTo]
    | some target =>
      by_cases hc : names.contains target = true
      · have hm : target ∈ names := by simpa using hc
        simp [LeadsTo, hm]
      · have hm : target ∉ names := by simpa using hc
        simp [LeadsTo, hm, reject, bind, Except.bind]

/-- The references of a document are accepted if all that it speaks of is named. -/
theorem checkReferences_eq_ok_iff {names : List String} :
    checkReferences doc names = .ok () ↔
      doc.initialState ∈ names ∧ (∀ name ∈ doc.acceptingStates, name ∈ names) ∧
        ∀ s ∈ doc.states, ∀ e ∈ s.edges, LeadsTo names e.next := by
  have htargets : doc.states.forM (fun s => checkTargets names s.name 0 s.edges) = .ok () ↔
      ∀ s ∈ doc.states, ∀ e ∈ s.edges, LeadsTo names e.next := by
    rw [Except.forM_eq_ok_iff]
    exact forall₂_congr fun s _ => checkTargets_eq_ok_iff
  rw [← htargets]
  unfold checkReferences
  by_cases hi : names.contains doc.initialState = true
  · have hi' : doc.initialState ∈ names := by simpa using hi
    cases ha : doc.acceptingStates.find? (!names.contains ·) with
    | some name =>
      have hm : name ∈ doc.acceptingStates := List.mem_of_find?_eq_some ha
      have hn : name ∉ names := by simpa using List.find?_some ha
      have hall : ¬ ∀ name ∈ doc.acceptingStates, name ∈ names := fun h => hn (h name hm)
      simp [hi', hall, reject, bind, Except.bind]
    | none =>
      have hall : ∀ name ∈ doc.acceptingStates, name ∈ names := fun name hm => by
        simpa using List.find?_eq_none.mp ha name hm
      simp only [hi, Bool.not_true, Bool.false_eq_true, if_false, hi', true_and]
      exact ⟨fun h => ⟨hall, h⟩, fun h => h.2⟩
  · have hi' : doc.initialState ∉ names := by simpa using hi
    simp [hi', reject, bind, Except.bind]

/-- All states that a definition speaks of are its own. -/
structure Closed (d : Definition) : Prop where
  initial : (d.state? d.initialState).isSome
  accepting : ∀ name ∈ d.acceptingStates, (d.state? name).isSome
  next : ∀ s ∈ d.states, ∀ e ∈ s.edges, ∀ target, e.next = some target → (d.state? target).isSome

/-- A state is found exactly under the names of states. -/
theorem isSome_state?_iff {name : String} :
    (d.state? name).isSome ↔ name ∈ d.states.map (·.name) := by
  rw [state?, List.find?_isSome, List.mem_map]
  simp

/-- A compiled definition is closed. -/
theorem closed_of_ofDocument (h : ofDocument doc = .ok d) : d.Closed := by
  have hdoc := toDocument_of_ofDocument h
  obtain ⟨states, hs, hr, rfl⟩ := ofDocument_eq_ok.mp h
  obtain ⟨hinitial, haccepting, hnext⟩ := checkReferences_eq_ok_iff.mp hr
  -- the names of the states are those of the document
  have hnames : states.map (·.name) = doc.states.map (·.name) := by
    rw [← toDocument_of_compileStates hs, List.map_map]
    rfl
  refine ⟨?_, fun name hm => ?_, fun s hm e he target ht => ?_⟩
  · rw [isSome_state?_iff, hnames]
    exact hinitial
  · rw [isSome_state?_iff, hnames]
    exact haccepting name hm
  · rw [isSome_state?_iff, hnames]
    have hm' : s.toDocument ∈ doc.states := by
      rw [← toDocument_of_compileStates hs]
      exact List.mem_map_of_mem hm
    exact hnext _ hm' _ (List.mem_map_of_mem he) target ht

end Definition

end ChatRiddles
