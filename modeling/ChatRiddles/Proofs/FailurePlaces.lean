import ChatRiddles.Proofs.WellFormed
/-!
# Where compilation fails

Whatever goes through a list and stops at the first failure fails at a member, after members that do
not fail. So the compiler fails at a state, after states that are sound: for the name of the state,
or at one of its edges, after edges whose patterns compile. If it does not fail at a state, it fails
at the initial state, at an accepting state, or at an edge, after those that are among the states or
lead to one.

Main statements: `Definition.compileStates_eq_error_iff`, `Definition.checkReferences_eq_error_iff`
and `Definition.ofDocument_eq_error_iff`.
-/

namespace ChatRiddles

/-! ## What comes first in a list -/

/-- What comes first in a list is its head, or it comes first in the rest after a head that is
passed by. -/
theorem exists_first_cons_iff {α : Type} {pass : α → Prop} {stop : List α → α → Prop} {a : α}
    {rest : List α} :
    (∃ done a' left, a :: rest = done ++ a' :: left ∧ (∀ b ∈ done, pass b) ∧ stop done a') ↔
      stop [] a ∨ pass a ∧ ∃ done a' left, rest = done ++ a' :: left ∧ (∀ b ∈ done, pass b) ∧
        stop (a :: done) a' := by
  constructor
  · rintro ⟨done, a', left, h, hdone, hstop⟩
    cases done with
    | nil =>
      rw [(List.cons.inj h).1]
      exact .inl hstop
    | cons b done =>
      obtain ⟨rfl, hrest⟩ := List.cons.inj h
      obtain ⟨hpass, hdone⟩ := List.forall_mem_cons.mp hdone
      exact .inr ⟨hpass, done, a', left, hrest, hdone, hstop⟩
  · rintro (hstop | ⟨hpass, done, a', left, rfl, hdone, hstop⟩)
    · exact ⟨[], a, rest, rfl, fun _ h => (nomatch h), hstop⟩
    · exact ⟨a :: done, a', left, rfl, List.forall_mem_cons.mpr ⟨hpass, hdone⟩, hstop⟩

theorem not_exists_first_nil {α : Type} {p : List α → α → List α → Prop} :
    ¬ ∃ done a left, [] = done ++ a :: left ∧ p done a left := by
  rintro ⟨done, a, left, h, -⟩
  exact absurd h.symm (List.append_ne_nil_of_right_ne_nil _ (List.cons_ne_nil _ _))

namespace Except

variable {ε α β : Type}

/-- A chain fails where its first part does, or its second after it. -/
theorem bind_eq_error {x : Except ε α} {f : α → Except ε β} {e : ε} :
    x >>= f = .error e ↔ x = .error e ∨ ∃ a, x = .ok a ∧ f a = .error e := by
  cases x with
  | error e' =>
    constructor
    · exact fun h => .inl (congrArg _ (Except.error.inj h))
    · rintro (h | ⟨a, h, -⟩)
      · exact congrArg _ (Except.error.inj h)
      · cases h
  | ok a =>
    constructor
    · exact fun h => .inr ⟨a, rfl, h⟩
    · rintro (h | ⟨a', h, hf⟩)
      · cases h
      · rw [Except.ok.inj h]
        exact hf

/-- What only goes on with a result does not fail by itself. -/
theorem bind_pure_eq_error {x : Except ε α} {f : α → β} {e : ε} :
    (x >>= fun a => pure (f a)) = .error e ↔ x = .error e := by
  rw [bind_eq_error]
  refine or_iff_left ?_
  rintro ⟨_, _, h⟩
  cases h

/-- The first failure in a list comes after members that do not fail. -/
theorem mapM_eq_error {f : α → Except ε β} {l : List α} {e : ε} :
    l.mapM f = .error e ↔
      ∃ done a left, l = done ++ a :: left ∧ (∀ a' ∈ done, ∃ b, f a' = .ok b) ∧ f a = .error e := by
  induction l with
  | nil => exact ⟨fun h => (nomatch h), fun h => absurd h not_exists_first_nil⟩
  | cons a rest ih =>
    rw [List.mapM_cons, bind_eq_error, exists_first_cons_iff, ← ih]
    simp only [bind_pure_eq_error, exists_and_right]

/-- Trying all fails at the first that fails. -/
theorem forM_eq_error {f : α → Except ε Unit} {l : List α} {e : ε} :
    l.forM f = .error e ↔
      ∃ done a left, l = done ++ a :: left ∧ (∀ a' ∈ done, f a' = .ok ()) ∧ f a = .error e := by
  induction l with
  | nil => exact ⟨fun h => (nomatch h), fun h => absurd h not_exists_first_nil⟩
  | cons a rest ih =>
    show (f a >>= fun _ => rest.forM f) = .error e ↔ _
    have hdone : (∃ u, f a = .ok u) ↔ f a = .ok () := ⟨fun ⟨_, h⟩ => h, fun h => ⟨(), h⟩⟩
    rw [bind_eq_error, exists_first_cons_iff, ← ih, ← hdone, exists_and_right]

end Except

/-! ## States that do not fail -/

namespace Document

/-- The names of states differ, and their patterns compile. -/
structure StatesSound (states : List State) : Prop where
  distinct : (states.map (·.name)).Nodup
  patterns : ∀ s ∈ states, ∀ e ∈ s.edges, e.Compiles

/-- States are sound if the first is and the rest are, and the first shares its name with none of
them. -/
theorem statesSound_cons_iff {s : State} {rest : List State} :
    StatesSound (s :: rest) ↔
      s.name ∉ rest.map (·.name) ∧ (∀ e ∈ s.edges, e.Compiles) ∧ StatesSound rest := by
  constructor
  · rintro ⟨hdistinct, hpatterns⟩
    obtain ⟨hnew, hdistinct⟩ := List.nodup_cons.mp hdistinct
    obtain ⟨hhead, hpatterns⟩ := List.forall_mem_cons.mp hpatterns
    exact ⟨hnew, hhead, hdistinct, hpatterns⟩
  · rintro ⟨hnew, hhead, hdistinct, hpatterns⟩
    exact ⟨List.nodup_cons.mpr ⟨hnew, hdistinct⟩, List.forall_mem_cons.mpr ⟨hhead, hpatterns⟩⟩

end Document

namespace Definition

variable {doc : Document} {f : Failure}

theorem reject_bind_eq_error_iff {α : Type} {r : Rejection} {next : Unit → Except Failure α} :
    reject r >>= next = .error f ↔ f = .rejected r :=
  ⟨fun h => (Except.error.inj h).symm, fun h => congrArg _ h.symm⟩

/-! ## The states of a document -/

/-- A prompt fails for its pattern, whose fault is a reason to reject the document. -/
theorem compilePrompt_eq_error_iff {state : String} {p : Document.Prompt} :
    compilePrompt state p = .error f ↔
      ∃ content, p = .regex content ∧
        ((∃ fault, Pattern.ofSource content = .error (.fault fault) ∧
            f = .rejected (.badPattern content state fault)) ∨
          ∃ b, Pattern.ofSource content = .error (.breakdown b) ∧ f = .brokenDown b) := by
  constructor
  · intro h
    cases p with
    | text content => cases h
    | regex content =>
      refine ⟨content, rfl, ?_⟩
      rw [compilePrompt] at h
      split at h
      next => cases h
      next fault hfault => exact .inl ⟨fault, hfault, (Except.error.inj h).symm⟩
      next b hb => exact .inr ⟨b, hb, (Except.error.inj h).symm⟩
    | either => cases h
  · rintro ⟨content, rfl, ⟨fault, hfault, rfl⟩ | ⟨b, hb, rfl⟩⟩
    · rw [compilePrompt, hfault]
      rfl
    · rw [compilePrompt, hb]

theorem compileEdge_eq_error_iff {state : String} {e : Document.Edge} :
    compileEdge state e = .error f ↔ compilePrompt state e.prompt = .error f := by
  rw [compileEdge, Except.bind_pure_eq_error]

theorem exists_compileEdge_iff {state : String} {e : Document.Edge} :
    (∃ e', compileEdge state e = .ok e') ↔ e.Compiles := by
  simp only [compileEdge_eq_ok_iff]
  exact Edge.exists_compiledFrom_iff

/-- The edges of a state compile if each of them does. -/
theorem exists_compileEdges_iff {s : Document.State} :
    (∃ edges, s.edges.mapM (compileEdge s.name) = .ok edges) ↔ ∀ e ∈ s.edges, e.Compiles := by
  simp only [Except.mapM_eq_ok_iff, exists_forall₂_iff, exists_compileEdge_iff]

/-- The edges of a state fail where the first of them does. -/
theorem compileEdges_eq_error_iff {s : Document.State} :
    s.edges.mapM (compileEdge s.name) = .error f ↔
      ∃ tried e rest, s.edges = tried ++ e :: rest ∧ (∀ e' ∈ tried, e'.Compiles) ∧
        compilePrompt s.name e.prompt = .error f := by
  rw [Except.mapM_eq_error]
  simp only [compileEdge_eq_error_iff, exists_compileEdge_iff]

/-- A state fails after states with some names: for its own name, or for its edges. -/
def StateFails (names : List String) (s : Document.State) (f : Failure) : Prop :=
  (s.name ∈ names ∧ f = .rejected (.duplicateState s.name)) ∨
    s.name ∉ names ∧ s.edges.mapM (compileEdge s.name) = .error f

/-- How a state fails depends on the names before it only in whether its own is among them. -/
theorem stateFails_congr {names names' : List String} {s : Document.State}
    (h : s.name ∈ names ↔ s.name ∈ names') : StateFails names s f ↔ StateFails names' s f := by
  rw [StateFails, StateFails, h]

/-- Compiling fails at the first state, or after it in the rest. -/
theorem compileStates_cons_eq_error {before : List String} {s : Document.State}
    {rest : List Document.State} :
    compileStates before (s :: rest) = .error f ↔
      StateFails before s f ∨ s.name ∉ before ∧ (∀ e ∈ s.edges, e.Compiles) ∧
        compileStates (s.name :: before) rest = .error f := by
  rw [← exists_compileEdges_iff, StateFails]
  conv_lhs => unfold compileStates
  by_cases hc : before.contains s.name = true
  · have hm : s.name ∈ before := List.contains_iff_mem.mp hc
    rw [if_pos hc]
    simp only [hm, true_and, not_true, false_and, or_false]
    exact reject_bind_eq_error_iff
  · have hm : s.name ∉ before := fun h => hc (List.contains_iff_mem.mpr h)
    rw [if_neg hc]
    show (s.edges.mapM (compileEdge s.name) >>= _) = _ ↔ _
    rw [Except.bind_eq_error]
    simp only [hm, false_and, false_or, not_false_eq_true, true_and]
    simp only [Except.bind_pure_eq_error, exists_and_right]

/-- States fail where the first of them does, after the states before it. -/
theorem compileStates_eq_error_iff {before : List String} {l : List Document.State} :
    compileStates before l = .error f ↔
      ∃ done s left, l = done ++ s :: left ∧ Document.StatesSound done ∧
        (∀ s' ∈ done, s'.name ∉ before) ∧ StateFails (done.map (·.name) ++ before) s f := by
  induction l generalizing before with
  | nil => exact ⟨fun h => (nomatch h), fun h => absurd h not_exists_first_nil⟩
  | cons s rest ih =>
    -- the names of the states before are collected in another order
    have hnames : ∀ (done : List Document.State) (s' : Document.State),
        StateFails (done.map (·.name) ++ s.name :: before) s' f ↔
          StateFails ((s :: done).map (·.name) ++ before) s' f := by
      intro done s'
      refine stateFails_congr ?_
      simp only [List.mem_append, List.mem_cons, List.map_cons, List.cons_append]
      exact or_left_comm
    rw [compileStates_cons_eq_error, ih]
    simp only [hnames]
    constructor
    · rintro (h | ⟨hbefore, hcompiles, done, s', left, rfl, hdone, hapart, hs'⟩)
      · exact ⟨[], s, rest, rfl, ⟨List.nodup_nil, fun _ h => (nomatch h)⟩,
          fun _ h => (nomatch h), h⟩
      · refine ⟨s :: done, s', left, rfl, Document.statesSound_cons_iff.mpr ⟨?_, hcompiles, hdone⟩,
          List.forall_mem_cons.mpr ⟨hbefore, ?_⟩, hs'⟩
        · -- the head was one of the names that the later states must not have
          intro hmem
          obtain ⟨s'', hs'', hname⟩ := List.mem_map.mp hmem
          exact hapart s'' hs'' (hname ▸ List.mem_cons_self)
        · exact fun s'' hs'' hmem => hapart s'' hs'' (List.mem_cons_of_mem _ hmem)
    · rintro ⟨done, s', left, h, hdone, hapart, hs'⟩
      cases done with
      | nil =>
        obtain ⟨rfl, -⟩ := List.cons.inj h
        exact .inl hs'
      | cons s'' done =>
        obtain ⟨rfl, rfl⟩ := List.cons.inj h
        obtain ⟨hnew, hcompiles, hdone⟩ := Document.statesSound_cons_iff.mp hdone
        obtain ⟨hbefore, hapart⟩ := List.forall_mem_cons.mp hapart
        refine .inr ⟨hbefore, hcompiles, done, s', left, rfl, hdone, ?_, hs'⟩
        intro s₃ hs₃ hmem
        obtain hname | hmem := List.mem_cons.mp hmem
        · exact hnew (List.mem_map.mpr ⟨s₃, hs₃, hname⟩)
        · exact hapart s₃ hs₃ hmem

/-- The states compile exactly if they are sound. -/
theorem exists_compileStates_iff {l : List Document.State} :
    (∃ states, compileStates [] l = .ok states) ↔ Document.StatesSound l := by
  have hstates : (∃ states, List.Forall₂ State.CompiledFrom l states) ↔
      ∀ s ∈ l, ∀ e ∈ s.edges, e.Compiles := by
    rw [exists_forall₂_iff]
    simp only [State.exists_compiledFrom_iff, Edge.exists_compiledFrom_iff]
  simp only [compileStates_eq_ok_iff, exists_and_left, hstates]
  exact ⟨fun h => ⟨h.1, h.2.2⟩, fun h => ⟨h.distinct, fun _ _ h => (nomatch h), h.patterns⟩⟩

/-! ## What a document speaks of -/

/-- Edges are refused for the first of them that leads to none of the states. -/
theorem checkTargets_eq_error_iff {names : List String} {state : String} {index : Nat}
    {edges : List Document.Edge} :
    checkTargets names state index edges = .error f ↔
      ∃ tried e rest, edges = tried ++ e :: rest ∧ (∀ e' ∈ tried, LeadsTo names e'.next) ∧
        ∃ target, e.next = some target ∧ target ∉ names ∧
          f = .rejected (.undefinedTarget (index + tried.length) state target) := by
  induction edges generalizing index with
  | nil => exact ⟨fun h => (nomatch h), fun h => absurd h not_exists_first_nil⟩
  | cons e rest ih =>
    -- what is one edge farther in the list has an index that is one greater
    have hindex : ∀ tried : List Document.Edge,
        index + (e :: tried).length = index + 1 + tried.length := by
      intro tried
      rw [List.length_cons]
      omega
    rw [exists_first_cons_iff]
    simp only [hindex, ← ih]
    conv_lhs => unfold checkTargets
    cases hn : e.next with
    | none =>
      have hleads : LeadsTo names none := by
        intro target h
        cases h
      simp [hleads]
    | some target =>
      by_cases hm : target ∈ names
      · have hleads : LeadsTo names (some target) := fun _ h => Option.some.inj h ▸ hm
        simp [hleads, hm]
      · have hleads : ¬ LeadsTo names (some target) := fun h => hm (h target rfl)
        have hc : names.contains target = false := by simpa using hm
        simp only [hc, Bool.not_false, if_true, hleads, false_and, or_false, Option.some.injEq,
          exists_eq_left', hm, not_false_eq_true, true_and]
        exact reject_bind_eq_error_iff

/-- The name that is found is the first that is missing. -/
theorem find?_missing_eq_some_iff {names l : List String} {name : String} :
    l.find? (!names.contains ·) = some name ↔
      ∃ done left, l = done ++ name :: left ∧ (∀ name' ∈ done, name' ∈ names) ∧ name ∉ names := by
  rw [List.find?_eq_some_iff_append]
  simp only [Bool.not_eq_true', Bool.not_not, List.contains_iff_mem]
  constructor
  · rintro ⟨hname, done, left, h, hdone⟩
    exact ⟨done, left, h, hdone, by simpa using hname⟩
  · rintro ⟨done, left, h, hdone, hname⟩
    exact ⟨by simpa using hname, done, left, h, hdone⟩

theorem find?_missing_eq_none_iff {names l : List String} :
    l.find? (!names.contains ·) = none ↔ ∀ name ∈ l, name ∈ names := by
  rw [List.find?_eq_none]
  simp only [Bool.not_eq_true, Bool.not_eq_false', List.contains_iff_mem]

/-- References are refused for the initial state, for the first accepting state or for the first
edge that is none or leads to none of the states. -/
theorem checkReferences_eq_error_iff {names : List String} :
    checkReferences doc names = .error f ↔
      (doc.initialState ∉ names ∧ f = .rejected (.undefinedInitial doc.initialState)) ∨
        doc.initialState ∈ names ∧
          ((∃ done name left, doc.acceptingStates = done ++ name :: left ∧
              (∀ name' ∈ done, name' ∈ names) ∧ name ∉ names ∧
              f = .rejected (.undefinedAccepting name)) ∨
            (∀ name ∈ doc.acceptingStates, name ∈ names) ∧
              ∃ done s left, doc.states = done ++ s :: left ∧
                (∀ s' ∈ done, ∀ e ∈ s'.edges, LeadsTo names e.next) ∧
                checkTargets names s.name 0 s.edges = .error f) := by
  have htargets : doc.states.forM (fun s => checkTargets names s.name 0 s.edges) = .error f ↔
      ∃ done s left, doc.states = done ++ s :: left ∧
        (∀ s' ∈ done, ∀ e ∈ s'.edges, LeadsTo names e.next) ∧
        checkTargets names s.name 0 s.edges = .error f := by
    rw [Except.forM_eq_error]
    simp only [checkTargets_eq_ok_iff]
  rw [← htargets]
  unfold checkReferences
  by_cases hi : doc.initialState ∈ names
  · have hi' : names.contains doc.initialState = true := List.contains_iff_mem.mpr hi
    simp only [hi, hi', Bool.not_true, Bool.false_eq_true, if_false, not_true, false_and, false_or,
      true_and]
    have hfirst : (∃ done name left, doc.acceptingStates = done ++ name :: left ∧
        (∀ name' ∈ done, name' ∈ names) ∧ name ∉ names ∧
        f = .rejected (.undefinedAccepting name)) ↔
        ∃ name, doc.acceptingStates.find? (!names.contains ·) = some name ∧
          f = .rejected (.undefinedAccepting name) := by
      simp only [find?_missing_eq_some_iff]
      constructor
      · rintro ⟨done, name, left, haccepting, hdone, hname, h⟩
        exact ⟨name, ⟨done, left, haccepting, hdone, hname⟩, h⟩
      · rintro ⟨name, ⟨done, left, haccepting, hdone, hname⟩, h⟩
        exact ⟨done, name, left, haccepting, hdone, hname, h⟩
    rw [hfirst, ← find?_missing_eq_none_iff]
    cases doc.acceptingStates.find? (!names.contains ·) with
    | some name =>
      simp only [Option.some.injEq, exists_eq_left', reduceCtorEq, false_and, or_false]
      exact reject_bind_eq_error_iff
    | none =>
      simp only [reduceCtorEq, false_and, exists_false, false_or, true_and]
  · have hi' : names.contains doc.initialState = false := by simpa using hi
    simp only [hi, hi', Bool.not_false, if_true, not_false_eq_true, true_and, false_and, or_false]
    exact reject_bind_eq_error_iff

/-- A document fails for its states, or, if they are sound, for its references. -/
theorem ofDocument_eq_error_iff :
    ofDocument doc = .error f ↔ compileStates [] doc.states = .error f ∨
      Document.StatesSound doc.states ∧
        checkReferences doc (doc.states.map (·.name)) = .error f := by
  unfold ofDocument
  rw [Except.bind_eq_error, ← exists_compileStates_iff]
  simp only [Except.bind_pure_eq_error, exists_and_right]

end Definition

end ChatRiddles
