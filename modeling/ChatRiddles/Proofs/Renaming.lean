import ChatRiddles.Proofs.Sessions
import ChatRiddles.Proofs.WellFormed
import Mathlib.Data.List.Perm.Basic
/-!
# Names of states carry no meaning

The states of a document may be named otherwise, if different states keep different names, and every
reference is changed with the names. The states may also be listed in another order, and so may the
accepting ones. Such a document compiles if the first does, and it cannot be told from the first by
playing: whatever is asked of a game, the same is delivered, the same goes wrong and the same texts
win, and sessions differ only in the names of their states.

Main definitions: `Document.Renaming`, `Definition.Renaming` and `Play.serveAll`. Main statements:
`Definition.exists_renaming` (a renamed document compiles), `Play.alike_serve` (one request) and
`Play.played_alike`.
-/

namespace ChatRiddles

/-! ## Documents -/

namespace Document

/-- An edge that leads to the new name of its target. -/
def Edge.renamed (f : String → String) (e : Edge) : Edge := { e with next := e.next.map f }

/-- A state with its new name, and with those of the targets of its edges. -/
def State.renamed (f : String → String) (s : State) : State :=
  ⟨f s.name, s.edges.map (Edge.renamed f)⟩

/-- A document is another one with new names for its states. The order of the states and that of the
accepting states may differ. -/
structure Renaming (f : String → String) (doc doc' : Document) : Prop where
  injective : ∀ a ∈ doc.states.map (·.name), ∀ b ∈ doc.states.map (·.name), f a = f b → a = b
  initialState : doc'.initialState = f doc.initialState
  acceptingStates : doc'.acceptingStates.Perm (doc.acceptingStates.map f)
  states : doc'.states.Perm (doc.states.map (State.renamed f))

variable {f : String → String} {doc doc' : Document}

/-- The names of the states are the new ones. -/
theorem Renaming.names (h : doc.Renaming f doc') :
    (doc'.states.map (·.name)).Perm ((doc.states.map (·.name)).map f) := by
  have hnames : (doc.states.map (State.renamed f)).map (·.name) =
      (doc.states.map (·.name)).map f := by
    rw [List.map_map, List.map_map]
    rfl
  rw [← hnames]
  exact h.states.map _

/-- New names are names of the renamed document. -/
theorem Renaming.mem_names (h : doc.Renaming f doc') {name : String}
    (hname : name ∈ doc.states.map (·.name)) : f name ∈ doc'.states.map (·.name) :=
  h.names.mem_iff.mpr (List.mem_map_of_mem hname)

end Document

/-! ## Definitions -/

namespace Definition

/-- An edge that leads to the new name of its target. -/
def Edge.renamed (f : String → String) (e : Edge) : Edge := { e with next := e.next.map f }

/-- A state with its new name, and with those of the targets of its edges. -/
def State.renamed (f : String → String) (s : State) : State :=
  ⟨f s.name, s.edges.map (Edge.renamed f)⟩

/-- The names of the states. -/
def names (d : Definition) : List String := d.states.map (·.name)

/-- A definition is another one with new names for its states. -/
structure Renaming (f : String → String) (d d' : Definition) : Prop where
  injective : ∀ a ∈ d.names, ∀ b ∈ d.names, f a = f b → a = b
  initialState : d'.initialState = f d.initialState
  acceptingStates : d'.acceptingStates.Perm (d.acceptingStates.map f)
  states : d'.states.Perm (d.states.map (State.renamed f))

variable {f : String → String} {d d' : Definition} {doc doc' : Document} {name text : String}

/-- A compiled definition has the names of its document. -/
theorem names_of_ofDocument (h : ofDocument doc = .ok d) : d.names = doc.states.map (·.name) := by
  rw [← toDocument_of_ofDocument h, names, toDocument, List.map_map]
  rfl

/-- A renamed edge compiles to the renamed compilation. -/
theorem Edge.CompiledFrom.renamed {e : Document.Edge} {e' : Edge} (h : e'.CompiledFrom e) :
    (e'.renamed f).CompiledFrom (e.renamed f) :=
  ⟨h.prompt, h.actions, congrArg (Option.map f) h.next⟩

theorem State.CompiledFrom.renamed {s : Document.State} {s' : State} (h : s'.CompiledFrom s) :
    (s'.renamed f).CompiledFrom (s.renamed f) := by
  refine ⟨congrArg f h.name, ?_⟩
  show List.Forall₂ Edge.CompiledFrom (s.edges.map _) (s'.edges.map _)
  rw [List.forall₂_map_left_iff, List.forall₂_map_right_iff]
  exact h.edges.imp fun _ _ he => he.renamed

/-- A renamed document is sound, if its patterns compile. -/
theorem sound_of_renaming (h : doc.Renaming f doc') (hdoc : doc.Sound)
    (hpatterns : ∀ s ∈ doc'.states, ∀ e ∈ s.edges, e.Compiles) : doc'.Sound := by
  refine ⟨hpatterns, ?_, ?_, fun name hname => ?_, fun s hs e he target ht => ?_⟩
  · rw [h.names.nodup_iff]
    exact hdoc.distinct.map_on h.injective
  · rw [h.initialState]
    exact h.mem_names hdoc.initial
  · obtain ⟨old, hold, rfl⟩ := List.mem_map.mp (h.acceptingStates.mem_iff.mp hname)
    exact h.mem_names (hdoc.accepting old hold)
  · -- the edge is a renamed one, and its old target has a name
    obtain ⟨s', hs', rfl⟩ := List.mem_map.mp (h.states.mem_iff.mp hs)
    obtain ⟨e', he', rfl⟩ := List.mem_map.mp he
    obtain ⟨old, hold, rfl⟩ := Option.map_eq_some_iff.mp ht
    exact h.mem_names (hdoc.targets s' hs' e' he' old hold)

/-- A renamed document compiles if the first does, and so the definitions differ. -/
theorem exists_renaming (h : doc.Renaming f doc') (hd : ofDocument doc = .ok d) :
    ∃ d', ofDocument doc' = .ok d' ∧ d.Renaming f d' := by
  obtain ⟨hsound, hcompiled⟩ := ofDocument_eq_ok_iff.mp hd
  have hstates : List.Forall₂ State.CompiledFrom (doc.states.map (Document.State.renamed f))
      (d.states.map (State.renamed f)) := by
    rw [List.forall₂_map_left_iff, List.forall₂_map_right_iff]
    exact hcompiled.states.imp fun _ _ hs => hs.renamed
  -- the compiled states are put in the order of the renamed document
  obtain ⟨states, hstates', hperm⟩ := List.perm_comp_forall₂ h.states hstates
  have hcompiled' : CompiledFrom doc' ⟨doc'.initialState, doc'.acceptingStates, states⟩ :=
    ⟨rfl, rfl, hstates'⟩
  have hsound' : doc'.Sound :=
    sound_of_renaming h hsound (exists_compiledFrom_iff.mp ⟨_, hcompiled'⟩)
  refine ⟨_, ofDocument_eq_ok_iff.mpr ⟨hsound', hcompiled'⟩, ?_, ?_, ?_, hperm⟩
  · rw [names_of_ofDocument hd]
    exact h.injective
  · rw [hcompiled.initialState]
    exact h.initialState
  · rw [hcompiled.acceptingStates]
    exact h.acceptingStates

/-! ## What a state does under its new name -/

/-- The states of a compiled definition have different names. -/
theorem nodup_names_of_ofDocument (h : ofDocument doc = .ok d) : d.names.Nodup := by
  rw [names_of_ofDocument h]
  exact (ofDocument_eq_ok_iff.mp h).1.distinct

/-- Each state is found under its name, if names differ. -/
theorem state?_of_mem (hdistinct : d.names.Nodup) {s : State} (h : s ∈ d.states) :
    d.state? s.name = some s := by
  cases hs : d.state? s.name with
  | none => exact absurd (List.find?_eq_none.mp hs s h) (by simp)
  | some s' =>
    have hmem : s' ∈ d.states := List.mem_of_find?_eq_some hs
    have hname : s'.name = s.name := by simpa using List.find?_some hs
    rw [List.inj_on_of_nodup_map hdistinct hmem h hname]

/-- A state is found under its new name. -/
theorem Renaming.state?_eq_some (h : d.Renaming f d') (hdistinct : d'.names.Nodup) {s : State}
    (hs : d.state? name = some s) : d'.state? (f name) = some (s.renamed f) := by
  have hmem : s ∈ d.states := List.mem_of_find?_eq_some hs
  have hname : s.name = name := by simpa using List.find?_some hs
  have hmem' : s.renamed f ∈ d'.states := h.states.mem_iff.mpr (List.mem_map_of_mem hmem)
  rw [← hname]
  exact state?_of_mem hdistinct hmem'

/-- A state is accepting under its new name if it was before. -/
theorem Renaming.isAccepting_eq (h : d.Renaming f d') (hclosed : d.Closed)
    (hname : name ∈ d.names) : d'.isAccepting (f name) = d.isAccepting name := by
  rw [Bool.eq_iff_iff, isAccepting, isAccepting, List.contains_iff_mem, List.contains_iff_mem,
    h.acceptingStates.mem_iff, List.mem_map]
  constructor
  · rintro ⟨old, hold, hsame⟩
    have hold' : old ∈ d.names := isSome_state?_iff.mp (hclosed.accepting old hold)
    rw [← h.injective old hold' name hname hsame]
    exact hold
  · intro hold
    exact ⟨name, hold, rfl⟩

/-- A text takes the edge at the same place. -/
theorem State.edgeFor?_renamed (s : State) :
    (s.renamed f).edgeFor? text = (s.edgeFor? text).map (Prod.map id (Edge.renamed f)) := by
  show (((s.edges.map (Edge.renamed f)).zipIdx.find? _).map _) = _
  rw [List.zipIdx_map, List.find?_map, State.edgeFor?, Option.map_map, Option.map_map]
  rfl

/-- A renamed edge leads to the renamed target. -/
theorem Edge.target_renamed (e : Edge) (state : String) :
    (e.renamed f).target (f state) = f (e.target state) := by
  show (e.next.map f).getD (f state) = f (e.next.getD state)
  cases e.next with
  | none => rfl
  | some target => rfl

/-- An edge of a state leads to a state. -/
theorem Closed.target_mem_names (h : d.Closed) {s : State} (hs : d.state? name = some s) {e : Edge}
    (he : e ∈ s.edges) : e.target name ∈ d.names := by
  have hmem : s ∈ d.states := List.mem_of_find?_eq_some hs
  rw [Edge.target]
  cases hn : e.next with
  | none => exact isSome_state?_iff.mp (Option.isSome_iff_exists.mpr ⟨s, hs⟩)
  | some target => exact isSome_state?_iff.mp (h.next s hmem e he target hn)

end Definition

/-! ## Requests -/

/-- A session with the new name of its state, if its riddle is the renamed one. -/
def Session.renamed (code : String) (f : String → String) (s : Session) : Session :=
  if s.riddle = code then { s with state := f s.state } else s

/-- Two catalogues have the same riddles, except that the riddle of a code has another
definition. -/
structure Catalogue.Replaced (c c' : Catalogue) (code : String) (d d' : Definition) : Prop where
  under : ∃ r, c.get? code = some r ∧ r.definition = d ∧
    c'.get? code = some { r with definition := d' }
  others : ∀ other, other ≠ code → c'.get? other = c.get? other

namespace Play

/-- What is asked of the game of a chat. -/
inductive Request where
  | start (code : String)
  -- a text is played, and its deliveries take a course
  | turn (text : String) (course : Course)
  | stop

/-- What is reported of a request. -/
inductive Report where
  -- a game has begun, of a riddle of this name and description
  | began (name description : String)
  -- the move of a text is settled: the session after it, and whether the game is won
  | settled (session : Session) (solved : Bool)
  | undelivered (e : DeliveryFailure)
  | obstacle (o : Obstacle)
  | stopped (played : Bool)
  deriving DecidableEq, Repr

/-- What comes of a request. -/
structure Served where
  report : Report
  sent : List Delivery
  sessions : Sessions

/-- The report of a turn. -/
def TurnEnd.report : TurnEnd → Report
  | .settled m => .settled m.session m.solves
  | .obstacle o => .obstacle o
  | .undelivered e => .undelivered e

/-- Does what is asked. -/
def serve (catalogue : Catalogue) (sessions : Sessions) (chat : Int) : Request → Served
  | .start code =>
    match start catalogue sessions chat code with
    | .ok (r, after) => ⟨.began r.name r.description, [], after⟩
    | .error o => ⟨.obstacle o, [], sessions⟩
  | .turn text course =>
    let t := turnIn course catalogue sessions chat text
    ⟨t.result.report, t.sent, t.sessions⟩
  | .stop =>
    match stop? sessions chat with
    | some after => ⟨.stopped true, [], after⟩
    | none => ⟨.stopped false, [], sessions⟩

section Serve

variable {c : Catalogue} {sessions : Sessions} {chat : Int} {code : String} {r : Riddle}

/-- No game begins of a riddle that is not there. -/
theorem serve_start_of_none (h : c.get? code = none) :
    serve c sessions chat (.start code) = ⟨.obstacle (.noRiddle code), [], sessions⟩ := by
  simp only [serve, start, h]

/-- A game begins in the initial state of its riddle. -/
theorem serve_start_of_some (h : c.get? code = some r) :
    serve c sessions chat (.start code) = ⟨.began r.name r.description, [],
      sessions.set chat ⟨code, r.definition.initialState⟩⟩ := by
  simp only [serve, start, h]

/-- A game that is given up is cleared, and it is told whether there was one. -/
theorem serve_stop :
    serve c sessions chat .stop =
      if sessions.contains chat then ⟨.stopped true, [], sessions.clear chat⟩
      else ⟨.stopped false, [], sessions⟩ := by
  by_cases h : sessions.contains chat = true
  · simp only [serve, stop?, if_pos h]
  · simp only [serve, stop?, if_neg h]

end Serve

/-- What is seen of a request in its chat. -/
structure Seen where
  report : Report
  sent : List Delivery
  session : Option Session
  deriving DecidableEq, Repr

/-- What is seen of requests that are served one after another. -/
def serveAll (catalogue : Catalogue) (chat : Int) : Sessions → List Request → List Seen
  | _, [] => []
  | sessions, q :: rest =>
    let served := serve catalogue sessions chat q
    ⟨served.report, served.sent, served.sessions.get? chat⟩ ::
      serveAll catalogue chat served.sessions rest

/-- A report with the new name of the state that it tells. -/
def Report.renamed (code : String) (f : String → String) : Report → Report
  | .settled session solved => .settled (session.renamed code f) solved
  | r => r

/-- What is seen, with the new names of states. -/
def Seen.renamed (code : String) (f : String → String) (s : Seen) : Seen :=
  ⟨s.report.renamed code f, s.sent, s.session.map (·.renamed code f)⟩

/-! ## Games that go on alike -/

/-- The sessions of a chat are the same but for the name of the state, which is one of the
definition. -/
structure Alike (code : String) (f : String → String) (d : Definition) (chat : Int)
    (sessions sessions' : Sessions) : Prop where
  renamed : sessions'.get? chat = (sessions.get? chat).map (·.renamed code f)
  known : ∀ s, sessions.get? chat = some s → s.riddle = code → s.state ∈ d.names

/-- Two moves do the same but for the name of the state. -/
structure Move.Alike (code : String) (f : String → String) (d : Definition) (m m' : Move) :
    Prop where
  deliveries : m'.deliveries = m.deliveries
  solves : m'.solves = m.solves
  renamed : m'.session = m.session.renamed code f
  known : m.session.riddle = code → m.session.state ∈ d.names

/-- What comes of two requests is the same but for the name of the state. -/
structure Served.Alike (code : String) (f : String → String) (d : Definition) (chat : Int)
    (served served' : Served) : Prop where
  report : served'.report = served.report.renamed code f
  sent : served'.sent = served.sent
  -- the sessions of the chat are the same but for the name of the state
  sessions : Play.Alike code f d chat served.sessions served'.sessions

variable {c c' : Catalogue} {code text : String} {f : String → String} {d d' : Definition}
  {chat : Int} {sessions sessions' : Sessions} {s : Session} {m m' : Move}

/-- Sessions stay alike when the game is cleared. -/
theorem Alike.clear : Alike code f d chat (sessions.clear chat) (sessions'.clear chat) := by
  refine ⟨?_, fun s hs => ?_⟩
  · simp
  · simp at hs

/-- They stay alike when a session in a known state is set in both. -/
theorem Alike.set (hs : s.riddle = code → s.state ∈ d.names) :
    Alike code f d chat (sessions.set chat s) (sessions'.set chat (s.renamed code f)) := by
  refine ⟨?_, fun s' hs' => ?_⟩
  · simp
  · rw [ChatMap.get?_set, if_pos rfl] at hs'
    obtain rfl := Option.some.inj hs'
    exact hs

theorem Alike.contains (h : Alike code f d chat sessions sessions') :
    sessions'.contains chat = sessions.contains chat := by
  rw [ChatMap.contains, ChatMap.contains, h.renamed, Option.isSome_map]

theorem Alike.afterObstacle (h : Alike code f d chat sessions sessions') (o : Obstacle) :
    Alike code f d chat (afterObstacle sessions chat o) (afterObstacle sessions' chat o) := by
  cases o with
  | noRiddle code => exact .clear
  | noSession chat => exact h
  | unknownState e => exact h

/-- Moves that are alike are settled alike. -/
theorem Move.Alike.settle (h : m.Alike code f d m') :
    Play.Alike code f d chat (m.settle sessions chat) (m'.settle sessions' chat) := by
  rw [Move.settle, Move.settle, h.solves, h.renamed]
  split
  · exact .clear
  · exact .set h.known

/-- A game is given up alike. -/
theorem alike_stop (h : Alike code f d chat sessions sessions') :
    (serve c sessions chat .stop).Alike code f d chat (serve c' sessions' chat .stop) := by
  rw [serve_stop, serve_stop, h.contains]
  split
  · exact ⟨rfl, rfl, .clear⟩
  · exact ⟨rfl, rfl, h⟩

section Renamed

variable (hcatalogue : c.Replaced c' code d d') (hrenaming : d.Renaming f d') (hclosed : d.Closed)

include hcatalogue hrenaming hclosed

/-- A game begins alike, if it can begin at all. -/
theorem alike_start (h : Alike code f d chat sessions sessions') (other : String) :
    (serve c sessions chat (.start other)).Alike code f d chat
      (serve c' sessions' chat (.start other)) := by
  by_cases hother : other = code
  · subst hother
    obtain ⟨r, hr, rfl, hr'⟩ := hcatalogue.under
    rw [serve_start_of_some hr, serve_start_of_some hr']
    have hinitial : r.definition.initialState ∈ r.definition.names :=
      Definition.isSome_state?_iff.mp hclosed.initial
    have hsession : (⟨other, d'.initialState⟩ : Session) =
        Session.renamed other f ⟨other, r.definition.initialState⟩ := by
      rw [hrenaming.initialState, Session.renamed, if_pos rfl]
    refine ⟨rfl, rfl, ?_⟩
    show Alike other f _ chat (sessions.set chat _) (sessions'.set chat ⟨other, d'.initialState⟩)
    rw [hsession]
    exact .set fun _ => hinitial
  · have hsame := hcatalogue.others other hother
    cases hr : c.get? other with
    | none =>
      rw [serve_start_of_none hr, serve_start_of_none (hsame.trans hr)]
      exact ⟨rfl, rfl, h⟩
    | some r =>
      -- another riddle: its session is the same, whatever the names in the first are
      rw [serve_start_of_some hr, serve_start_of_some (hsame.trans hr)]
      have hsession : (⟨other, r.definition.initialState⟩ : Session) =
          Session.renamed code f ⟨other, r.definition.initialState⟩ := (if_neg hother).symm
      have hknown : other = code → r.definition.initialState ∈ d.names :=
        fun hc => absurd hc hother
      have hset : Alike code f d chat (sessions.set chat ⟨other, r.definition.initialState⟩)
          (sessions'.set chat (Session.renamed code f ⟨other, r.definition.initialState⟩)) :=
        .set hknown
      rw [← hsession] at hset
      exact ⟨rfl, rfl, hset⟩

variable (hdistinct : d'.names.Nodup)

include hdistinct

/-- In the renamed riddle, a text makes the move that it makes in the first. -/
theorem alike_move_of_renamed (hs : sessions.get? chat = some s)
    (hs' : sessions'.get? chat = some (s.renamed code f)) (hriddle : s.riddle = code)
    (hknown : s.state ∈ d.names) :
    ∃ m m', move c sessions chat text = .ok m ∧ move c' sessions' chat text = .ok m' ∧
      m.Alike code f d m' := by
  obtain ⟨r, hr, rfl, hr'⟩ := hcatalogue.under
  obtain ⟨state, hstate⟩ := Option.isSome_iff_exists.mp (Definition.isSome_state?_iff.mpr hknown)
  have hstate' := hrenaming.state?_eq_some hdistinct hstate
  rw [← hriddle] at hr hr'
  have hsession : s.renamed code f = { s with state := f s.state } := if_pos hriddle
  rw [hsession] at hs'
  have hchoose' : Walk.chooseEdge d' (f s.state) text =
      .ok ((state.edgeFor? text).map (Prod.map id (Definition.Edge.renamed f))) := by
    rw [Walk.chooseEdge_of_state hstate', Definition.State.edgeFor?_renamed]
  simp only [move, hs, hs', hr, hr', Walk.chooseEdge_of_state hstate, hchoose']
  cases hedge : state.edgeFor? text with
  | none =>
    refine ⟨_, _, rfl, rfl, rfl, ?_, hsession.symm, fun _ => hknown⟩
    exact hrenaming.isAccepting_eq hclosed hknown
  | some taken =>
    obtain ⟨index, e⟩ := taken
    -- the edge is one of the state, so it leads to a state
    obtain ⟨⟨e', i⟩, hfind, hpair⟩ := Option.map_eq_some_iff.mp hedge
    obtain rfl : e' = e := (Prod.mk.inj hpair).2
    have hmem : e' ∈ state.edges := List.fst_mem_of_mem_zipIdx (List.mem_of_find?_eq_some hfind)
    have htarget := hclosed.target_mem_names hstate hmem
    have htarget' := e'.target_renamed (f := f) s.state
    refine ⟨_, _, rfl, rfl, rfl, ?_, ?_, fun _ => htarget⟩
    · show d'.isAccepting ((e'.renamed f).target (f s.state)) = _
      rw [htarget']
      exact hrenaming.isAccepting_eq hclosed htarget
    · show ({ s with state := (e'.renamed f).target (f s.state) } : Session) = _
      rw [htarget', Session.renamed, if_pos hriddle]

/-- A text meets the same obstacle, or makes the same move. -/
theorem alike_move (h : Alike code f d chat sessions sessions') (text : String) :
    (∃ o, move c sessions chat text = .error o ∧ move c' sessions' chat text = .error o) ∨
      ∃ m m', move c sessions chat text = .ok m ∧ move c' sessions' chat text = .ok m' ∧
        m.Alike code f d m' := by
  cases hs : sessions.get? chat with
  | none =>
    have hs' : sessions'.get? chat = none := by rw [h.renamed, hs, Option.map_none]
    refine .inl ⟨.noSession chat, ?_, ?_⟩
    · simp only [move, hs]
    · simp only [move, hs']
  | some s =>
    have hs' : sessions'.get? chat = some (s.renamed code f) := by
      rw [h.renamed, hs, Option.map_some]
    by_cases hriddle : s.riddle = code
    · exact .inr (alike_move_of_renamed hcatalogue hrenaming hclosed hdistinct hs hs' hriddle
        (h.known s hs hriddle))
    · -- another riddle is played, and nothing differs
      have hsame : s.renamed code f = s := if_neg hriddle
      rw [hsame] at hs'
      have hmove : move c' sessions' chat text = move c sessions chat text := by
        simp only [move, hs, hs', hcatalogue.others s.riddle hriddle]
      rw [hmove]
      cases hm : move c sessions chat text with
      | error o => exact .inl ⟨o, rfl, rfl⟩
      | ok m =>
        have hother : m.session.riddle ≠ code := by
          obtain ⟨s', state, hs'', -, -, heq | ⟨e, -, heq⟩⟩ := move_eq_ok hm
          all_goals
            rw [hs] at hs''
            obtain rfl := Option.some.inj hs''
            rw [heq]
            exact hriddle
        exact .inr ⟨m, m, rfl, rfl, rfl, rfl, (if_neg hother).symm, fun hc => absurd hc hother⟩

/-- Turns are alike: the same deliveries are made, the same failure or obstacle ends both or none,
and both win the game or none. -/
theorem alike_turn (h : Alike code f d chat sessions sessions') (text : String)
    (course : Course) :
    (serve c sessions chat (.turn text course)).Alike code f d chat
      (serve c' sessions' chat (.turn text course)) := by
  rcases alike_move hcatalogue hrenaming hclosed hdistinct h text with
    ⟨o, hm, hm'⟩ | ⟨m, m', hm, hm', halike⟩
  · simp only [serve, turnIn, hm, hm', TurnEnd.report]
    exact ⟨rfl, rfl, h.afterObstacle o⟩
  · -- the deliveries are the same, so they fail at the same place or at none
    simp only [serve, turnIn, hm, hm', halike.deliveries]
    cases deliverAllIn course m.deliveries with
    | mk sent failure =>
      cases failure with
      | some e => exact ⟨rfl, rfl, h⟩
      | none =>
        refine ⟨?_, rfl, halike.settle⟩
        show Report.settled m'.session m'.solves = .settled (m.session.renamed code f) m.solves
        rw [halike.renamed, halike.solves]

/-- Requests are served alike. -/
theorem alike_serve (h : Alike code f d chat sessions sessions') (q : Request) :
    (serve c sessions chat q).Alike code f d chat (serve c' sessions' chat q) := by
  cases q with
  | start other => exact alike_start hcatalogue hrenaming hclosed h other
  | turn text course => exact alike_turn hcatalogue hrenaming hclosed hdistinct h text course
  | stop => exact alike_stop h

/-- Requests of any number are seen alike. -/
theorem alike_serveAll (h : Alike code f d chat sessions sessions') (requests : List Request) :
    serveAll c' chat sessions' requests =
      (serveAll c chat sessions requests).map (Seen.renamed code f) := by
  induction requests generalizing sessions sessions' with
  | nil => rfl
  | cons q rest ih =>
    have hserved := alike_serve hcatalogue hrenaming hclosed hdistinct h q
    rw [serveAll, serveAll, List.map_cons, ih hserved.sessions, hserved.report, hserved.sent,
      hserved.sessions.renamed]
    rfl

end Renamed

/-- Take a document that compiles, and one that is the same but for the names of its states, the
order of the states and that of the accepting ones. It compiles too, and so does every JSON value
that describes it. Let two catalogues differ only in that a riddle has the one definition or the
other. Whatever is asked of a chat, games that begin, texts in any number, deliveries that fail at
any place and games that are given up: in both, the same is reported, with the same winning texts,
errors and obstacles, the same is delivered in the same order, and the session is in states that
correspond. This holds from any sessions that correspond, and so where there is none at first. -/
theorem played_alike {doc doc' : Document} (hrenaming : doc.Renaming f doc')
    (hd : Definition.ofDocument doc = .ok d) :
    ∃ d', Definition.ofDocument doc' = .ok d' ∧
      (∀ v, Document.DescribedBy v doc' → Definition.ofJson v = .ok d') ∧
      ∀ (c c' : Catalogue) (code : String) (chat : Int) (sessions sessions' : Sessions)
        (requests : List Request), c.Replaced c' code d d' →
        Alike code f d chat sessions sessions' →
        serveAll c' chat sessions' requests =
          (serveAll c chat sessions requests).map (Seen.renamed code f) := by
  obtain ⟨d', hd', hrenamed⟩ := Definition.exists_renaming hrenaming hd
  refine ⟨d', hd', fun v hv => ?_, fun c c' code chat sessions sessions' requests hc h => ?_⟩
  · exact Definition.ofJson_eq_ok_iff.mpr ⟨doc', hv, Definition.ofDocument_eq_ok_iff.mp hd'⟩
  · have hclosed : d.Closed := Definition.closed_of_ofDocument hd
    have hdistinct : d'.names.Nodup := Definition.nodup_names_of_ofDocument hd'
    exact alike_serveAll hc hrenamed hclosed hdistinct h requests

/-- A document in which one text wins at once and another stays. -/
def gateDocument : Document :=
  ⟨"gate", ["garden", "tower"],
    [⟨"gate", [⟨.text "knock", [.message "Who is there?"], none⟩,
      ⟨.text "open", [.message "Welcome", .sendTo 9 "A guest"], some "garden"⟩]⟩,
      ⟨"garden", []⟩, ⟨"tower", []⟩]⟩

/-- The same document with its names passed around, and the states listed from the last. -/
def gardenDocument : Document :=
  ⟨"garden", ["gate", "tower"],
    [⟨"gate", []⟩, ⟨"tower", []⟩,
      ⟨"garden", [⟨.text "knock", [.message "Who is there?"], none⟩,
        ⟨.text "open", [.message "Welcome", .sendTo 9 "A guest"], some "tower"⟩]⟩]⟩

/-- The new names. -/
def passedOn (name : String) : String :=
  if name = "gate" then "garden" else if name = "garden" then "tower" else "gate"

/-- The definition of the first document. -/
def gate : Definition :=
  ⟨"gate", ["garden", "tower"],
    [⟨"gate", [⟨.text "knock", [.message "Who is there?"], none⟩,
      ⟨.text "open", [.message "Welcome", .sendTo 9 "A guest"], some "garden"⟩]⟩,
      ⟨"garden", []⟩, ⟨"tower", []⟩]⟩

/-- The definition of the second document. -/
def garden : Definition :=
  ⟨"garden", ["gate", "tower"],
    [⟨"gate", []⟩, ⟨"tower", []⟩,
      ⟨"garden", [⟨.text "knock", [.message "Who is there?"], none⟩,
        ⟨.text "open", [.message "Welcome", .sendTo 9 "A guest"], some "tower"⟩]⟩]⟩

/-- A game in which a delivery fails before the text that wins. -/
theorem played_alike_gate_garden :
    let c : Catalogue := ⟨[⟨"g", "Gate", "Open it", 7, gate⟩], by decide⟩
    let c' : Catalogue := ⟨[⟨"g", "Gate", "Open it", 7, garden⟩], by decide⟩
    let late : Course := fun n _ => if n = 1 then some (.failed ⟨"timeout"⟩) else none
    let smooth : Course := fun _ _ => none
    let requests : List Request :=
      [.start "g", .turn "knock" smooth, .turn "open" late, .turn "open" smooth, .stop]
    gateDocument.Renaming passedOn gardenDocument ∧ Definition.ofDocument gateDocument = .ok gate ∧
      Definition.ofDocument gardenDocument = .ok garden ∧ c.Replaced c' "g" gate garden ∧
      serveAll c' 1 .empty requests =
        [⟨.began "Gate" "Open it", [], some ⟨"g", "garden"⟩⟩,
          ⟨.settled ⟨"g", "garden"⟩ false, [⟨1, "Who is there?"⟩], some ⟨"g", "garden"⟩⟩,
          ⟨.undelivered (.failed ⟨"timeout"⟩), [⟨1, "Welcome"⟩], some ⟨"g", "garden"⟩⟩,
          ⟨.settled ⟨"g", "tower"⟩ true, [⟨1, "Welcome"⟩, ⟨9, "A guest"⟩], none⟩,
          ⟨.stopped false, [], none⟩] := by
  intro c c' late smooth requests
  have hrenaming : gateDocument.Renaming passedOn gardenDocument :=
    ⟨by decide, by decide, by decide, by decide⟩
  have hgate : Definition.ofDocument gateDocument = .ok gate := rfl
  have hgarden : Definition.ofDocument gardenDocument = .ok garden := rfl
  have hreplaced : c.Replaced c' "g" gate garden := by
    refine ⟨⟨_, rfl, rfl, rfl⟩, fun other hother => ?_⟩
    have hcode : ("g" == other) = false := by simpa using hother.symm
    simp only [Catalogue.get?, c, c', List.find?, hcode]
  obtain ⟨d', hd', -, hplayed⟩ := played_alike hrenaming hgate
  obtain rfl : d' = garden := Except.ok.inj (hd'.symm.trans hgarden)
  have halike : Alike "g" passedOn gate 1 .empty .empty := ⟨rfl, by simp⟩
  refine ⟨hrenaming, hgate, hgarden, hreplaced, ?_⟩
  rw [hplayed c c' "g" 1 .empty .empty requests hreplaced halike]
  decide

end Play

end ChatRiddles
