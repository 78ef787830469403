import ChatRiddles.Proofs.Locks
import ChatRiddles.Proofs.References
import ChatRiddles.Proofs.Runs
/-!
# Sessions fit their riddles

A session is in a state of its riddle, and in an accepting state only if games start there. A new
session is in the initial state; the next session of a game is in the same state or in one that an
edge leads to, and games that reach an accepting state are over.

Sessions and riddles are kept apart: a session names its riddle by a code. That a session goes on to
fit is therefore a matter of what is registered under its code, and runs in which no code is
registered again are fine: there, a code stands for one riddle.

A session is in play if a chat has it or a job is about to enter it. The invariant of runs, `Sound`,
speaks of all sessions in play.

Main statement: `session_fits_of_run`.
-/

namespace ChatRiddles

/-! ## One text -/

/-- A session fits a riddle. -/
structure Session.Fits (s : Session) (r : Riddle) : Prop where
  known : (r.definition.state? s.state).isSome
  -- the game is not won, unless it starts so
  unsolved : r.definition.isAccepting s.state = true → s.state = r.definition.initialState

/-- A game begins in a state of its riddle. -/
theorem Session.fits_initial {r : Riddle} (h : r.definition.Closed) (code : String) :
    Session.Fits ⟨code, r.definition.initialState⟩ r := ⟨h.initial, fun _ => .refl _⟩

namespace Play

variable {catalogue : Catalogue} {sessions : Sessions} {chat : Int} {text : String}

/-- What a move is: nothing happens, or an edge of the current state is taken. -/
theorem move_eq_ok {m : Move} (h : move catalogue sessions chat text = .ok m) :
    ∃ s state, sessions.get? chat = some s ∧ catalogue.get? s.riddle = some m.riddle ∧
      m.riddle.definition.state? s.state = some state ∧
      (m.session = s ∨
        ∃ e ∈ state.edges, m.session = { s with state := e.target s.state }) := by
  unfold move at h
  split at h
  · cases h
  · rename_i s hs
    split at h
    · cases h
    · rename_i r hr
      cases hstate : r.definition.state? s.state with
      | none => simp [Walk.chooseEdge, hstate] at h
      | some state =>
        simp only [Walk.chooseEdge, hstate] at h
        cases he : state.edgeFor? text with
        | none =>
          rw [he] at h
          obtain rfl := Except.ok.inj h
          exact ⟨s, state, hs, hr, hstate, .inl rfl⟩
        | some taken =>
          obtain ⟨index, e⟩ := taken
          rw [he] at h
          obtain rfl := Except.ok.inj h
          refine ⟨s, state, hs, hr, hstate, .inr ⟨e, ?_, rfl⟩⟩
          obtain ⟨⟨e', i⟩, hf, heq⟩ := Option.map_eq_some_iff.mp he
          obtain rfl : e' = e := (Prod.mk.inj heq).2
          exact List.fst_mem_of_mem_zipIdx (List.mem_of_find?_eq_some hf)

/-- A move of a session that fits leads to one that fits, unless the game is won. -/
theorem fits_of_move {m : Move} (h : move catalogue sessions chat text = .ok m)
    (hclosed : m.riddle.definition.Closed)
    (hfits : ∀ s, sessions.get? chat = some s → s.Fits m.riddle) (hm : m.solves = false) :
    catalogue.get? m.session.riddle = some m.riddle ∧ m.session.Fits m.riddle := by
  obtain ⟨s, state, hs, hr, hstate, hsession⟩ := move_eq_ok h
  have hunsolved : m.riddle.definition.isAccepting m.session.state = true →
      m.session.state = m.riddle.definition.initialState := by
    intro ha
    rw [Move.solves, ha] at hm
    cases hm
  rcases hsession with heq | ⟨e, he, heq⟩
  · rw [heq]
    exact ⟨hr, hfits s hs⟩
  · refine ⟨heq ▸ hr, ?_, hunsolved⟩
    rw [heq]
    show (m.riddle.definition.state? (e.target s.state)).isSome
    have hmem : state ∈ m.riddle.definition.states := List.mem_of_find?_eq_some hstate
    cases hn : e.next with
    | none =>
      rw [Definition.Edge.target, hn]
      exact (hfits s hs).known
    | some target =>
      rw [Definition.Edge.target, hn]
      exact hclosed.next state hmem e he target hn

/-- A state is unknown only in a riddle that lacks the state of the session. -/
theorem move_eq_unknownState {e : Walk.UnknownState}
    (h : move catalogue sessions chat text = .error (.unknownState e)) :
    ∃ s r, sessions.get? chat = some s ∧ catalogue.get? s.riddle = some r ∧
      r.definition.state? s.state = none := by
  unfold move at h
  split at h
  · cases h
  · rename_i s hs
    split at h
    · cases h
    · rename_i r hr
      refine ⟨s, r, hs, hr, ?_⟩
      cases hstate : r.definition.state? s.state with
      | none => rfl
      | some state =>
        simp only [Walk.chooseEdge, hstate] at h
        cases he : state.edgeFor? text with
        | none =>
          rw [he] at h
          cases h
        | some taken =>
          rw [he] at h
          cases h

end Play

theorem ChatMap.get?_of_clear {α : Type} {m : ChatMap α} {chat other : Int} {v : α}
    (h : (m.clear chat).get? other = some v) : m.get? other = some v := by
  rw [ChatMap.get?_clear] at h
  split at h
  · cases h
  · exact h

section Plans

variable {admins : Admins} {b : Bot} {p : Plan} {m : Incoming} {chat : Int} {s : Session}

/-- A session that a game begins with: in the initial state of the riddle. -/
def Bot.Begins (b : Bot) (s : Session) : Prop :=
  ∃ r, b.catalogue.get? s.riddle = some r ∧ s.state = r.definition.initialState

theorem session_of_planPlayerCommand {c : PlayerCommand} {other : Int}
    (h : (planPlayerCommand b chat c).bot.sessions.get? other = some s) :
    b.sessions.get? other = some s := by
  cases c with
  | stopRiddle =>
    rw [planPlayerCommand_stopRiddle] at h
    split at h
    · exact ChatMap.get?_of_clear h
    · exact h
  | help => exact ChatMap.get?_of_clear h
  | start => exact ChatMap.get?_of_clear h
  | startRiddle => exact ChatMap.get?_of_clear h

/-- A code begins a game in the initial state, or none. -/
theorem session_of_planCode {text : String} {other : Int}
    (h : (planCode b chat text).bot.sessions.get? other = some s) :
    b.sessions.get? other = some s ∨ b.Begins s := by
  cases hg : b.catalogue.get? (codeIn text) with
  | none =>
    rw [planCode_of_none hg] at h
    exact .inl h
  | some r =>
    rw [planCode_of_some hg] at h
    have h' : (b.sessions.set chat ⟨codeIn text, r.definition.initialState⟩).get? other =
        some s := h
    rw [ChatMap.get?_set] at h'
    split at h'
    · obtain rfl := Option.some.inj h'
      exact .inr ⟨r, hg, rfl⟩
    · exact .inl h'

theorem session_of_planMove {text : String} {other : Int} (h : planMove b chat text = .ok p)
    (hs : p.bot.sessions.get? other = some s) : b.sessions.get? other = some s := by
  unfold planMove at h
  split at h
  · cases h
  · rename_i o _ _
    obtain rfl := Except.ok.inj h
    cases o with
    | noRiddle code => exact ChatMap.get?_of_clear hs
    | noSession other => exact hs
    | unknownState e => exact hs
  · obtain rfl := Except.ok.inj h
    exact hs

theorem Answered.sessions {b' : Bot} (h : Answered b chat b') : b'.sessions = b.sessions := by
  cases h <;> rfl

/-- A session after the plan for a text has been there before, or a game begins with it; then the
catalogue stays as it is. -/
theorem session_of_plan (h : plan admins b m = .ok p)
    (hs : p.bot.sessions.get? chat = some s) :
    b.sessions.get? chat = some s ∨ p.bot.catalogue = b.catalogue ∧ b.Begins s := by
  rcases plan_cases h with ⟨c, rfl⟩ | ha | ⟨c, rfl⟩ | rfl | hm
  · cases c <;> exact .inl hs
  · rw [ha.sessions] at hs
    exact .inl hs
  · exact .inl (session_of_planPlayerCommand hs)
  · exact (session_of_planCode hs).imp_right fun hb =>
      ⟨planCode_sameAdminState.registry.catalogue, hb⟩
  · exact .inl (session_of_planMove hm hs)

/-- A game is entered in the state to which its move has led. -/
theorem move_of_enter_mem {text : String} (h : planMove b chat text = .ok p)
    (hs : .enter s ∈ p.acts) :
    p.bot = b ∧ ∃ mv, Play.move b.catalogue b.sessions chat text = .ok mv ∧ mv.solves = false ∧
      mv.session = s := by
  unfold planMove at h
  split at h
  · cases h
  · obtain rfl := Except.ok.inj h
    simp [reply] at hs
  · rename_i mv hmv
    obtain rfl := Except.ok.inj h
    refine ⟨rfl, mv, hmv, ?_⟩
    cases hsolves : mv.solves with
    | true => simp [settlement, hsolves, reply] at hs
    | false => simpa [settlement, hsolves, eq_comm] using hs

/-- A session is entered later only for a move in a game that is not won by it; at once, the text
changes nothing. -/
theorem move_of_plan (h : plan admins b m = .ok p) (hs : .enter s ∈ p.acts) :
    p.bot = b ∧ ∃ mv, Play.move b.catalogue b.sessions m.chat m.text = .ok mv ∧
      mv.solves = false ∧ mv.session = s := by
  by_cases hr : b.route admins m = .game
  · rw [plan_eq_route, hr] at h
    exact move_of_enter_mem h hs
  · have hq := quiet_of_plan h hr _ hs
    cases hq

/-- No answer in a dialogue is at an unknown state. -/
theorem planAnswer_ne_unknownState {user : Int} {text : String} {w : Wizard}
    {e : Walk.UnknownState} : planAnswer b chat user text w ≠ .error (.unknownState e) := by
  intro h
  cases w with
  | code =>
    simp only [planAnswer] at h
    split at h <;> cases h
  | name code => cases h
  | description code name => cases h
  | document code name description =>
    simp only [planAnswer, planDocument] at h
    split at h
    · cases h
    · cases h
    · split at h <;> cases h
  | removal =>
    rw [planAnswer_removal] at h
    split at h <;> cases h

/-- A text is at an unknown state only in a game whose riddle lacks the current state. -/
theorem unknown_of_plan {e : Walk.UnknownState}
    (h : plan admins b m = .error (.unknownState e)) :
    ∃ s r, b.sessions.get? m.chat = some s ∧ b.catalogue.get? s.riddle = some r ∧
      r.definition.state? s.state = none := by
  rw [plan_eq_route] at h
  cases hr : b.route admins m with
  | adminCommand c =>
    rw [hr] at h
    cases h
  | answer user w =>
    rw [hr] at h
    exact absurd h planAnswer_ne_unknownState
  | playerCommand c =>
    rw [hr] at h
    cases h
  | code =>
    rw [hr] at h
    cases h
  | game =>
    rw [hr] at h
    simp only [TextRoute.plan, planMove] at h
    split at h
    · rename_i hm
      exact Play.move_eq_unknownState hm
    · cases h
    · cases h
  | unheeded =>
    rw [hr] at h
    cases h

end Plans

/-- A session with which a game goes on: the one after a move that does not win. -/
def Bot.Resumes (b : Bot) (s : Session) : Prop :=
  ∃ chat text mv, Play.move b.catalogue b.sessions chat text = .ok mv ∧ mv.solves = false ∧
    mv.session = s

/-! ## Turns -/

namespace Concurrent

variable {admins : Admins} {messenger : Messenger} {c c' : Concurrent} {t : Job} {s : Session}

/-- A session is in play: a chat has it, or a job is about to enter it. -/
def InPlay (c : Concurrent) (s : Session) : Prop :=
  (∃ chat, c.bot.sessions.get? chat = some s) ∨
    ∃ t acts, (t, acts) ∈ c.inFlight ∧ .enter s ∈ acts

/-- The end of a job brings no session into play. -/
theorem inPlay_finish {o : Outcome} (h : (c.finish t o).InPlay s) : c.InPlay s := by
  rcases h with ⟨chat, hs⟩ | ⟨t', acts, hm, hs⟩
  · rw [bot_finish] at hs
    exact .inl ⟨chat, hs⟩
  · rw [inFlight_finish] at hm
    exact .inr ⟨t', acts, hm, hs⟩

/-- Going on with a job brings no session into play but those that it enters. -/
theorem inPlay_proceed {acts : List Act} (h : (c.proceed t acts).InPlay s) :
    c.InPlay s ∨ .enter s ∈ acts := by
  induction acts generalizing c with
  | nil => exact .inl (inPlay_finish h)
  | cons a rest ih =>
    cases a with
    | deliver d =>
      rcases h with hs | ⟨t', acts, hm, hs⟩
      · exact .inl (.inl hs)
      · have hline : (t', acts) ∈ c.inFlight ∨ (t', acts) = (t, .deliver d :: rest) := by
          simpa [proceed, inFlight, Turn.begun?] using hm
        rcases hline with hm | heq
        · exact .inl (.inr ⟨t', acts, hm, hs⟩)
        · obtain rfl := (Prod.mk.inj heq).2
          exact .inr hs
    | enter s' =>
      rcases ih h with (⟨chat, hs⟩ | hm) | hs
      · -- the session is the one that has just been entered, or an older one
        have hs' : (c.bot.sessions.set t.chat s').get? chat = some s := hs
        rw [ChatMap.get?_set] at hs'
        split at hs'
        · obtain rfl := Option.some.inj hs'
          exact .inr List.mem_cons_self
        · exact .inl (.inl ⟨chat, hs'⟩)
      · exact .inl (.inr hm)
      · exact .inr (List.mem_cons_of_mem _ hs)
    | leave =>
      rcases ih h with (⟨chat, hs⟩ | hm) | hs
      · exact .inl (.inl ⟨chat, ChatMap.get?_of_clear hs⟩)
      · exact .inl (.inr hm)
      · exact .inr (List.mem_cons_of_mem _ hs)
    | note n =>
      rcases ih h with hs | hs
      · exact .inl hs
      · exact .inr (List.mem_cons_of_mem _ hs)

/-- A session that a job brings into play is one that a game begins with or goes on with, and the
job leaves the catalogue as it is. -/
theorem inPlay_beginJob (h : (c.beginJob admins t).InPlay s) :
    c.InPlay s ∨ (c.beginJob admins t).bot.catalogue = c.bot.catalogue ∧
      (c.bot.Begins s ∨ c.bot.Resumes s) := by
  unfold beginJob at h ⊢
  cases hp : plan admins c.bot t.incoming with
  | error e =>
    simp only [hp] at h ⊢
    have h' := inPlay_finish h
    exact .inl h'
  | ok p =>
    simp only [hp, catalogue_proceed] at h ⊢
    rcases inPlay_proceed h with (⟨chat, hs⟩ | hm) | hs
    · rcases session_of_plan hp hs with hs | ⟨hcat, hb⟩
      · exact .inl (.inl ⟨chat, hs⟩)
      · exact .inr ⟨hcat, .inl hb⟩
    · exact .inl (.inr hm)
    · obtain ⟨hbot, mv, hmv, hsolves, hsession⟩ := move_of_plan hp hs
      exact .inr ⟨congrArg Bot.catalogue hbot, .inr ⟨_, _, mv, hmv, hsolves, hsession⟩⟩

/-- The same for every turn. -/
theorem inPlay_takeTurn {before after : List Turn} {turn : Turn}
    (hl : c.line = before ++ turn :: after)
    (h : ({ c with line := before ++ after }.takeTurn admins messenger turn).InPlay s) :
    c.InPlay s ∨
      ({ c with line := before ++ after }.takeTurn admins messenger turn).bot.catalogue =
          c.bot.catalogue ∧ (c.bot.Begins s ∨ c.bot.Resumes s) := by
  have hline : InPlay { c with line := before ++ after } s → c.InPlay s := by
    rintro (hs | ⟨t, acts, hm, hs⟩)
    · exact .inl hs
    · refine .inr ⟨t, acts, ?_, hs⟩
      have hm' : (t, acts) ∈ (before ++ after).filterMap Turn.begun? := hm
      rw [inFlight, hl, List.filterMap_append]
      rw [List.filterMap_append] at hm'
      rcases List.mem_append.mp hm' with hm' | hm'
      · exact List.mem_append_left _ hm'
      · refine List.mem_append_right _ ?_
        obtain ⟨turn', ht', hb⟩ := List.mem_filterMap.mp hm'
        exact List.mem_filterMap.mpr ⟨turn', List.mem_cons_of_mem _ ht', hb⟩
  cases turn with
  | come t =>
    simp only [takeTurn] at h ⊢
    split at h
    · exact .inl (hline h)
    · rename_i hc
      rw [if_neg hc]
      exact (inPlay_beginJob h).imp_left hline
  | granted t => exact (inPlay_beginJob h).imp_left hline
  | deliver t d acts =>
    simp only [takeTurn] at h
    cases hd : messenger d with
    | some e =>
      simp only [hd] at h
      have h' := inPlay_finish h
      exact .inl (hline h')
    | none =>
      simp only [hd] at h
      rcases inPlay_proceed h with hs | hs
      · exact .inl (hline hs)
      · refine .inl (.inr ⟨t, .deliver d :: acts, ?_, List.mem_cons_of_mem _ hs⟩)
        rw [inFlight, hl]
        simp [Turn.begun?]

/-! ## Crashes -/

theorem ended_finish (o : Outcome) : (c.finish t o).ended = c.ended ++ [(t, o)] := by
  unfold finish
  simp only
  split
  · rfl
  · rfl

/-- A job that ends otherwise has not crashed. -/
theorem crashed_of_finish {t' : Job} {o : Outcome} {e : Crash} (ho : o ≠ .crashed e)
    (h : (t', Outcome.crashed e) ∈ (c.finish t o).ended) : (t', Outcome.crashed e) ∈ c.ended := by
  rw [ended_finish] at h
  rcases List.mem_append.mp h with h | h
  · exact h
  · have heq := Prod.mk.inj (List.mem_singleton.mp h)
    exact absurd heq.2.symm ho

theorem ended_proceed (acts : List Act) :
    (c.proceed t acts).ended = c.ended ∨
      (c.proceed t acts).ended = c.ended ++ [(t, .handled)] := by
  induction acts generalizing c with
  | nil => exact .inr (ended_finish .handled)
  | cons a rest ih =>
    cases a with
    | deliver d => exact .inl rfl
    | enter s => exact ih
    | leave => exact ih
    | note n => exact ih

theorem crashed_of_proceed {t' : Job} {acts : List Act} {e : Crash}
    (h : (t', Outcome.crashed e) ∈ (c.proceed t acts).ended) :
    (t', Outcome.crashed e) ∈ c.ended := by
  rcases ended_proceed (c := c) (t := t) acts with he | he
  · rw [he] at h
    exact h
  · rw [he] at h
    simpa using h

/-- A job crashes at its beginning only, where there is no plan for its text. -/
theorem crashed_of_beginJob {t' : Job} {e : Crash}
    (h : (t', Outcome.crashed e) ∈ (c.beginJob admins t).ended) :
    (t', Outcome.crashed e) ∈ c.ended ∨ plan admins c.bot t.incoming = .error e := by
  unfold beginJob at h
  cases hp : plan admins c.bot t.incoming with
  | error e' =>
    simp only [hp] at h
    by_cases he : e' = e
    · exact .inr (congrArg _ he)
    · have h' := crashed_of_finish (fun ho => he (Outcome.crashed.inj ho)) h
      exact .inl h'
  | ok p =>
    simp only [hp] at h
    have h' := crashed_of_proceed h
    exact .inl h'

/-- A turn ends in a crash only if a text cannot be planned. -/
theorem crashed_of_takeTurn {turn : Turn} {t' : Job} {e : Crash}
    (h : (t', Outcome.crashed e) ∈ (c.takeTurn admins messenger turn).ended) :
    (t', Outcome.crashed e) ∈ c.ended ∨ ∃ m, plan admins c.bot m = .error e := by
  cases turn with
  | come t =>
    simp only [takeTurn] at h
    split at h
    · exact .inl h
    · exact (crashed_of_beginJob h).imp_right fun hp => ⟨_, hp⟩
  | granted t => exact (crashed_of_beginJob h).imp_right fun hp => ⟨_, hp⟩
  | deliver t d acts =>
    simp only [takeTurn] at h
    split at h
    · have h' := crashed_of_finish (by simp) h
      exact .inl h'
    · have h' := crashed_of_proceed h
      exact .inl h'

/-! ## Runs -/

/-- A session that what happens next brings into play. -/
theorem inPlay_of_happen {what : Happening} (hh : c.happen? admins what = some c')
    (h : c'.InPlay s) :
    c.InPlay s ∨
      c'.bot.catalogue = c.bot.catalogue ∧ (c.bot.Begins s ∨ c.bot.Resumes s) := by
  have hold : c'.bot.sessions = c.bot.sessions → c'.inFlight = c.inFlight → c.InPlay s := by
    intro hs hl
    unfold InPlay at h ⊢
    rw [hs, hl] at h
    exact h
  cases what with
  | text m =>
    obtain rfl := Option.some.inj hh
    refine .inl (hold rfl ?_)
    simp [arrive, inFlight, Turn.begun?]
  | turn index messenger =>
    obtain ⟨before, turn, after, hl, -, rfl⟩ := stepAt_eq_some hh
    exact inPlay_takeTurn hl h
  | register code name description creator document =>
    obtain ⟨hs, hl, -⟩ := happen_register hh
    exact .inl (hold hs (by rw [inFlight, hl, inFlight]))
  | remove code =>
    obtain ⟨hs, hl, -⟩ := happen_remove hh
    exact .inl (hold hs (by rw [inFlight, hl, inFlight]))

/-- A crash that what happens next ends in. -/
theorem crashed_of_happen {what : Happening} {t : Job} {e : Crash}
    (hh : c.happen? admins what = some c') (h : (t, Outcome.crashed e) ∈ c'.ended) :
    (t, Outcome.crashed e) ∈ c.ended ∨ ∃ m, plan admins c.bot m = .error e := by
  cases what with
  | text m =>
    obtain rfl := Option.some.inj hh
    exact .inl h
  | turn index messenger =>
    obtain ⟨before, turn, after, -, -, rfl⟩ := stepAt_eq_some hh
    have h' := crashed_of_takeTurn h
    exact h'
  | register code name description creator document =>
    obtain ⟨-, -, -, -, he, -⟩ := happen_register hh
    exact .inl (he ▸ h)
  | remove code =>
    obtain ⟨-, -, -, -, he, -⟩ := happen_remove hh
    exact .inl (he ▸ h)

/-- What runs keep in which no code is registered again. -/
structure Sound (past : List Concurrent) (c : Concurrent) : Prop where
  closed : ∀ code r, c.bot.catalogue.get? code = some r → r.definition.Closed
  -- the code of a session in play is or was that of a riddle
  registered : ∀ s, c.InPlay s → ∃ x ∈ past ++ [c], s.riddle ∈ x.bot.catalogue.codes
  fits : ∀ s r, c.InPlay s → c.bot.catalogue.get? s.riddle = some r → s.Fits r
  known : ∀ t e, (t, Outcome.crashed (.unknownState e)) ∉ c.ended

namespace Sound

variable {past : List Concurrent}

theorem start (source : CodeSource) : Sound [] (idle (Bot.start source)) := by
  have hnone : ∀ s, ¬ (idle (Bot.start source)).InPlay s := by
    rintro s (⟨chat, hs⟩ | ⟨t, acts, hm, -⟩)
    · cases hs
    · cases hm
  refine ⟨fun code r h => ?_, fun s h => absurd h (hnone s), fun s _ h => absurd h (hnone s),
    fun t e h => ?_⟩
  · cases h
  · cases h

/-- A session that a game begins with or goes on with fits its riddle. -/
theorem exists_fits (h : Sound past c) {s : Session} (hs : c.bot.Begins s ∨ c.bot.Resumes s) :
    ∃ r, c.bot.catalogue.get? s.riddle = some r ∧ s.Fits r := by
  rcases hs with ⟨r, hr, hstate⟩ | ⟨chat, text, mv, hmv, hsolves, rfl⟩
  · refine ⟨r, hr, ?_⟩
    have hfits := Session.fits_initial (h.closed _ r hr) s.riddle
    rw [← hstate] at hfits
    exact hfits
  · obtain ⟨s, state, hs, hr, -⟩ := Play.move_eq_ok hmv
    refine ⟨mv.riddle, Play.fits_of_move hmv (h.closed _ _ hr) (fun s' hs' => ?_) hsolves⟩
    obtain rfl : s = s' := Option.some.inj (hs.symm.trans hs')
    exact h.fits s mv.riddle (.inl ⟨chat, hs⟩) hr

/-- Whatever happens next keeps the sessions sound, if it registers no code again. -/
theorem next {what : Happening} (h : Sound past c) (hh : c.happen? admins what = some c')
    (hnew : NeverAgain (past ++ [c] ++ [c'])) : Sound (past ++ [c]) c' := by
  have hchange := change_of_happen hh
  refine ⟨fun code r hr => ?_, fun s hs => ?_, fun s r hs hr => ?_, fun t e ht => ?_⟩
  · rcases hchange.get?_eq_some hr with hr | ⟨-, document, hdoc⟩
    · exact h.closed code r hr
    · exact Definition.closed_of_ofDocument hdoc
  · rcases inPlay_of_happen hh hs with hs | ⟨-, hs⟩
    · obtain ⟨x, hx, hcode⟩ := h.registered s hs
      exact ⟨x, List.mem_append_left _ hx, hcode⟩
    · obtain ⟨r, hr, -⟩ := h.exists_fits hs
      exact ⟨c, by simp, Catalogue.mem_codes_iff.mpr ⟨r, hr⟩⟩
  · rcases inPlay_of_happen hh hs with hs | ⟨hcat, hs⟩
    · -- an older session: its code stands for the riddle for which it has always stood
      rcases hchange.get?_eq_some hr with hr | ⟨hfree, -⟩
      · exact h.fits s r hs hr
      · obtain ⟨x, hx, hcode⟩ := h.registered s hs
        have hfree := Catalogue.get?_eq_none_iff.mp hfree
        rcases List.mem_append.mp hx with hx | hx
        · exact absurd (Catalogue.mem_codes_iff.mpr ⟨r, hr⟩) (hnew.not_mem hx hcode hfree)
        · rw [List.mem_singleton.mp hx] at hcode
          exact absurd hcode hfree
    · obtain ⟨r', hr', hfits⟩ := h.exists_fits hs
      rw [hcat, hr'] at hr
      obtain rfl := Option.some.inj hr
      exact hfits
  · rcases crashed_of_happen hh ht with ht | ⟨m, hp⟩
    · exact h.known t e ht
    · obtain ⟨s, r, hs, hr, hnone⟩ := unknown_of_plan hp
      have hknown := (h.fits s r (.inl ⟨m.chat, hs⟩) hr).known
      rw [hnone] at hknown
      cases hknown

/-- Sessions are sound at every point of every run in which no riddle comes again. -/
theorem of_run {source : CodeSource} (h : Run admins (idle (Bot.start source)) past c)
    (hnew : NeverAgain (past ++ [c])) : Sound past c := by
  induction h with
  | start => exact start source
  | next _ what happens ih => exact (ih hnew.of_append).next happens hnew

end Sound

/-- In every run from the beginning in which no code is registered again after it has been removed,
whatever the texts, the turns and the failures: a session whose code is that of a riddle is in a
state of the riddle, and in an accepting one only if that is the initial state. No text is ever at
an unknown state. -/
theorem session_fits_of_run {source : CodeSource} {past : List Concurrent}
    (h : Run admins (idle (Bot.start source)) past c) (hnew : NeverAgain (past ++ [c])) :
    (∀ chat s r, c.bot.sessions.get? chat = some s →
      c.bot.catalogue.get? s.riddle = some r →
        (r.definition.state? s.state).isSome ∧
          (r.definition.isAccepting s.state = true → s.state = r.definition.initialState)) ∧
      ∀ t e, (t, Outcome.crashed (.unknownState e)) ∉ c.ended := by
  have hsound := Sound.of_run h hnew
  refine ⟨fun chat s r hs hr => ?_, hsound.known⟩
  have hfits := hsound.fits s r (.inl ⟨chat, hs⟩) hr
  exact ⟨hfits.known, hfits.unsolved⟩

/-- A riddle with a door, a hall and a room. -/
def doorDocument : Document :=
  ⟨"door", ["room"],
    [⟨"door", [⟨.text "knock", [.message "Who is there?"], some "hall"⟩]⟩,
      ⟨"hall", [⟨.either, [.message "Come in"], some "room"⟩]⟩, ⟨"room", []⟩]⟩

/-- Somebody comes to the hall, and the riddle of another code is removed. -/
theorem session_fits_of_run_door :
    ∃ past c, Run [] (idle (Bot.start (.ofKnown []))) past c ∧
      NeverAgain (past ++ [c]) ∧ c.bot.sessions.get? 1 = some ⟨"k", "hall"⟩ ∧
      c.bot.catalogue.codes = ["k"] ∧
      ∀ r, c.bot.catalogue.get? "k" = some r → (r.definition.state? "hall").isSome := by
  have hreplay : ∃ s, replay []
      [.register (some "k") "Door" "" 7 doorDocument, .register (some "q") "Door" "" 7 doorDocument,
        .text ⟨1, none, "/startriddle"⟩, .turn 0 fun _ => none, .turn 0 fun _ => none,
        .text ⟨1, none, "k"⟩, .turn 0 fun _ => none, .turn 0 fun _ => some (.failed ⟨"down"⟩),
        .text ⟨1, none, "knock"⟩, .turn 0 fun _ => none, .remove "q", .turn 0 fun _ => none]
      ([], idle (Bot.start (.ofKnown []))) = some s ∧
      decide (NeverAgain (s.1 ++ [s.2]) ∧ s.2.bot.sessions.get? 1 = some ⟨"k", "hall"⟩ ∧
        s.2.bot.catalogue.codes = ["k"]) = true := by
    rw [← Option.any_eq_true]
    decide +kernel
  obtain ⟨⟨past, c⟩, hs, hcheck⟩ := hreplay
  obtain ⟨hnew, hsession, hcodes⟩ := of_decide_eq_true hcheck
  have h := Run.replay .start hs
  refine ⟨past, c, h, hnew, hsession, hcodes, fun r hr => ?_⟩
  exact ((session_fits_of_run h hnew).1 1 _ r hsession hr).1

end Concurrent

end ChatRiddles
