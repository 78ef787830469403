import ChatRiddles.Proofs.Locality
import ChatRiddles.Proofs.Sessions
/-!
# Games follow the automaton of their riddle

A definition is an automaton: in a state, a text picks the first edge that accepts it, sets off the
actions of the edge, and leads to the state that the edge leads to. A text that no edge accepts sets
off nothing and leads nowhere. This is told here without a bot: `Definition.pick?`, and from it the
state and the actions after any number of texts.

A game in a chat is that automaton started in its initial state. Its deliveries are those of the
actions, up to the first text after which the state is accepting; then the game is won, and later
texts find no game.

Main statement: `Bot.game_follows_automaton`.
-/

namespace ChatRiddles

/-! ## The automaton -/

namespace Definition

/-- The edge that a text picks in a state: the first one that accepts it. -/
def pick? (d : Definition) (state text : String) : Option Edge :=
  (d.state? state).bind fun s => s.edges.find? (·.prompt.accepts text)

/-- The state after a text. -/
def advance (d : Definition) (state text : String) : String :=
  ((d.pick? state text).bind (·.next)).getD state

/-- The actions that a text sets off. -/
def reaction (d : Definition) (state text : String) : List Action :=
  ((d.pick? state text).map (·.actions)).getD []

/-- The state after texts. -/
def stateAfter (d : Definition) (state : String) (texts : List String) : String :=
  texts.foldl d.advance state

/-- The actions that texts set off one after another. -/
def actionsOver (d : Definition) : (state : String) → (texts : List String) → List Action
  | _, [] => []
  | state, text :: rest => d.reaction state text ++ d.actionsOver (d.advance state text) rest

/-- After a number of texts, at least one, the state is accepting, and the last of them was for a
state that there is. -/
structure SolvedAfter (d : Definition) (state : String) (texts : List String) (n : Nat) : Prop where
  positive : 0 < n
  le_length : n ≤ texts.length
  -- the last of them is for a state of the definition
  known : (d.state? (d.stateAfter state (texts.take (n - 1)))).isSome
  accepting : d.isAccepting (d.stateAfter state (texts.take n)) = true

variable {d : Definition} {state text : String}

instance (texts : List String) (n : Nat) : Decidable (d.SolvedAfter state texts n) :=
  decidable_of_iff (0 < n ∧ n ≤ texts.length ∧
      (d.state? (d.stateAfter state (texts.take (n - 1)))).isSome ∧
      d.isAccepting (d.stateAfter state (texts.take n)) = true)
    ⟨fun h => ⟨h.1, h.2.1, h.2.2.1, h.2.2.2⟩, fun h => ⟨h.1, h.2, h.3, h.4⟩⟩

/-- One text solves the riddle if its edge leads from a known state into an accepting one. -/
theorem solvedAfter_one {rest : List String} :
    d.SolvedAfter state (text :: rest) 1 ↔
      (d.state? state).isSome ∧ d.isAccepting (d.advance state text) = true :=
  ⟨fun h => ⟨h.known, h.accepting⟩,
    fun h => ⟨Nat.one_pos, Nat.succ_le_succ (Nat.zero_le _), h.1, h.2⟩⟩

/-- A first text puts off by one when the state is accepting. -/
theorem solvedAfter_cons {rest : List String} {n : Nat} (hn : 0 < n) :
    d.SolvedAfter state (text :: rest) (n + 1) ↔
      d.SolvedAfter (d.advance state text) rest n := by
  obtain ⟨n, rfl⟩ := Nat.exists_eq_add_one.mpr hn
  constructor
  · intro h
    exact ⟨hn, Nat.le_of_succ_le_succ h.le_length, h.known, h.accepting⟩
  · intro h
    exact ⟨Nat.succ_pos _, Nat.succ_le_succ h.le_length, h.known, h.accepting⟩

/-- The actions over texts are those of the first, then those of the rest from the next state on. -/
theorem actionsOver_cons (rest : List String) :
    d.actionsOver state (text :: rest) =
      d.reaction state text ++ d.actionsOver (d.advance state text) rest := rfl

/-- A state finds the edge that a text picks, whatever its index is. -/
theorem State.edgeFor?_snd (s : State) :
    (s.edgeFor? text).map (·.2) = s.edges.find? (·.prompt.accepts text) := by
  have hzip : ∀ (l : List Edge) (i : Nat),
      ((l.zipIdx i).find? fun p => p.1.prompt.accepts text).map (·.1) =
        l.find? (·.prompt.accepts text) := by
    intro l
    induction l with
    | nil => exact fun _ => rfl
    | cons e rest ih =>
      intro i
      rw [List.zipIdx_cons, List.find?_cons, List.find?_cons]
      cases e.prompt.accepts text with
      | true => rfl
      | false => exact ih (i + 1)
  rw [State.edgeFor?, Option.map_map]
  exact hzip s.edges 0

/-- The automaton stays among the states of a closed definition. -/
theorem Closed.isSome_advance (h : d.Closed) (hs : (d.state? state).isSome) :
    (d.state? (d.advance state text)).isSome := by
  obtain ⟨s, hs'⟩ := Option.isSome_iff_exists.mp hs
  have hmem : s ∈ d.states := List.mem_of_find?_eq_some hs'
  unfold advance pick?
  rw [hs', Option.bind_some]
  cases he : s.edges.find? (·.prompt.accepts text) with
  | none => exact hs
  | some e =>
    cases hn : e.next with
    | none =>
      rw [Option.bind_some, hn]
      exact hs
    | some target =>
      rw [Option.bind_some, hn]
      exact h.next s hmem e (List.mem_of_find?_eq_some he) target hn

/-- Where there is no state, no edge is picked. -/
theorem pick?_of_unknown (h : d.state? state = none) : d.pick? state text = none := by
  rw [pick?, h, Option.bind_none]

/-- From an unknown state no text leads anywhere. -/
theorem advance_of_unknown (h : d.state? state = none) : d.advance state text = state := by
  rw [advance, pick?_of_unknown h]
  rfl

theorem reaction_of_unknown (h : d.state? state = none) : d.reaction state text = [] := by
  rw [reaction, pick?_of_unknown h]
  rfl

end Definition

/-! ## One text -/

/-- The messenger that makes every delivery. -/
def Messenger.reliable : Messenger := fun _ => none

/-- What a chat is told when its game is won. -/
def solvedDelivery (chat : Int) : Delivery := ⟨chat, "You solved the riddle!"⟩

/-- A move is a step of the automaton. -/
theorem Play.move_eq_advance {catalogue : Catalogue} {sessions : Sessions} {chat : Int}
    {s : Session} {r : Riddle} {text : String} (hs : sessions.get? chat = some s)
    (hr : catalogue.get? s.riddle = some r) (hstate : (r.definition.state? s.state).isSome) :
    move catalogue sessions chat text =
      .ok ⟨r, { s with state := r.definition.advance s.state text },
        (r.definition.reaction s.state text).map (·.delivery chat)⟩ := by
  obtain ⟨state, hstate⟩ := Option.isSome_iff_exists.mp hstate
  have hpick : r.definition.pick? s.state text = (state.edgeFor? text).map (·.2) := by
    rw [Definition.pick?, hstate, Option.bind_some, Definition.State.edgeFor?_snd]
  unfold Definition.advance Definition.reaction
  rw [hpick]
  simp only [move, hs, hr, Walk.chooseEdge_of_state hstate]
  cases state.edgeFor? text with
  | none => rfl
  | some taken => rfl

namespace Bot

variable {admins : Admins} {b : Bot} {chat : Int} {user : Option Int} {text : String}
  {r : Riddle} {state : String}

/-- Deliveries that are all made come before what follows them. -/
theorem perform_deliveries_reliable (chat : Int) (b : Bot) (ds : List Delivery) (rest : List Act) :
    perform (.always .reliable) chat b (ds.map .deliver ++ rest) =
      { perform (.always .reliable) chat b rest with
        sent := ds ++ (perform (.always .reliable) chat b rest).sent
        tried := (perform (.always .reliable) chat b rest).tried + ds.length } := by
  induction ds with
  | nil => rfl
  | cons d ds ih =>
    have hd : Course.always .reliable 0 d = none := rfl
    rw [List.map_cons, List.cons_append, perform_deliver_of_none hd, Course.next_always, ih]
    rfl

/-- Texts of users who are no administrators are taken as those of players. -/
theorem route_of_not_admin (huser : ∀ u ∈ user, u ∉ admins) :
    b.route admins ⟨chat, user, text⟩ = b.playerRoute chat text := by
  have hadmin : Incoming.admin? ⟨chat, user, text⟩ admins = none := by
    rw [Incoming.admin?, Option.filter_eq_none_iff]
    intro u hu
    simpa using huser u hu
  rw [route, hadmin]

/-- The part for players that a text is for if it is no command. -/
theorem playerRoute_of_not_command (ht : PlayerCommand.ofText? text = none) :
    b.playerRoute chat text =
      if (b.awaiting.get? chat).isSome then .code
      else if (b.sessions.get? chat).isSome then .game
      else .unheeded := by
  rw [playerRoute, ht]
  rfl

/-- A chat plays a riddle, and the session is in a state. -/
structure Plays (b : Bot) (chat : Int) (r : Riddle) (state : String) : Prop where
  riddle : b.catalogue.get? r.code = some r
  session : b.sessions.get? chat = some ⟨r.code, state⟩
  awaiting : b.awaiting.get? chat = none

/-- A chat neither plays nor awaits a code. -/
structure Rests (b : Bot) (chat : Int) : Prop where
  session : b.sessions.get? chat = none
  awaiting : b.awaiting.get? chat = none

/-- A text in a game is for a move in it. -/
theorem Plays.plan_eq_planMove (h : b.Plays chat r state) (huser : ∀ u ∈ user, u ∉ admins)
    (ht : PlayerCommand.ofText? text = none) :
    plan admins b ⟨chat, user, text⟩ = planMove b chat text := by
  rw [plan_eq_route, route_of_not_admin huser, playerRoute_of_not_command ht, h.awaiting,
    h.session]
  rfl

/-- A text for a state that the riddle lacks changes nothing. -/
theorem Plays.handle_of_unknown (h : b.Plays chat r state)
    (hunknown : r.definition.state? state = none) (huser : ∀ u ∈ user, u ∉ admins)
    (ht : PlayerCommand.ofText? text = none) :
    b.handle admins .reliable ⟨chat, user, text⟩ =
      ⟨b, [], 0, [], .crashed (.unknownState ⟨state⟩)⟩ := by
  have hmove : Play.move b.catalogue b.sessions chat text = .error (.unknownState ⟨state⟩) := by
    simp only [Play.move, h.session, h.riddle, Walk.chooseEdge, hunknown]
  show b.handleIn admins _ _ = _
  rw [handleIn, h.plan_eq_planMove huser ht, planMove_of_unknownState hmove]

/-- What a text does in a game is what it does in the automaton: the actions are delivered, and the
game goes on in the next state, or is won if that is accepting. -/
theorem Plays.handle_of_known (h : b.Plays chat r state)
    (hknown : (r.definition.state? state).isSome) (huser : ∀ u ∈ user, u ∉ admins)
    (ht : PlayerCommand.ofText? text = none) :
    let next := r.definition.advance state text
    let sent := (r.definition.reaction state text).map (·.delivery chat)
    let after := b.handle admins .reliable ⟨chat, user, text⟩
    after.outcome = .handled ∧
      (r.definition.isAccepting next = false → after.sent = sent ∧ after.bot.Plays chat r next) ∧
      (r.definition.isAccepting next = true →
        after.sent = sent ++ [solvedDelivery chat] ∧ after.bot.Rests chat) := by
  intro next sent after
  have hmove : Play.move b.catalogue b.sessions chat text =
      .ok ⟨r, ⟨r.code, next⟩, sent⟩ :=
    Play.move_eq_advance h.session h.riddle hknown
  have hafter : after = perform (.always .reliable) chat b
      (sent.map .deliver ++ settlement ⟨r, ⟨r.code, next⟩, sent⟩ chat) := by
    show b.handleIn admins _ _ = _
    rw [handleIn, h.plan_eq_planMove huser ht, planMove_of_move hmove]
  rw [perform_deliveries_reliable] at hafter
  cases hsolves : r.definition.isAccepting next with
  | false =>
    have hsettle : settlement ⟨r, ⟨r.code, next⟩, sent⟩ chat = [.enter ⟨r.code, next⟩] := by
      simp [settlement, Play.Move.solves, hsolves]
    rw [hsettle] at hafter
    rw [hafter]
    refine ⟨rfl, fun _ => ⟨List.append_nil _, ?_⟩, fun h => absurd h (by decide)⟩
    exact ⟨h.riddle, by simp [perform, settle, enter], h.awaiting⟩
  | true =>
    have hsettle : settlement ⟨r, ⟨r.code, next⟩, sent⟩ chat =
        [.leave, .note (.riddleSolved r.code chat), .deliver (solvedDelivery chat)] := by
      simp [settlement, Play.Move.solves, Play.Move.notices, hsolves, reply, solvedDelivery]
    rw [hsettle] at hafter
    rw [hafter]
    refine ⟨rfl, fun h => absurd h (by decide), fun _ => ⟨rfl, ?_⟩⟩
    exact ⟨by simp [perform, settle, leave, Messenger.reliable], h.awaiting⟩

/-- Unless a text leads from a state of the riddle to an accepting one, the chat plays on in the
state of the automaton. -/
theorem Plays.handle_of_unsolved (h : b.Plays chat r state) (huser : ∀ u ∈ user, u ∉ admins)
    (ht : PlayerCommand.ofText? text = none)
    (hunsolved : ¬ ((r.definition.state? state).isSome ∧
      r.definition.isAccepting (r.definition.advance state text) = true)) :
    let after := b.handle admins .reliable ⟨chat, user, text⟩
    after.sent = (r.definition.reaction state text).map (·.delivery chat) ∧
      after.bot.Plays chat r (r.definition.advance state text) := by
  intro after
  cases hstate : r.definition.state? state with
  | none =>
    have hafter : after = ⟨b, [], 0, [], .crashed (.unknownState ⟨state⟩)⟩ :=
      h.handle_of_unknown hstate huser ht
    rw [hafter, Definition.advance_of_unknown hstate, Definition.reaction_of_unknown hstate]
    exact ⟨rfl, h⟩
  | some s =>
    have hknown : (r.definition.state? state).isSome := Option.isSome_iff_exists.mpr ⟨s, hstate⟩
    obtain ⟨-, hgoes, -⟩ := h.handle_of_known hknown huser ht
    apply hgoes
    rw [Bool.eq_false_iff]
    exact fun ha => hunsolved ⟨hknown, ha⟩

/-- Where nobody plays and no code is awaited, a text of a user who is no administrator is passed
over. -/
theorem Rests.handle (h : b.Rests chat) (huser : ∀ u ∈ user, u ∉ admins)
    (ht : PlayerCommand.ofText? text = none) :
    b.handle admins .reliable ⟨chat, user, text⟩ = ⟨b, [], 0, [], .handled⟩ := by
  have hplan : plan admins b ⟨chat, user, text⟩ = .ok ⟨b, []⟩ := by
    rw [plan_eq_route, route_of_not_admin huser, playerRoute_of_not_command ht, h.awaiting,
      h.session]
    rfl
  show b.handleIn admins _ _ = _
  rw [handleIn, hplan]
  rfl

/-! ## Runs -/

/-- Texts that find no game change nothing. -/
theorem Rests.handleAll (h : b.Rests chat) (huser : ∀ u ∈ user, u ∉ admins) {texts : List String}
    (htexts : ∀ t ∈ texts, PlayerCommand.ofText? t = none) :
    b.handleAll admins .reliable (texts.map (⟨chat, user, ·⟩)) =
      ⟨b, [], 0, [], texts.map fun _ => .handled⟩ := by
  induction texts with
  | nil => rfl
  | cons text rest ih =>
    rw [List.forall_mem_cons] at htexts
    rw [List.map_cons, Bot.handleAll, h.handle huser htexts.1]
    simp only [ih htexts.2]
    rfl

/-- As long as no text leads to an accepting state, the chat plays on in the state of the
automaton. -/
theorem Plays.handleAll (h : b.Plays chat r state) (huser : ∀ u ∈ user, u ∉ admins)
    {texts : List String} (htexts : ∀ t ∈ texts, PlayerCommand.ofText? t = none)
    (hunsolved : ∀ n, ¬ r.definition.SolvedAfter state texts n) :
    let after := b.handleAll admins .reliable (texts.map (⟨chat, user, ·⟩))
    after.sent = (r.definition.actionsOver state texts).map (·.delivery chat) ∧
      after.bot.Plays chat r (r.definition.stateAfter state texts) := by
  induction texts generalizing b state with
  | nil => exact ⟨rfl, h⟩
  | cons text rest ih =>
    rw [List.forall_mem_cons] at htexts
    obtain ⟨hsent, hplays⟩ := h.handle_of_unsolved huser htexts.1 fun hs =>
      hunsolved 1 (Definition.solvedAfter_one.mpr hs)
    obtain ⟨hsent', hplays'⟩ := ih hplays htexts.2 fun n hn =>
      hunsolved (n + 1) ((Definition.solvedAfter_cons hn.positive).mpr hn)
    refine ⟨?_, hplays'⟩
    show _ ++ _ = _
    rw [hsent, hsent', Definition.actionsOver_cons, List.map_append]

/-- The text that leads to an accepting state wins the game, and later texts find none. -/
theorem Plays.handleAll_of_solved (h : b.Plays chat r state) (huser : ∀ u ∈ user, u ∉ admins)
    {texts : List String} (htexts : ∀ t ∈ texts, PlayerCommand.ofText? t = none) {n : Nat}
    (hsolved : r.definition.SolvedAfter state texts n)
    (hfirst : ∀ k < n, ¬ r.definition.SolvedAfter state texts k) :
    let after := b.handleAll admins .reliable (texts.map (⟨chat, user, ·⟩))
    after.sent = (r.definition.actionsOver state (texts.take n)).map (·.delivery chat) ++
        [solvedDelivery chat] ∧
      after.bot.Rests chat := by
  induction texts generalizing b state n with
  | nil => exact absurd (Nat.lt_of_lt_of_le hsolved.positive hsolved.le_length) (Nat.lt_irrefl 0)
  | cons text rest ih =>
    rw [List.forall_mem_cons] at htexts
    obtain ⟨n, rfl⟩ := Nat.exists_eq_add_one.mpr hsolved.positive
    cases n with
    | zero =>
      obtain ⟨hknown, hnext⟩ := Definition.solvedAfter_one.mp hsolved
      obtain ⟨-, -, hwins⟩ := h.handle_of_known hknown huser htexts.1
      obtain ⟨hsent, hrests⟩ := hwins hnext
      have hrest := hrests.handleAll huser htexts.2
      constructor
      · show _ ++ _ = _
        rw [hsent, hrest, List.append_nil]
        simp [Definition.actionsOver]
      · have hbot := congrArg Handled.bot hrest
        exact hbot.symm ▸ hrests
    | succ n =>
      have hpos : 0 < n + 1 := Nat.succ_pos n
      obtain ⟨hsent, hplays⟩ := h.handle_of_unsolved huser htexts.1 fun hs =>
        hfirst 1 (Nat.succ_lt_succ hpos) (Definition.solvedAfter_one.mpr hs)
      have hlater := (Definition.solvedAfter_cons hpos).mp hsolved
      obtain ⟨hsent', hrests⟩ := ih hplays htexts.2 hlater fun k hk hs =>
        hfirst (k + 1) (Nat.succ_lt_succ hk) ((Definition.solvedAfter_cons hs.positive).mpr hs)
      refine ⟨?_, hrests⟩
      show _ ++ _ = _
      rw [hsent, hsent', List.take_succ_cons, Definition.actionsOver_cons, List.map_append,
        List.append_assoc]

/-- No text fails in a game of a closed definition. -/
theorem Plays.outcome_handleAll (h : b.Plays chat r state) (hclosed : r.definition.Closed)
    (hknown : (r.definition.state? state).isSome) (huser : ∀ u ∈ user, u ∉ admins)
    {texts : List String} (htexts : ∀ t ∈ texts, PlayerCommand.ofText? t = none) :
    (b.handleAll admins .reliable (texts.map (⟨chat, user, ·⟩))).outcome =
      texts.map fun _ => .handled := by
  induction texts generalizing b state with
  | nil => rfl
  | cons text rest ih =>
    rw [List.forall_mem_cons] at htexts
    obtain ⟨ho, hgoes, hwins⟩ := h.handle_of_known hknown huser htexts.1
    show _ :: _ = _ :: _
    rw [ho]
    cases hnext : r.definition.isAccepting (r.definition.advance state text) with
    | false => rw [ih (hgoes hnext).2 (hclosed.isSome_advance hknown) htexts.2]
    | true => rw [(hwins hnext).2.handleAll huser htexts.2]

/-! ## Games from their beginning -/

/-- The bot after a user has sent the command that starts riddles, and a code. -/
def begun (admins : Admins) (b : Bot) (chat : Int) (user : Option Int) (code : String) : Bot :=
  (b.handleAll admins .reliable [⟨chat, user, "/startriddle"⟩, ⟨chat, user, code⟩]).bot

/-- All that a command for players changes is changed at once. -/
theorem bot_handle_of_command {c : PlayerCommand} (huser : ∀ u ∈ user, u ∉ admins)
    (ht : PlayerCommand.ofText? text = some c) :
    (b.handle admins .reliable ⟨chat, user, text⟩).bot = (planPlayerCommand b chat c).bot := by
  have hroute : b.playerRoute chat text = .playerCommand c := by
    rw [playerRoute, ht]
  have hplan : plan admins b ⟨chat, user, text⟩ = .ok (planPlayerCommand b chat c) := by
    rw [plan_eq_route, route_of_not_admin huser, hroute]
    rfl
  show (b.handleIn admins _ _).bot = _
  rw [handleIn, hplan]
  exact perform_bot_of_quiet _ fun a ha =>
    Act.isQuiet_of_isAnswer (answers_of_planPlayerCommand c a ha)

/-- The code of a registered riddle begins a game of it, in the initial state. -/
theorem plays_begun (hr : r ∈ b.catalogue.riddles) (huser : ∀ u ∈ user, u ∉ admins)
    (hcode : codeIn r.code = r.code) (hcommand : PlayerCommand.ofText? r.code = none) :
    (b.begun admins chat user r.code).Plays chat r r.definition.initialState := by
  have hget : b.catalogue.get? r.code = some r := Catalogue.get?_of_mem hr
  -- the command asks for a code
  have hparse : PlayerCommand.ofText? "/startriddle" = some .startRiddle := by decide +kernel
  have hasked : (b.handle admins .reliable ⟨chat, user, "/startriddle"⟩).bot =
      ((b.stopAwaiting chat).leave chat).await chat :=
    bot_handle_of_command huser hparse
  -- the code enters the riddle
  have hplan : plan admins (((b.stopAwaiting chat).leave chat).await chat) ⟨chat, user, r.code⟩ =
      .ok (planCode (((b.stopAwaiting chat).leave chat).await chat) chat r.code) := by
    have hawaits : (((b.stopAwaiting chat).leave chat).await chat).awaiting.get? chat =
        some () := by simp [await]
    rw [plan_eq_route, route_of_not_admin huser, playerRoute_of_not_command hcommand, hawaits]
    rfl
  have hbegun : b.begun admins chat user r.code =
      ((((b.stopAwaiting chat).leave chat).await chat).enter chat
        ⟨r.code, r.definition.initialState⟩).stopAwaiting chat := by
    show ((b.handle admins .reliable _).bot.handleIn admins _ _).bot = _
    rw [hasked, handleIn, hplan, planCode_of_some (hcode.symm ▸ hget), hcode]
    rfl
  rw [hbegun]
  exact ⟨hget, by simp [stopAwaiting, enter], by simp [stopAwaiting]⟩

/-- A game of a registered riddle follows the automaton of the riddle, whatever texts are sent that
are no commands. Until the state is accepting, the deliveries are those of the actions that the
texts set off, and the session is in the state of the automaton. The first text that leads to an
accepting state wins the game: the chat is told so after the actions of that text, nothing is
delivered any more, and there is no session. If the definition is closed, as every compiled one is
(`Definition.closed_of_ofDocument`), no text fails. -/
theorem game_follows_automaton (hr : r ∈ b.catalogue.riddles) (huser : ∀ u ∈ user, u ∉ admins)
    (hcode : codeIn r.code = r.code) (hcommand : PlayerCommand.ofText? r.code = none)
    {texts : List String} (htexts : ∀ t ∈ texts, PlayerCommand.ofText? t = none) :
    let d := r.definition
    let played := (b.begun admins chat user r.code).handleAll admins .reliable
      (texts.map (⟨chat, user, ·⟩))
    (d.Closed → played.outcome = texts.map fun _ => .handled) ∧
      ((∀ n, ¬ d.SolvedAfter d.initialState texts n) →
        played.sent = (d.actionsOver d.initialState texts).map (·.delivery chat) ∧
          played.bot.sessions.get? chat = some ⟨r.code, d.stateAfter d.initialState texts⟩) ∧
      ∀ n, d.SolvedAfter d.initialState texts n →
        (∀ k < n, ¬ d.SolvedAfter d.initialState texts k) →
        played.sent = (d.actionsOver d.initialState (texts.take n)).map (·.delivery chat) ++
            [⟨chat, "You solved the riddle!"⟩] ∧
          played.bot.sessions.get? chat = none := by
  intro d played
  have hplays : (b.begun admins chat user r.code).Plays chat r r.definition.initialState :=
    plays_begun hr huser hcode hcommand
  refine ⟨?_, ?_, ?_⟩
  · intro hclosed
    exact hplays.outcome_handleAll hclosed hclosed.initial huser htexts
  · intro hunsolved
    obtain ⟨hsent, hplays'⟩ := hplays.handleAll huser htexts hunsolved
    exact ⟨hsent, hplays'.session⟩
  · intro n hsolved hfirst
    obtain ⟨hsent, hrests⟩ := hplays.handleAll_of_solved huser htexts hsolved hfirst
    exact ⟨hsent, hrests.session⟩

/-- A riddle that greets, and tells another chat about it, until somebody wants to go on. -/
def greeter : Riddle :=
  ⟨"k", "", "", 7, ⟨"a", ["b"],
    [⟨"a", [⟨.text "hi", [.message "Hello", .sendTo 9 "Somebody is here"], none⟩,
      ⟨.text "go", [.message "Bye"], some "b"⟩]⟩, ⟨"b", []⟩]⟩⟩

/-- A greeting, a text that no edge accepts, the text that wins, and one that comes too late. -/
theorem game_follows_automaton_greeter :
    ∃ b : Bot, greeter ∈ b.catalogue.riddles ∧
      codeIn greeter.code = greeter.code ∧ PlayerCommand.ofText? greeter.code = none ∧
      (∀ t ∈ ["hi", "what", "go", "hi"], PlayerCommand.ofText? t = none) ∧
      (let played := (b.begun [5] 1 (some 3) greeter.code).handleAll [5] .reliable
        (["hi", "what", "go", "hi"].map (⟨1, some 3, ·⟩))
      played.sent = [⟨1, "Hello"⟩, ⟨9, "Somebody is here"⟩, ⟨1, "Bye"⟩,
          ⟨1, "You solved the riddle!"⟩] ∧ played.bot.sessions.get? 1 = none) := by
  refine ⟨⟨⟨[greeter], by decide⟩, (.ofKnown []), .empty, .empty, .empty⟩,
    List.mem_cons_self, by decide +kernel, by decide +kernel, by decide +kernel, ?_⟩
  have hgame := @game_follows_automaton [5]
    ⟨⟨[greeter], by decide⟩, (.ofKnown []), .empty, .empty, .empty⟩ 1 (some 3) greeter
    List.mem_cons_self (by decide) (by decide +kernel) (by decide +kernel)
    ["hi", "what", "go", "hi"] (by decide +kernel)
  obtain ⟨hsent, hsession⟩ := hgame.2.2 3 (by decide +kernel) (by decide +kernel)
  exact ⟨hsent.trans (by decide +kernel), hsession⟩

end Bot

end ChatRiddles
