import ChatRiddles.Bot.Handling
import Mathlib.Tactic.Common
/-!
# The ways texts go

A text is for one of six parts of the bot: the commands and the dialogues for administrators, the
commands for players, the code of a riddle to play, the game of the chat, or none at all. Which one
depends on the text and on what the bot keeps for its chat.

Where a plan is made of parts of the bot, it is given here in closed form: the bot with something
set or cleared in the chat.

Main definitions: `TextRoute`, `Bot.route`. Main statements: `plan_eq_route`, `plan_cases` (what a
text does at once).
-/

namespace ChatRiddles

/-- The part of the bot that a text is for. -/
inductive TextRoute where
  | adminCommand (c : AdminCommand)
  | answer (user : Int) (w : Wizard)
  | playerCommand (c : PlayerCommand)
  | code
  | game
  | unheeded
  deriving DecidableEq, Repr

namespace Bot

/-- The part for players that a text is for. -/
def playerRoute (b : Bot) (chat : Int) (text : String) : TextRoute :=
  match PlayerCommand.ofText? text with
  | some c => .playerCommand c
  | none =>
    if b.awaiting.contains chat then .code
    else if b.sessions.contains chat then .game
    else .unheeded

/-- The part that a text is for. -/
def route (b : Bot) (admins : Admins) (m : Incoming) : TextRoute :=
  match m.admin? admins with
  | none => b.playerRoute m.chat m.text
  | some user =>
    match AdminCommand.ofText? m.text with
    | some c => .adminCommand c
    | none =>
      match b.wizards.get? m.chat with
      | some w => .answer user w
      | none => b.playerRoute m.chat m.text

end Bot

/-- The plan of a part for a text. -/
def TextRoute.plan (b : Bot) (m : Incoming) : TextRoute → Except Crash Plan
  | .adminCommand c => .ok (planAdminCommand b m.chat c)
  | .answer user w => planAnswer b m.chat user m.text w
  | .playerCommand c => .ok (planPlayerCommand b m.chat c)
  | .code => .ok (planCode b m.chat m.text)
  | .game => planMove b m.chat m.text
  | .unheeded => .ok ⟨b, []⟩

section Routes

variable {admins : Admins} {b : Bot} {m : Incoming}

/-- The plan for a player is that of the route of the text. -/
theorem planPlayer_eq_route :
    planPlayer b m.chat m.text = (b.playerRoute m.chat m.text).plan b m := by
  unfold planPlayer Bot.playerRoute
  cases PlayerCommand.ofText? m.text with
  | some c => rfl
  | none =>
    by_cases hc : b.awaiting.contains m.chat = true
    · rw [if_pos hc, if_pos hc]
      rfl
    · rw [if_neg hc, if_neg hc]
      by_cases hs : b.sessions.contains m.chat = true
      · rw [if_pos hs, if_pos hs]
        rfl
      · rw [if_neg hs, if_neg hs]
        rfl

/-- A text is planned by the part that it is for. -/
theorem plan_eq_route : plan admins b m = (b.route admins m).plan b m := by
  unfold plan Bot.route
  cases m.admin? admins with
  | none => exact planPlayer_eq_route
  | some user =>
    simp only [planAdmin?]
    cases AdminCommand.ofText? m.text with
    | some c => rfl
    | none =>
      simp only
      cases b.wizards.get? m.chat with
      | some w => rfl
      | none => exact planPlayer_eq_route

theorem playerRoute_ne_answer {chat user : Int} {text : String} {w : Wizard} :
    b.playerRoute chat text ≠ .answer user w := by
  unfold Bot.playerRoute
  split
  · exact nofun
  · split
    · exact nofun
    · split
      · exact nofun
      · exact nofun

/-- An answer belongs to a dialogue that is under way. -/
theorem wizard_of_route {user : Int} {w : Wizard} (h : b.route admins m = .answer user w) :
    b.wizards.get? m.chat = some w := by
  unfold Bot.route at h
  split at h
  · exact absurd h playerRoute_ne_answer
  · split at h
    · cases h
    · split at h
      · rename_i hw
        rw [hw]
        cases h
        rfl
      · exact absurd h playerRoute_ne_answer

/-- An answer comes from an administrator. -/
theorem admin_of_route {user : Int} {w : Wizard} (h : b.route admins m = .answer user w) :
    user ∈ admins := by
  unfold Bot.route at h
  split at h
  · exact absurd h playerRoute_ne_answer
  · rename_i hadmin
    split at h
    · cases h
    · split at h
      · cases h
        exact List.contains_iff_mem.mp (Option.filter_eq_some_iff.mp hadmin).2
      · exact absurd h playerRoute_ne_answer

/-- What a text for a part for players has passed. -/
theorem playerRoute_of_route {r : TextRoute} (h : b.route admins m = r)
    (hc : ∀ c, r ≠ .adminCommand c) (ha : ∀ user w, r ≠ .answer user w) :
    b.playerRoute m.chat m.text = r := by
  unfold Bot.route at h
  split at h
  · exact h
  · split at h
    · exact absurd h.symm (hc _)
    · split at h
      · exact absurd h.symm (ha _ _)
      · exact h

/-- A code is given where one is awaited. -/
theorem awaiting_of_route (h : b.route admins m = .code) : b.awaiting.get? m.chat = some () := by
  have hp := playerRoute_of_route h nofun nofun
  unfold Bot.playerRoute at hp
  split at hp
  · cases hp
  · split at hp
    · rename_i hc
      exact Option.isSome_iff_exists.mp hc |>.choose_spec
    · split at hp <;> cases hp

/-- A game is played where there is a session. -/
theorem session_of_route (h : b.route admins m = .game) :
    ∃ s, b.sessions.get? m.chat = some s := by
  have hp := playerRoute_of_route h nofun nofun
  unfold Bot.playerRoute at hp
  split at hp
  · cases hp
  · split at hp
    · cases hp
    · split at hp
      · rename_i hc
        exact Option.isSome_iff_exists.mp hc
      · cases hp

end Routes

/-! ## Plans in closed form -/

/-- The code that a text names. -/
def codeIn (text : String) : String := String.ofList (Text.strip text.toList)

section Forms

variable {b : Bot} {chat : Int} {text : String}

/-- A game is given up if there is one; a code is awaited no longer in any case. -/
theorem planPlayerCommand_stopRiddle :
    planPlayerCommand b chat .stopRiddle =
      if b.sessions.contains chat then
        ⟨(b.stopAwaiting chat).leave chat,
          [.note (.riddleStopped chat), reply chat "Riddle stopped"]⟩
      else ⟨b.stopAwaiting chat, [reply chat "No riddle is running"]⟩ := by
  by_cases h : b.sessions.contains chat = true
  · have hstop : Play.stop? b.sessions chat = some (b.sessions.clear chat) := by
      rw [Play.stop?, if_pos h]
    rw [if_pos h]
    unfold planPlayerCommand
    simp only [Bot.stopAwaiting, hstop, Bot.leave]
  · have hstop : Play.stop? b.sessions chat = none := by
      rw [Play.stop?, if_neg h]
    rw [if_neg h]
    unfold planPlayerCommand
    simp only [Bot.stopAwaiting, hstop]

theorem planCode_of_none (h : b.catalogue.get? (codeIn text) = none) :
    planCode b chat text = ⟨b, [reply chat "Riddle not found"]⟩ := by
  unfold codeIn at h
  simp only [planCode, Play.start, h]

/-- A known code begins the game, whatever becomes of the two answers. -/
theorem planCode_of_some {riddle : Riddle} (h : b.catalogue.get? (codeIn text) = some riddle) :
    planCode b chat text =
      ⟨(b.enter chat ⟨codeIn text, riddle.definition.initialState⟩).stopAwaiting chat,
        [.note (.riddleStarted (codeIn text) chat), reply chat "Let's get started!",
          reply chat (riddle.name ++ "\n\n" ++ riddle.description)]⟩ := by
  unfold codeIn at h ⊢
  simp only [planCode, Play.start, h]
  rfl

theorem planMove_of_noRiddle {s : Session} (hs : b.sessions.get? chat = some s)
    (hr : b.catalogue.get? s.riddle = none) :
    planMove b chat text = .ok ⟨b.leave chat, [reply chat "Riddle not found"]⟩ := by
  simp only [planMove, Play.move, hs, hr, Play.afterObstacle]
  rfl

/-- A game in an unknown state breaks down. -/
theorem planMove_of_unknownState {e : Walk.UnknownState}
    (h : Play.move b.catalogue b.sessions chat text = .error (.unknownState e)) :
    planMove b chat text = .error (.unknownState e) := by
  simp only [planMove, h]

/-- A move that is settled delivers what it sends, and then the game goes on or ends. -/
theorem planMove_of_move {m : Play.Move}
    (h : Play.move b.catalogue b.sessions chat text = .ok m) :
    planMove b chat text = .ok ⟨b, m.deliveries.map .deliver ++ settlement m chat⟩ := by
  simp only [planMove, h]

theorem planAnswer_removal (user : Int) :
    planAnswer b chat user text .removal =
      if b.catalogue.contains (codeIn text) then
        .ok ⟨({ b with catalogue := b.catalogue.erase (codeIn text) } : Bot).stopAsking chat,
          [.note (.riddleRemoved (codeIn text)), reply chat "Riddle removed!"]⟩
      else .ok ⟨b, [reply chat "Riddle not found!"]⟩ := by
  unfold codeIn
  simp only [planAnswer, Bot.remove?]
  by_cases h : b.catalogue.contains (String.ofList (Text.strip text.toList)) = true
  · rw [if_pos h, if_pos h]
  · rw [if_neg h, if_neg h]

end Forms

/-- A definition that is read from a text is compiled from a document. -/
theorem Definition.ofDocument_of_ofText {text : String} {d : Definition}
    (h : ofText text = .ok d) : ∃ document, ofDocument document = .ok d := by
  unfold ofText ofBytes at h
  split at h
  · unfold ofJsonIn at h
    split at h
    · exact ⟨_, h⟩
    · cases h
  · cases h

/-! ## What a text does at once -/

/-- What an answer in a dialogue does to the bot at once. -/
inductive Answered (b : Bot) (chat : Int) : Bot → Prop
  | same : Answered b chat b
  | asked (w : Wizard) : Answered b chat (b.ask chat w)
  | stopped : Answered b chat (b.stopAsking chat)
  -- the dialogue ends with a riddle that is registered
  | registered (code : Option String) (draft : Catalogue.Draft) (document : Document)
    (compiled : Definition.ofDocument document = .ok draft.definition) {r : Catalogue.Registered}
    (register : b.catalogue.register b.source code draft = .ok r) :
    Answered b chat ((b.stopAsking chat).withRegistered r)
  | removed (code : String) :
    Answered b chat (({ b with catalogue := b.catalogue.erase code } : Bot).stopAsking chat)

section AtOnce

variable {admins : Admins} {b : Bot} {m : Incoming} {p : Plan} {chat : Int} {text : String}

/-- The document of a dialogue is rejected, or the dialogue ends, and then its riddle may be
registered. -/
theorem planDocument_cases {user : Int} {code : Option String} {name description : String}
    (h : planDocument b chat user code name description text = .ok p) :
    p.bot = b ∨ p.bot = b.stopAsking chat ∨
      ∃ definition r, Definition.ofText text = .ok definition ∧
        b.register code ⟨name, description, user, definition⟩ = .ok r ∧
        p.bot = (b.stopAsking chat).withRegistered r := by
  unfold planDocument at h
  split at h
  · cases h
  · obtain rfl := Except.ok.inj h
    exact .inl rfl
  · rename_i definition hd
    simp only at h
    split at h
    · obtain rfl := Except.ok.inj h
      exact .inr (.inl rfl)
    · rename_i r hr
      obtain rfl := Except.ok.inj h
      exact .inr (.inr ⟨definition, r, hd, hr, rfl⟩)

/-- A document is an answer in the dialogue. -/
theorem answered_of_planDocument {user : Int} {code : Option String} {name description : String}
    (h : planDocument b chat user code name description text = .ok p) :
    Answered b chat p.bot := by
  rcases planDocument_cases h with hbot | hbot | ⟨definition, r, hd, hr, hbot⟩
  · rw [hbot]
    exact .same
  · rw [hbot]
    exact .stopped
  · obtain ⟨document, hdoc⟩ := Definition.ofDocument_of_ofText hd
    rw [hbot]
    exact .registered code ⟨name, description, user, definition⟩ document hdoc hr

theorem answered_of_planAnswer {user : Int} {w : Wizard}
    (h : planAnswer b chat user text w = .ok p) : Answered b chat p.bot := by
  cases w with
  | code =>
    simp only [planAnswer] at h
    split at h
    · obtain rfl := Except.ok.inj h
      exact .same
    · obtain rfl := Except.ok.inj h
      exact .asked _
  | name code =>
    obtain rfl := Except.ok.inj h
    exact .asked _
  | description code name =>
    obtain rfl := Except.ok.inj h
    exact .asked _
  | document code name description => exact answered_of_planDocument h
  | removal =>
    rw [planAnswer_removal] at h
    split at h
    · obtain rfl := Except.ok.inj h
      exact .removed _
    · obtain rfl := Except.ok.inj h
      exact .same

/-- What the plan for a text can be. -/
theorem plan_cases (h : plan admins b m = .ok p) :
    (∃ c, p = planAdminCommand b m.chat c) ∨ Answered b m.chat p.bot ∨
      (∃ c, p = planPlayerCommand b m.chat c) ∨ p = planCode b m.chat m.text ∨
      planMove b m.chat m.text = .ok p := by
  rw [plan_eq_route] at h
  cases hr : b.route admins m with
  | adminCommand c =>
    rw [hr] at h
    exact .inl ⟨c, (Except.ok.inj h).symm⟩
  | answer user w =>
    rw [hr] at h
    exact .inr (.inl (answered_of_planAnswer h))
  | playerCommand c =>
    rw [hr] at h
    exact .inr (.inr (.inl ⟨c, (Except.ok.inj h).symm⟩))
  | code =>
    rw [hr] at h
    exact .inr (.inr (.inr (.inl (Except.ok.inj h).symm)))
  | game =>
    rw [hr] at h
    exact .inr (.inr (.inr (.inr h)))
  | unheeded =>
    rw [hr] at h
    obtain rfl := Except.ok.inj h
    exact .inr (.inl .same)

end AtOnce

/-! ## Acts that change nothing -/

/-- Whether an act leaves the bot as it is. -/
def Act.isQuiet : Act → Bool
  | .deliver _ | .note _ => true
  | .enter _ | .leave => false

/-- Whether an act only answers in a chat: it leaves the bot as it is, and what it delivers goes to
that chat. -/
def Act.isAnswer (chat : Int) : Act → Bool
  | .deliver d => d.chat == chat
  | .note _ => true
  | .enter _ | .leave => false

section Quiet

variable {admins : Admins} {b : Bot} {m : Incoming} {p : Plan} {chat : Int} {text : String}

theorem Act.settle_of_isQuiet {a : Act} (h : a.isQuiet = true) : b.settle chat a = b := by
  cases a with
  | deliver d => rfl
  | note n => rfl
  | enter s => cases h
  | leave => cases h

theorem Act.isQuiet_of_isAnswer {a : Act} (h : a.isAnswer chat = true) : a.isQuiet = true := by
  cases a with
  | deliver d => rfl
  | note n => rfl
  | enter s => cases h
  | leave => cases h

@[simp] theorem isAnswer_reply : (reply chat text).isAnswer chat = true := beq_self_eq_true chat

@[simp] theorem isAnswer_note (n : Notice) : (Act.note n).isAnswer chat = true := rfl

/-- A command of a player is followed by answers only. -/
theorem answers_of_planPlayerCommand (c : PlayerCommand) :
    ∀ a ∈ (planPlayerCommand b chat c).acts, a.isAnswer chat = true := by
  cases c with
  | stopRiddle =>
    rw [planPlayerCommand_stopRiddle]
    split <;> simp
  | help => simp [planPlayerCommand]
  | start => simp [planPlayerCommand]
  | startRiddle => simp [planPlayerCommand]

theorem answers_of_planCode : ∀ a ∈ (planCode b chat text).acts, a.isAnswer chat = true := by
  cases hg : b.catalogue.get? (codeIn text) with
  | none =>
    rw [planCode_of_none hg]
    simp
  | some r =>
    rw [planCode_of_some hg]
    simp

theorem answers_of_planAdminCommand (c : AdminCommand) :
    ∀ a ∈ (planAdminCommand b chat c).acts, a.isAnswer chat = true := by
  cases c <;> simp [planAdminCommand]

theorem answers_of_planAnswer {user : Int} {w : Wizard}
    (h : planAnswer b chat user text w = .ok p) : ∀ a ∈ p.acts, a.isAnswer chat = true := by
  cases w with
  | code =>
    simp only [planAnswer] at h
    split at h <;> obtain rfl := Except.ok.inj h <;> simp
  | name code =>
    obtain rfl := Except.ok.inj h
    simp
  | description code name =>
    obtain rfl := Except.ok.inj h
    simp
  | document code name description =>
    simp only [planAnswer, planDocument] at h
    split at h
    · cases h
    · obtain rfl := Except.ok.inj h
      simp
    · split at h <;> obtain rfl := Except.ok.inj h <;> simp
  | removal =>
    rw [planAnswer_removal] at h
    split at h <;> obtain rfl := Except.ok.inj h <;> simp

/-- Outside of games a text is answered in its chat, and everything that it changes is changed at
once. -/
theorem answers_of_plan (h : plan admins b m = .ok p) (hr : b.route admins m ≠ .game) :
    ∀ a ∈ p.acts, a.isAnswer m.chat = true := by
  rw [plan_eq_route] at h
  cases hroute : b.route admins m with
  | adminCommand c =>
    rw [hroute] at h
    obtain rfl := Except.ok.inj h
    exact answers_of_planAdminCommand c
  | answer user w =>
    rw [hroute] at h
    exact answers_of_planAnswer h
  | playerCommand c =>
    rw [hroute] at h
    obtain rfl := Except.ok.inj h
    exact answers_of_planPlayerCommand c
  | code =>
    rw [hroute] at h
    obtain rfl := Except.ok.inj h
    exact answers_of_planCode
  | game => exact absurd hroute hr
  | unheeded =>
    rw [hroute] at h
    obtain rfl := Except.ok.inj h
    exact fun _ ha => absurd ha List.not_mem_nil

/-- Only a move is followed by acts that change something. -/
theorem quiet_of_plan (h : plan admins b m = .ok p) (hr : b.route admins m ≠ .game) :
    ∀ a ∈ p.acts, a.isQuiet = true :=
  fun a ha => Act.isQuiet_of_isAnswer (answers_of_plan h hr a ha)

end Quiet

end ChatRiddles
