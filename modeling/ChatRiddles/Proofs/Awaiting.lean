import ChatRiddles.Proofs.Locality
import ChatRiddles.Proofs.Sessions
/-!
# No chat waits for a code while it plays

A chat for which a code is awaited has no session. Every part of the bot sees to that in the chat of
its text, at once and before it makes a delivery; the one exception is a move in a game, which
enters the session only after its deliveries. Until then the job has the lock of the chat, so that
no other text can make the bot await a code there.

Main definitions: `Bot.ApartAt`, `Concurrent.Apart` (the invariant of runs, which speaks of the jobs
in flight as well). Main statement: `awaits_or_plays_of_run`.
-/

namespace ChatRiddles

/-! ## One text -/

namespace Bot

/-- In a chat no code is awaited, or nothing is played. -/
def ApartAt (b : Bot) (chat : Int) : Prop :=
  b.awaiting.get? chat = none ∨ b.sessions.get? chat = none

variable {b b' : Bot} {chat other : Int}

/-- Being apart at a chat is told by what is kept for it. -/
theorem AgreeAt.apartAt (h : b.AgreeAt b' chat) (hb : b'.ApartAt chat) : b.ApartAt chat := by
  unfold ApartAt
  rw [h.awaiting, h.session]
  exact hb

/-- Whoever stops waiting for a code is apart, whatever game there is. -/
theorem apartAt_stopAwaiting (b : Bot) (chat : Int) : (b.stopAwaiting chat).ApartAt chat :=
  .inl (by simp [stopAwaiting])

/-- Whoever leaves the game is apart, whatever is awaited. -/
theorem apartAt_leave (b : Bot) (chat : Int) : (b.leave chat).ApartAt chat :=
  .inr (by simp [leave])

/-- A session may be entered where no code is awaited. -/
theorem ApartAt.enter (h : b.ApartAt other) (hnone : b.awaiting.get? chat = none) (s : Session) :
    (b.enter chat s).ApartAt other := by
  by_cases ho : other = chat
  · rw [ho]
    exact .inl hnone
  · exact (enter_agreeAt_of_ne s ho).apartAt h

/-- A session may be left anywhere. -/
theorem ApartAt.leave (h : b.ApartAt other) (chat : Int) : (b.leave chat).ApartAt other := by
  by_cases ho : other = chat
  · rw [ho]
    exact apartAt_leave b chat
  · exact (leave_agreeAt_of_ne ho).apartAt h

end Bot

section Plans

variable {admins : Admins} {b : Bot} {p : Plan} {m : Incoming} {chat : Int} {text : String}

/-- After each command of a player the chat awaits a code or plays, and not both. -/
theorem apartAt_of_planPlayerCommand (c : PlayerCommand) :
    (planPlayerCommand b chat c).bot.ApartAt chat := by
  cases c with
  | help => exact Bot.apartAt_leave _ chat
  | start => exact Bot.apartAt_leave _ chat
  | startRiddle =>
    right
    simp [planPlayerCommand, Bot.await, Bot.leave]
  | stopRiddle =>
    rw [planPlayerCommand_stopRiddle]
    split
    · exact Bot.apartAt_leave _ chat
    · exact Bot.apartAt_stopAwaiting b chat

/-- A code that begins a game is awaited no longer. -/
theorem apartAt_of_planCode (h : b.ApartAt chat) : (planCode b chat text).bot.ApartAt chat := by
  cases hg : b.catalogue.get? (codeIn text) with
  | none =>
    rw [planCode_of_none hg]
    exact h
  | some r =>
    rw [planCode_of_some hg]
    exact Bot.apartAt_stopAwaiting _ chat

theorem apartAt_of_planMove (hp : planMove b chat text = .ok p) (h : b.ApartAt chat) :
    p.bot.ApartAt chat := by
  unfold planMove at hp
  split at hp
  · cases hp
  · rename_i o _ _
    obtain rfl := Except.ok.inj hp
    cases o with
    | noRiddle code => exact Bot.apartAt_leave b chat
    | noSession other => exact h
    | unknownState e => exact h
  · obtain rfl := Except.ok.inj hp
    exact h

/-- Answers in a dialogue change nothing about awaited codes. -/
theorem Answered.awaiting {b' : Bot} (h : Answered b chat b') : b'.awaiting = b.awaiting := by
  cases h <;> rfl

/-- What a text changes at once keeps waiting and playing apart, in all chats. -/
theorem apartAt_of_plan (hp : plan admins b m = .ok p) (h : b.ApartAt chat) :
    p.bot.ApartAt chat := by
  by_cases ho : chat = m.chat
  · subst ho
    rcases plan_cases hp with ⟨c, rfl⟩ | ha | ⟨c, rfl⟩ | rfl | hm
    · cases c <;> exact h
    · unfold Bot.ApartAt
      rw [ha.awaiting, ha.sessions]
      exact h
    · exact apartAt_of_planPlayerCommand c
    · exact apartAt_of_planCode h
    · exact apartAt_of_planMove hm h
  · exact (plan_agreeAt_of_ne hp ho).apartAt h

/-- A session that is entered after deliveries belongs to a game, and where one is played no code is
awaited. -/
theorem awaiting_of_enter_mem {s : Session} (hp : plan admins b m = .ok p) (h : b.ApartAt m.chat)
    (hs : .enter s ∈ p.acts) : p.bot.awaiting.get? m.chat = none := by
  obtain ⟨hbot, mv, hmv, -⟩ := move_of_plan hp hs
  obtain ⟨s', state, hs', -⟩ := Play.move_eq_ok hmv
  rw [hbot]
  rcases h with hnone | hnone
  · exact hnone
  · rw [hnone] at hs'
    cases hs'

end Plans

/-! ## Turns -/

namespace Concurrent

variable {admins : Admins} {messenger : Messenger} {c c' : Concurrent} {t : Job}

/-- No chat waits for a code while it plays, nor while a job is about to enter a session there. -/
structure Apart (c : Concurrent) : Prop where
  chats : ∀ chat, c.bot.ApartAt chat
  entering : ∀ t acts s, (t, acts) ∈ c.inFlight → .enter s ∈ acts →
    c.bot.awaiting.get? t.chat = none

/-- The jobs in flight are the same or fewer once a turn is out of the line. -/
theorem mem_inFlight_of_line {before after : List Turn} {turn : Turn} {x : Job × List Act}
    (hl : c.line = before ++ turn :: after)
    (hx : x ∈ inFlight { c with line := before ++ after }) : x ∈ c.inFlight := by
  obtain ⟨turn', hm, hturn'⟩ := List.mem_filterMap.mp hx
  refine List.mem_filterMap.mpr ⟨turn', ?_, hturn'⟩
  rw [hl]
  exact (List.sublist_cons_self turn after).append_left before |>.subset hm

namespace Apart

/-- Where neither sessions nor awaited codes change, nor jobs come into flight, all stays apart. -/
theorem of_inFlight (h : c.Apart) (ha : c'.bot.awaiting = c.bot.awaiting)
    (hs : c'.bot.sessions = c.bot.sessions) (hj : ∀ x ∈ c'.inFlight, x ∈ c.inFlight) :
    c'.Apart := by
  refine ⟨fun chat => ?_, fun t acts s hm hmem => ?_⟩
  · unfold Bot.ApartAt
    rw [ha, hs]
    exact h.chats chat
  · rw [ha]
    exact h.entering t acts s (hj _ hm) hmem

theorem finish (h : c.Apart) (o : Outcome) : (c.finish t o).Apart :=
  h.of_inFlight (by rw [bot_finish]) (by rw [bot_finish]) fun x hx => by rwa [inFlight_finish] at hx

/-- Going on with a job keeps all apart, if the job may enter its session. -/
theorem proceed {acts : List Act} (h : c.Apart)
    (hacts : ∀ s, .enter s ∈ acts → c.bot.awaiting.get? t.chat = none) :
    (c.proceed t acts).Apart := by
  induction acts generalizing c with
  | nil => exact h.finish .handled
  | cons a rest ih =>
    have hrest : ∀ s, .enter s ∈ rest → c.bot.awaiting.get? t.chat = none :=
      fun s hs => hacts s (List.mem_cons_of_mem _ hs)
    cases a with
    | deliver d =>
      refine ⟨h.chats, fun t' acts' s hm hs => ?_⟩
      have hm' : (t', acts') ∈ c.inFlight ∨ (t', acts') = (t, .deliver d :: rest) := by
        simpa [Concurrent.proceed, inFlight, Turn.begun?] using hm
      rcases hm' with hm' | heq
      · exact h.entering t' acts' s hm' hs
      · obtain ⟨rfl, rfl⟩ := Prod.mk.inj heq
        exact hacts s hs
    | enter s =>
      have hnone := hacts s List.mem_cons_self
      exact ih ⟨fun chat => (h.chats chat).enter hnone s, h.entering⟩ hrest
    | leave => exact ih ⟨fun chat => (h.chats chat).leave t.chat, h.entering⟩ hrest
    | note n => exact ih ⟨h.chats, h.entering⟩ hrest

/-- A job changes at once what is kept for its chat alone, and all other jobs in flight are of other
chats. -/
theorem beginJob (h : c.Apart) (hl : Locked [t] c) : (c.beginJob admins t).Apart := by
  unfold Concurrent.beginJob
  cases hp : plan admins c.bot t.incoming with
  | error e => exact finish (c := { c with begun := c.begun ++ [t] }) ⟨h.chats, h.entering⟩ _
  | ok p =>
    refine proceed (c := { c with bot := p.bot, begun := c.begun ++ [t] })
      ⟨fun chat => apartAt_of_plan hp (h.chats chat), fun t' acts s hm hs => ?_⟩
      fun s hs => awaiting_of_enter_mem hp (h.chats t.chat) hs
    have hne : t'.chat ≠ t.chat := hl.chat_ne_of_running (mem_holders_of_mem_inFlight hm)
    show p.bot.awaiting.get? t'.chat = none
    rw [(plan_agreeAt_of_ne hp hne).awaiting]
    exact h.entering t' acts s hm hs

/-- Every turn keeps waiting and playing apart. -/
theorem takeTurn {before after : List Turn} {turn : Turn} (h : c.Apart) (hlocked : Locked [] c)
    (hl : c.line = before ++ turn :: after) :
    ({ c with line := before ++ after }.takeTurn admins messenger turn).Apart := by
  have hline : Apart { c with line := before ++ after } :=
    h.of_inFlight rfl rfl fun x hx => mem_inFlight_of_line hl hx
  cases turn with
  | come t =>
    simp only [Concurrent.takeTurn]
    split
    · exact ⟨hline.chats, hline.entering⟩
    · rename_i hc
      have htake := hlocked.take hl (by simpa using hc)
      exact beginJob ⟨hline.chats, hline.entering⟩ htake
  | granted t => exact hline.beginJob (hlocked.of_line hl rfl)
  | deliver t d acts =>
    -- the job has been in flight, with the acts that are left for it
    have hm : (t, .deliver d :: acts) ∈ c.inFlight := by
      rw [inFlight, hl]
      simp [Turn.begun?]
    simp only [Concurrent.takeTurn]
    split
    · have hnoted : ∀ notices, Apart { c with line := before ++ after, notices := notices } :=
        fun _ => ⟨hline.chats, hline.entering⟩
      exact (hnoted _).finish _
    · exact proceed ⟨hline.chats, hline.entering⟩
        fun s hs => h.entering t _ s hm (List.mem_cons_of_mem _ hs)

/-- Whatever happens next keeps waiting and playing apart. -/
theorem happen {what : Happening} (h : c.Apart) (hlocked : Locked [] c)
    (hh : c.happen? admins what = some c') : c'.Apart := by
  cases what with
  | text m =>
    obtain rfl := Option.some.inj hh
    refine h.of_inFlight rfl rfl fun x hx => ?_
    simpa [arrive, inFlight, Turn.begun?] using hx
  | turn index messenger =>
    obtain ⟨before, turn, after, hl, -, rfl⟩ := stepAt_eq_some hh
    exact h.takeTurn hlocked hl
  | register code name description creator document =>
    obtain ⟨hs, hl, -, -, -, ha⟩ := happen_register hh
    exact h.of_inFlight ha hs fun x hx => by rwa [inFlight, hl] at hx
  | remove code =>
    obtain ⟨hs, hl, -, -, -, ha⟩ := happen_remove hh
    exact h.of_inFlight ha hs fun x hx => by rwa [inFlight, hl] at hx

/-- At every point of every run, each chat awaits a code or plays, and not both. -/
theorem of_run {source : CodeSource} {past : List Concurrent}
    (h : Run admins (idle (Bot.start source)) past c) : c.Apart := by
  induction h with
  | start => exact ⟨fun chat => .inl rfl, fun t acts s hm => absurd hm List.not_mem_nil⟩
  | next before what happens ih => exact ih.happen (locked_of_run before) happens

end Apart

/-- Whatever has happened since the beginning, and wherever the jobs are in their deliveries: no
chat is asked for a code while it plays. -/
theorem awaits_or_plays_of_run {source : CodeSource} {past : List Concurrent}
    (h : Run admins (idle (Bot.start source)) past c) (chat : Int) :
    ¬ (c.bot.awaiting.contains chat = true ∧ c.bot.sessions.contains chat = true) := by
  rintro ⟨hawaits, hplays⟩
  obtain ⟨_, hawaits⟩ := Option.isSome_iff_exists.mp hawaits
  obtain ⟨s, hplays⟩ := Option.isSome_iff_exists.mp hplays
  rcases (Apart.of_run h).chats chat with hnone | hnone
  · rw [hnone] at hawaits
    cases hawaits
  · rw [hnone] at hplays
    cases hplays

/-- Somebody knocks at a door while somebody else is being asked for the code of a riddle: neither
has got an answer yet, and the first chat plays and the second one is waited for. -/
theorem awaits_or_plays_of_run_door :
    ∃ past c, Run [] (idle (Bot.start (.ofKnown []))) past c ∧
      c.line.map Turn.isOutset = [false, false] ∧ c.bot.sessions.contains 1 = true ∧
      c.bot.awaiting.contains 2 = true ∧
      ∀ chat, ¬ (c.bot.awaiting.contains chat = true ∧ c.bot.sessions.contains chat = true) := by
  have hreplay : ∃ s, replay []
      [.register (some "k") "Door" "" 7 doorDocument, .text ⟨1, none, "/startriddle"⟩,
        .turn 0 fun _ => none, .turn 0 fun _ => some (.failed ⟨"down"⟩), .text ⟨1, none, "k"⟩,
        .turn 0 fun _ => none, .turn 0 fun _ => some (.failed ⟨"down"⟩), .text ⟨1, none, "knock"⟩,
        .text ⟨2, none, "/startriddle"⟩, .turn 0 fun _ => none, .turn 0 fun _ => none]
      ([], idle (Bot.start (.ofKnown []))) = some s ∧
      decide (s.2.line.map Turn.isOutset = [false, false] ∧ s.2.bot.sessions.contains 1 = true ∧
        s.2.bot.awaiting.contains 2 = true) = true := by
    rw [← Option.any_eq_true]
    decide +kernel
  obtain ⟨⟨past, c⟩, hs, hcheck⟩ := hreplay
  obtain ⟨hline, hplays, hawaits⟩ := of_decide_eq_true hcheck
  have h := Run.replay .start hs
  exact ⟨past, c, h, hline, hplays, hawaits, awaits_or_plays_of_run h⟩

end Concurrent

end ChatRiddles
