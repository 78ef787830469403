import ChatRiddles.Proofs.Locality
import ChatRiddles.Proofs.Runs
/-!
# Failed deliveries

When a delivery fails, what follows it is left out, and what has changed before stays changed. So a
text may be sent again, as if for the first time, exactly if nothing has changed by then. Moves in a
game are settled after the deliveries of their actions, and keep to this; most other texts change
something at once, before they are answered.

Main definition: `TextRoute.NothingChanged`, which tells for each part of the bot when nothing has
changed. Main statement: `kept_iff_nothingChanged`.
-/

namespace ChatRiddles

/-! ## Acts up to a failure -/

namespace Bot

variable {b b' : Bot} {chat : Int} {e : DeliveryFailure}

/-- The bot has kept what there was for a chat, and the registry. -/
structure Kept (b b' : Bot) (chat : Int) : Prop where
  -- the session, whether a code is awaited, the dialogue
  chat : b.AgreeAt b' chat
  registry : b.SameRegistry b'

theorem Kept.rfl : b.Kept b chat := ⟨.rfl, .rfl⟩

/-- Deliveries in a row: one of them fails, or all are made and the rest follows. -/
theorem perform_deliveries (course : Course) (chat : Int) (b : Bot) (ds : List Delivery)
    (rest : List Act) :
    (∃ e, (perform course chat b (ds.map .deliver ++ rest)).outcome = .undelivered e ∧
        (perform course chat b (ds.map .deliver ++ rest)).bot = b ∧
        (perform course chat b (ds.map .deliver ++ rest)).sent.length < ds.length) ∨
      ∃ course', perform course chat b (ds.map .deliver ++ rest) =
        { perform course' chat b rest with
          sent := ds ++ (perform course' chat b rest).sent
          tried := (perform course' chat b rest).tried + ds.length } := by
  induction ds generalizing course with
  | nil => exact .inr ⟨course, rfl⟩
  | cons d ds ih =>
    rw [List.map_cons, List.cons_append]
    cases he : course 0 d with
    | some e =>
      rw [perform_deliver_of_some he]
      exact .inl ⟨e, rfl, rfl, Nat.succ_pos _⟩
    | none =>
      rw [perform_deliver_of_none he]
      rcases ih course.next with ⟨e, ho, hb, hl⟩ | ⟨course', hrest⟩
      · exact .inl ⟨e, ho, hb, Nat.succ_lt_succ hl⟩
      · refine .inr ⟨course', ?_⟩
        rw [hrest]
        rfl

end Bot

/-! ## What has changed -/

/-- Nothing has changed by the time a text for a part of the bot has led to a number of
deliveries. -/
def TextRoute.NothingChanged (b : Bot) (m : Incoming) (made : Nat) : TextRoute → Prop
  | .adminCommand .help | .adminCommand .listRiddles => b.wizards.get? m.chat = none
  | .adminCommand .newRiddle => b.wizards.get? m.chat = some .code
  | .adminCommand .removeRiddle => b.wizards.get? m.chat = some .removal
  | .answer _ .code => b.catalogue.contains (codeIn m.text) = true
  | .answer _ (.name _) | .answer _ (.description _ _) => False
  | .answer _ (.document _ _ _) => ∃ r, Definition.ofText m.text = .error (.rejected r)
  | .answer _ .removal => b.catalogue.contains (codeIn m.text) = false
  | .playerCommand .startRiddle =>
    b.awaiting.get? m.chat = some () ∧ b.sessions.get? m.chat = none
  | .playerCommand _ => b.awaiting.get? m.chat = none ∧ b.sessions.get? m.chat = none
  | .code => b.catalogue.get? (codeIn m.text) = none
  | .game => ∃ move, Play.move b.catalogue b.sessions m.chat m.text = .ok move ∧
      made < move.deliveries.length
  | .unheeded => True

section Parts

variable {admins : Admins} {b : Bot} {m : Incoming} {p : Plan} {made : Nat}

/-- After a command of an administrator the bot is kept exactly where nothing was to be changed. -/
theorem kept_planAdminCommand_iff (c : AdminCommand) :
    (planAdminCommand b m.chat c).bot.Kept b m.chat ↔
      (TextRoute.adminCommand c).NothingChanged b m made := by
  have hstop : (b.stopAsking m.chat).Kept b m.chat ↔ b.wizards.get? m.chat = none := by
    constructor
    · intro h
      simpa [Bot.stopAsking] using h.chat.wizard.symm
    · intro h
      exact ⟨⟨rfl, rfl, by simp [Bot.stopAsking, h]⟩, ⟨rfl, rfl⟩⟩
  have hask : ∀ w, (b.ask m.chat w).Kept b m.chat ↔ b.wizards.get? m.chat = some w := by
    intro w
    constructor
    · intro h
      simpa [Bot.ask] using h.chat.wizard.symm
    · intro h
      exact ⟨⟨rfl, rfl, by simp [Bot.ask, h]⟩, ⟨rfl, rfl⟩⟩
  cases c with
  | help => exact hstop
  | listRiddles => exact hstop
  | newRiddle => exact hask .code
  | removeRiddle => exact hask .removal

theorem kept_planPlayerCommand_iff (c : PlayerCommand) :
    (planPlayerCommand b m.chat c).bot.Kept b m.chat ↔
      (TextRoute.playerCommand c).NothingChanged b m made := by
  have hreset : ((b.stopAwaiting m.chat).leave m.chat).Kept b m.chat ↔
      b.awaiting.get? m.chat = none ∧ b.sessions.get? m.chat = none := by
    constructor
    · intro h
      exact ⟨by simpa [Bot.stopAwaiting, Bot.leave] using h.chat.awaiting.symm,
        by simpa [Bot.stopAwaiting, Bot.leave] using h.chat.session.symm⟩
    · rintro ⟨ha, hs⟩
      exact ⟨⟨by simp [Bot.stopAwaiting, Bot.leave, hs],
        by simp [Bot.stopAwaiting, Bot.leave, ha], rfl⟩, ⟨rfl, rfl⟩⟩
  cases c with
  | help => exact hreset
  | start => exact hreset
  | startRiddle =>
    show (((b.stopAwaiting m.chat).leave m.chat).await m.chat).Kept b m.chat ↔
      b.awaiting.get? m.chat = some () ∧ b.sessions.get? m.chat = none
    constructor
    · intro h
      exact ⟨by simpa [Bot.await] using h.chat.awaiting.symm,
        by simpa [Bot.await, Bot.stopAwaiting, Bot.leave] using h.chat.session.symm⟩
    · rintro ⟨ha, hs⟩
      exact ⟨⟨by simp [Bot.await, Bot.stopAwaiting, Bot.leave, hs], by simp [Bot.await, ha], rfl⟩,
        ⟨rfl, rfl⟩⟩
  | stopRiddle =>
    rw [planPlayerCommand_stopRiddle]
    by_cases hc : b.sessions.contains m.chat = true
    · rw [if_pos hc]
      exact hreset
    · -- there is no session to be left
      have hs : b.sessions.get? m.chat = none := by simpa [ChatMap.contains] using hc
      rw [if_neg hc]
      show (b.stopAwaiting m.chat).Kept b m.chat ↔ b.awaiting.get? m.chat = none ∧ _
      constructor
      · intro h
        exact ⟨by simpa [Bot.stopAwaiting] using h.chat.awaiting.symm, hs⟩
      · rintro ⟨ha, -⟩
        exact ⟨⟨rfl, by simp [Bot.stopAwaiting, ha], rfl⟩, ⟨rfl, rfl⟩⟩

theorem kept_planCode_iff (ha : b.awaiting.get? m.chat = some ()) :
    (planCode b m.chat m.text).bot.Kept b m.chat ↔ TextRoute.code.NothingChanged b m made := by
  show _ ↔ b.catalogue.get? (codeIn m.text) = none
  cases hg : b.catalogue.get? (codeIn m.text) with
  | none =>
    rw [planCode_of_none hg]
    exact ⟨fun _ => rfl, fun _ => .rfl⟩
  | some r =>
    rw [planCode_of_some hg]
    constructor
    · -- the code is awaited no longer
      intro h
      have hw := h.chat.awaiting
      rw [ha] at hw
      simp [Bot.stopAwaiting] at hw
    · intro h
      cases h

theorem kept_planAnswer_iff {user : Int} {w : Wizard} (hw : b.wizards.get? m.chat = some w)
    (hp : planAnswer b m.chat user m.text w = .ok p) :
    p.bot.Kept b m.chat ↔ (TextRoute.answer user w).NothingChanged b m made := by
  -- where the dialogue has changed, nothing else matters
  have hchanged : p.bot.wizards.get? m.chat ≠ some w → ¬ p.bot.Kept b m.chat := by
    intro hne h
    rw [h.chat.wizard] at hne
    exact hne hw
  have hkept : p.bot = b → p.bot.Kept b m.chat := fun h => h ▸ .rfl
  cases w with
  | code =>
    show _ ↔ b.catalogue.contains (codeIn m.text) = true
    simp only [planAnswer] at hp
    split at hp
    · rename_i hc
      obtain rfl := Except.ok.inj hp
      exact ⟨fun _ => hc, fun _ => .rfl⟩
    · rename_i hc
      obtain rfl := Except.ok.inj hp
      refine ⟨fun h => absurd h (hchanged ?_), fun h => absurd h hc⟩
      simp [Bot.ask]
  | name code =>
    obtain rfl := Except.ok.inj hp
    refine ⟨fun h => absurd h (hchanged ?_), fun h => h.elim⟩
    simp [Bot.ask]
  | description code name =>
    obtain rfl := Except.ok.inj hp
    refine ⟨fun h => absurd h (hchanged ?_), fun h => h.elim⟩
    simp [Bot.ask]
  | document code name description =>
    show _ ↔ ∃ r, Definition.ofText m.text = .error (.rejected r)
    simp only [planAnswer, planDocument] at hp
    split at hp
    · cases hp
    · rename_i r hr
      obtain rfl := Except.ok.inj hp
      exact ⟨fun _ => ⟨r, hr⟩, fun _ => .rfl⟩
    · rename_i definition hd
      have hcleared : p.bot.wizards = (b.stopAsking m.chat).wizards := by
        split at hp <;> obtain rfl := Except.ok.inj hp <;> rfl
      refine ⟨fun h => absurd h (hchanged ?_), ?_⟩
      · rw [hcleared]
        simp [Bot.stopAsking]
      · rintro ⟨r, hr⟩
        rw [hd] at hr
        cases hr
  | removal =>
    show _ ↔ b.catalogue.contains (codeIn m.text) = false
    rw [planAnswer_removal] at hp
    split at hp
    · rename_i hc
      obtain rfl := Except.ok.inj hp
      refine ⟨fun h => absurd h (hchanged ?_), fun h => ?_⟩
      · simp [Bot.stopAsking]
      · rw [hc] at h
        cases h
    · rename_i hc
      obtain rfl := Except.ok.inj hp
      exact ⟨fun _ => by simpa using hc, fun _ => .rfl⟩

/-- What a move settles is settled only after its deliveries, and if it wins, before the last
answer. -/
theorem kept_perform_move_iff (course : Course) {move : Play.Move} {e : DeliveryFailure}
    {s : Session} (hmove : Play.move b.catalogue b.sessions m.chat m.text = .ok move)
    (hs : b.sessions.get? m.chat = some s) {h : Handled Outcome}
    (hh : Bot.perform course m.chat b (move.deliveries.map .deliver ++ settlement move m.chat) = h)
    (he : h.outcome = .undelivered e) :
    h.bot.Kept b m.chat ↔ TextRoute.game.NothingChanged b m h.sent.length := by
  subst hh
  have hiff : TextRoute.game.NothingChanged b m
      (Bot.perform course m.chat b
        (move.deliveries.map .deliver ++ settlement move m.chat)).sent.length ↔
      (Bot.perform course m.chat b
        (move.deliveries.map .deliver ++ settlement move m.chat)).sent.length <
        move.deliveries.length := by
    constructor
    · rintro ⟨move', hmove', hl⟩
      rw [hmove] at hmove'
      obtain rfl := Except.ok.inj hmove'
      exact hl
    · exact fun hl => ⟨move, hmove, hl⟩
  rw [hiff]
  have hdeliveries :=
    Bot.perform_deliveries course m.chat b move.deliveries (settlement move m.chat)
  rcases hdeliveries with ⟨e', -, hb, hl⟩ | ⟨course', hrest⟩
  · rw [hb]
    exact ⟨fun _ => hl, fun _ => .rfl⟩
  · rw [hrest] at he ⊢
    have hlength : ¬ (move.deliveries ++
        (Bot.perform course' m.chat b (settlement move m.chat)).sent).length <
        move.deliveries.length := by
      rw [List.length_append]
      omega
    refine ⟨fun hk => ?_, fun hl => absurd hl hlength⟩
    cases hsolves : move.solves with
    | false =>
      -- nothing is delivered after the actions, and nothing can fail
      simp [settlement, hsolves, Bot.perform] at he
    | true =>
      have hbot : (Bot.perform course' m.chat b (settlement move m.chat)).bot = b.leave m.chat := by
        simp only [settlement, hsolves, if_true, List.cons_append]
        refine Bot.perform_bot_of_quiet (b := b.leave m.chat) course' ?_
        simp [Play.Move.notices, hsolves, reply, Act.isQuiet]
      have hsession : (Bot.perform course' m.chat b
          (settlement move m.chat)).bot.sessions.get? m.chat = b.sessions.get? m.chat :=
        hk.chat.session
      rw [hbot, hs] at hsession
      simp [Bot.leave] at hsession

end Parts

namespace Bot

variable {admins : Admins} {course : Course} {b : Bot} {m : Incoming} {e : DeliveryFailure}

/-- When a delivery fails in a game, the session has been kept exactly if the delivery was one of
the actions of the edge. -/
theorem kept_iff_of_game (hroute : b.route admins m = .game)
    (h : (b.handleIn admins course m).outcome = .undelivered e) :
    (b.handleIn admins course m).bot.Kept b m.chat ↔
      TextRoute.game.NothingChanged b m (b.handleIn admins course m).sent.length := by
  obtain ⟨s, hs⟩ := session_of_route hroute
  have hplan : plan admins b m = planMove b m.chat m.text := by
    rw [plan_eq_route, hroute]
    rfl
  cases hmove : Play.move b.catalogue b.sessions m.chat m.text with
  | ok move =>
    rw [planMove_of_move hmove] at hplan
    refine kept_perform_move_iff course hmove hs ?_ h
    unfold handleIn
    rw [hplan]
  | error o =>
    have hnot : ¬ TextRoute.game.NothingChanged b m (b.handleIn admins course m).sent.length := by
      rintro ⟨move, hmove', -⟩
      rw [hmove] at hmove'
      cases hmove'
    refine ⟨fun hk => ?_, fun hn => absurd hn hnot⟩
    cases hr : b.catalogue.get? s.riddle with
    | none =>
      -- the riddle is gone, and the session has been left at once
      rw [planMove_of_noRiddle hs hr] at hplan
      have hbot : (b.handleIn admins course m).bot = b.leave m.chat := by
        unfold handleIn
        rw [hplan]
        exact perform_bot_of_quiet course (by simp [reply, Act.isQuiet])
      have hsession := hk.chat.session
      rw [hbot, hs] at hsession
      simp [leave] at hsession
    | some r =>
      have hunknown : ∃ u, o = .unknownState u := by
        simp only [Play.move, hs, hr] at hmove
        split at hmove
        · exact ⟨_, (Except.error.inj hmove).symm⟩
        · cases hmove
        · cases hmove
      obtain ⟨u, rfl⟩ := hunknown
      rw [planMove_of_unknownState hmove] at hplan
      unfold handleIn at h
      rw [hplan] at h
      cases h

/-- Outside of games, what is changed is changed at once. -/
theorem kept_iff_of_not_game (hroute : b.route admins m ≠ .game)
    (h : (b.handleIn admins course m).outcome = .undelivered e) :
    (b.handleIn admins course m).bot.Kept b m.chat ↔
      (b.route admins m).NothingChanged b m (b.handleIn admins course m).sent.length := by
  cases hp : plan admins b m with
  | error c =>
    unfold handleIn at h
    rw [hp] at h
    cases h
  | ok p =>
    have hbot : (b.handleIn admins course m).bot = p.bot := by
      unfold handleIn
      rw [hp]
      exact perform_bot_of_quiet course (quiet_of_plan hp hroute)
    rw [hbot]
    rw [plan_eq_route] at hp
    cases hr : b.route admins m with
    | adminCommand c =>
      rw [hr] at hp
      obtain rfl := Except.ok.inj hp
      exact kept_planAdminCommand_iff c
    | answer user w =>
      rw [hr] at hp
      exact kept_planAnswer_iff (wizard_of_route hr) hp
    | playerCommand c =>
      rw [hr] at hp
      obtain rfl := Except.ok.inj hp
      exact kept_planPlayerCommand_iff c
    | code =>
      rw [hr] at hp
      obtain rfl := Except.ok.inj hp
      exact kept_planCode_iff (awaiting_of_route hr)
    | game => exact absurd hr hroute
    | unheeded =>
      rw [hr] at hp
      obtain rfl := Except.ok.inj hp
      exact ⟨fun _ => trivial, fun _ => .rfl⟩

/-- When a delivery fails, the session of the chat, whether a code is awaited there, its dialogue
and the registry are what they were before the text exactly if nothing had changed by then. If so,
the text can be sent again, with the effect that it would have had the first time. -/
theorem kept_iff_nothingChanged (h : (b.handleIn admins course m).outcome = .undelivered e) :
    ((b.handleIn admins course m).bot.Kept b m.chat ↔
      (b.route admins m).NothingChanged b m (b.handleIn admins course m).sent.length) ∧
    ((b.handleIn admins course m).bot.Kept b m.chat → ∀ again : Course,
      (((b.handleIn admins course m).bot.handleIn admins again m).sent =
        (b.handleIn admins again m).sent) ∧
      (((b.handleIn admins course m).bot.handleIn admins again m).outcome =
        (b.handleIn admins again m).outcome) ∧
      ((b.handleIn admins course m).bot.handleIn admins again m).bot.Same
        (b.handleIn admins again m).bot) := by
  constructor
  · by_cases hroute : b.route admins m = .game
    · rw [hroute]
      exact kept_iff_of_game hroute h
    · exact kept_iff_of_not_game hroute h
  · intro hk again
    obtain ⟨hs, ho, hr, hc⟩ := handleIn_congr admins again hk.registry hk.chat
    refine ⟨hs, ho, hr, fun chat => ?_⟩
    by_cases hchat : chat = m.chat
    · rw [hchat]
      exact hc
    · have hframe := fun b course => handleIn_agreeAt_of_ne (b := b) admins course hchat
      exact ((hframe _ again).trans (hframe b course)).trans (hframe b again).symm

/-- The second action of an edge fails, and the chat is left where it was. -/
theorem kept_iff_nothingChanged_second_action :
    ∃ b : Bot, b.sessions.get? 1 = some ⟨"k", "a"⟩ ∧
      ((b.handleIn [] (fun n _ => if n = 1 then some (.failed ⟨"down"⟩) else none)
        ⟨1, none, "go"⟩).outcome = .undelivered (.failed ⟨"down"⟩)) ∧
      ((b.handleIn [] (fun n _ => if n = 1 then some (.failed ⟨"down"⟩) else none)
        ⟨1, none, "go"⟩).sent = [⟨1, "one"⟩]) ∧
      (b.handleIn [] (fun n _ => if n = 1 then some (.failed ⟨"down"⟩) else none)
        ⟨1, none, "go"⟩).bot.Kept b 1 := by
  refine ⟨⟨⟨[⟨"k", "", "", 7, ⟨"a", ["b"], [⟨"a", [⟨.either, [.message "one", .message "two"],
    some "b"⟩]⟩, ⟨"b", []⟩]⟩⟩], by decide⟩, (.ofKnown []), ChatMap.empty.set 1 ⟨"k", "a"⟩,
    .empty, .empty⟩, by decide +kernel, by decide +kernel, by decide +kernel, ?_⟩
  refine (kept_iff_nothingChanged (m := ⟨1, none, "go"⟩) (e := .failed ⟨"down"⟩) ?_).1.mpr ?_
  · decide +kernel
  rw [show Bot.route _ [] ⟨1, none, "go"⟩ = .game by decide +kernel]
  exact ⟨_, rfl, by decide +kernel⟩

/-- The first answer to the code of a riddle fails, and yet the game has begun. -/
theorem started_of_failed_answer :
    ∃ past c, Concurrent.Run [] (.idle (.start (.ofKnown []))) past c ∧
      ((c.bot.handleIn [] (fun _ _ => some (.failed ⟨"down"⟩)) ⟨1, none, "k"⟩).outcome =
        .undelivered (.failed ⟨"down"⟩)) ∧
      ¬ (c.bot.handleIn [] (fun _ _ => some (.failed ⟨"down"⟩))
        ⟨1, none, "k"⟩).bot.Kept c.bot 1 := by
  have hreplay : ∃ s, Concurrent.replay []
      [.register (some "k") "" "" 7 ⟨"a", [], [⟨"a", []⟩]⟩, .text ⟨1, none, "/startriddle"⟩,
        .turn 0 fun _ => none, .turn 0 fun _ => none]
      ([], .idle (.start (.ofKnown []))) = some s ∧
      decide (((s.2.bot.handleIn [] (fun _ _ => some (.failed ⟨"down"⟩)) ⟨1, none, "k"⟩).outcome =
          .undelivered (.failed ⟨"down"⟩)) ∧ s.2.bot.sessions.get? 1 = none ∧
        (s.2.bot.handleIn [] (fun _ _ => some (.failed ⟨"down"⟩))
          ⟨1, none, "k"⟩).bot.sessions.get? 1 = some ⟨"k", "a"⟩) = true := by
    rw [← Option.any_eq_true]
    decide +kernel
  obtain ⟨⟨past, c⟩, hs, hcheck⟩ := hreplay
  obtain ⟨he, hbefore, hafter⟩ := of_decide_eq_true hcheck
  refine ⟨past, c, Concurrent.Run.replay .start hs, he, fun hk => ?_⟩
  have hsession := hk.chat.session
  rw [hbefore, hafter] at hsession
  cases hsession

end Bot

end ChatRiddles
