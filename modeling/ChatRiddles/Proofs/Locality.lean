import ChatRiddles.Proofs.Routes
/-!
# What a text reads and changes

A text of a chat is planned from the catalogue and from what the bot keeps for that chat: its
session, whether a code is awaited, its dialogue. The plan changes nothing that is kept for another
chat, and what follows it changes the session of its own chat only.

Main statements:

* `plan_agreeAt_of_ne`: at once, a plan changes nothing in other chats;
* `plan_congr`: two bots with one catalogue that agree in a chat plan its texts alike;
* `perform_agreeAt_of_ne`, `perform_agreeAt`: the same for the acts that follow.
-/

namespace ChatRiddles

/-! ## Agreement in a chat -/

namespace Bot

/-- Two bots keep the same for a chat. -/
structure AgreeAt (b b' : Bot) (chat : Int) : Prop where
  session : b.sessions.get? chat = b'.sessions.get? chat
  awaiting : b.awaiting.get? chat = b'.awaiting.get? chat
  wizard : b.wizards.get? chat = b'.wizards.get? chat

/-- Two bots have the same riddles, and draw the same codes. -/
structure SameRegistry (b b' : Bot) : Prop where
  catalogue : b.catalogue = b'.catalogue
  source : b.source = b'.source

/-- Two bots that differ in nothing that can be looked up. -/
structure Same (b b' : Bot) : Prop where
  registry : b.SameRegistry b'
  chats : ∀ chat, b.AgreeAt b' chat

variable {b b' b'' : Bot} {chat other : Int}

theorem AgreeAt.rfl : b.AgreeAt b chat := ⟨.refl _, .refl _, .refl _⟩

theorem AgreeAt.symm (h : b.AgreeAt b' chat) : b'.AgreeAt b chat :=
  ⟨h.session.symm, h.awaiting.symm, h.wizard.symm⟩

theorem AgreeAt.trans (h : b.AgreeAt b' chat) (h' : b'.AgreeAt b'' chat) : b.AgreeAt b'' chat :=
  ⟨h.session.trans h'.session, h.awaiting.trans h'.awaiting, h.wizard.trans h'.wizard⟩

theorem SameRegistry.rfl : b.SameRegistry b := ⟨.refl _, .refl _⟩

theorem SameRegistry.symm (h : b.SameRegistry b') : b'.SameRegistry b :=
  ⟨h.catalogue.symm, h.source.symm⟩

theorem SameRegistry.trans (h : b.SameRegistry b') (h' : b'.SameRegistry b'') :
    b.SameRegistry b'' :=
  ⟨h.catalogue.trans h'.catalogue, h.source.trans h'.source⟩

/-- Bots that agree at a chat agree whether it has a game. -/
theorem AgreeAt.sessions_contains (h : b.AgreeAt b' chat) :
    b.sessions.contains chat = b'.sessions.contains chat := by
  rw [ChatMap.contains, h.session, ChatMap.contains]

theorem AgreeAt.awaiting_contains (h : b.AgreeAt b' chat) :
    b.awaiting.contains chat = b'.awaiting.contains chat := by
  rw [ChatMap.contains, h.awaiting, ChatMap.contains]

/-! Setting and clearing in a chat: other chats keep what they have, and bots that agree still
do. -/

/-- Entering a game changes nothing for other chats. -/
theorem enter_agreeAt_of_ne (s : Session) (h : other ≠ chat) :
    (b.enter chat s).AgreeAt b other :=
  ⟨by simp [enter, h], .refl _, .refl _⟩

theorem leave_agreeAt_of_ne (h : other ≠ chat) : (b.leave chat).AgreeAt b other :=
  ⟨by simp [leave, h], .refl _, .refl _⟩

/-- Awaiting a code changes nothing for other chats. -/
theorem await_agreeAt_of_ne (h : other ≠ chat) : (b.await chat).AgreeAt b other :=
  ⟨.refl _, by simp [await, h], .refl _⟩

theorem stopAwaiting_agreeAt_of_ne (h : other ≠ chat) : (b.stopAwaiting chat).AgreeAt b other :=
  ⟨.refl _, by simp [stopAwaiting, h], .refl _⟩

/-- A dialogue that goes on changes nothing for other chats. -/
theorem ask_agreeAt_of_ne (w : Wizard) (h : other ≠ chat) : (b.ask chat w).AgreeAt b other :=
  ⟨.refl _, .refl _, by simp [ask, h]⟩

theorem stopAsking_agreeAt_of_ne (h : other ≠ chat) : (b.stopAsking chat).AgreeAt b other :=
  ⟨.refl _, .refl _, by simp [stopAsking, h]⟩

/-- Bots that agree at a chat do so after the same game has been entered, in whichever chat. -/
theorem AgreeAt.enter (h : b.AgreeAt b' chat) (other : Int) (s : Session) :
    (b.enter other s).AgreeAt (b'.enter other s) chat :=
  ⟨by simp [Bot.enter, h.session], h.awaiting, h.wizard⟩

theorem AgreeAt.leave (h : b.AgreeAt b' chat) (other : Int) :
    (b.leave other).AgreeAt (b'.leave other) chat :=
  ⟨by simp [Bot.leave, h.session], h.awaiting, h.wizard⟩

theorem AgreeAt.await (h : b.AgreeAt b' chat) (other : Int) :
    (b.await other).AgreeAt (b'.await other) chat :=
  ⟨h.session, by simp [Bot.await, h.awaiting], h.wizard⟩

theorem AgreeAt.stopAwaiting (h : b.AgreeAt b' chat) (other : Int) :
    (b.stopAwaiting other).AgreeAt (b'.stopAwaiting other) chat :=
  ⟨h.session, by simp [Bot.stopAwaiting, h.awaiting], h.wizard⟩

theorem AgreeAt.ask (h : b.AgreeAt b' chat) (other : Int) (w : Wizard) :
    (b.ask other w).AgreeAt (b'.ask other w) chat :=
  ⟨h.session, h.awaiting, by simp [Bot.ask, h.wizard]⟩

theorem AgreeAt.stopAsking (h : b.AgreeAt b' chat) (other : Int) :
    (b.stopAsking other).AgreeAt (b'.stopAsking other) chat :=
  ⟨h.session, h.awaiting, by simp [Bot.stopAsking, h.wizard]⟩

end Bot

/-! ## Plans read and change their own chat -/

/-- Two plans answer alike, and leave bots that agree in the chat. -/
inductive PlansAgree (chat : Int) : Except Crash Plan → Except Crash Plan → Prop
  | crash (c : Crash) : PlansAgree chat (.error c) (.error c)
  | plan {b b' : Bot} (acts : List Act) (registry : b.SameRegistry b') (chats : b.AgreeAt b' chat) :
    PlansAgree chat (.ok ⟨b, acts⟩) (.ok ⟨b', acts⟩)

section Congruence

variable {b b' : Bot} {chat : Int}

/-- A move depends on the riddles and on the session of the chat only. -/
theorem Play.move_congr (catalogue : Catalogue) {sessions sessions' : Sessions}
    (h : sessions.get? chat = sessions'.get? chat) (text : String) :
    Play.move catalogue sessions chat text = Play.move catalogue sessions' chat text := by
  unfold Play.move
  rw [h]

/-- The plan for a command of a player depends on the riddles and on its chat only. -/
theorem planPlayerCommand_congr (hr : b.SameRegistry b') (h : b.AgreeAt b' chat)
    (c : PlayerCommand) :
    PlansAgree chat (.ok (planPlayerCommand b chat c)) (.ok (planPlayerCommand b' chat c)) := by
  have hreset := (h.stopAwaiting chat).leave chat
  cases c with
  | help => exact .plan _ ⟨hr.catalogue, hr.source⟩ hreset
  | start => exact .plan _ ⟨hr.catalogue, hr.source⟩ hreset
  | startRiddle => exact .plan _ ⟨hr.catalogue, hr.source⟩ (hreset.await chat)
  | stopRiddle =>
    rw [planPlayerCommand_stopRiddle, planPlayerCommand_stopRiddle, h.sessions_contains]
    by_cases hc : b'.sessions.contains chat = true
    · rw [if_pos hc, if_pos hc]
      exact .plan _ ⟨hr.catalogue, hr.source⟩ hreset
    · rw [if_neg hc, if_neg hc]
      exact .plan _ ⟨hr.catalogue, hr.source⟩ (h.stopAwaiting chat)

theorem planCode_congr (hr : b.SameRegistry b') (h : b.AgreeAt b' chat) (text : String) :
    PlansAgree chat (.ok (planCode b chat text)) (.ok (planCode b' chat text)) := by
  cases hg : b'.catalogue.get? (codeIn text) with
  | none =>
    rw [planCode_of_none hg, planCode_of_none (hr.catalogue ▸ hg)]
    exact .plan _ hr h
  | some riddle =>
    rw [planCode_of_some hg, planCode_of_some (hr.catalogue ▸ hg)]
    exact .plan _ ⟨hr.catalogue, hr.source⟩ ((h.enter chat _).stopAwaiting chat)

theorem planMove_congr (hr : b.SameRegistry b') (h : b.AgreeAt b' chat) (text : String) :
    PlansAgree chat (planMove b chat text) (planMove b' chat text) := by
  have hm : Play.move b.catalogue b.sessions chat text =
      Play.move b'.catalogue b'.sessions chat text := by
    rw [hr.catalogue, Play.move_congr _ h.session]
  cases hm' : Play.move b'.catalogue b'.sessions chat text with
  | ok m =>
    rw [planMove_of_move hm', planMove_of_move (hm.trans hm')]
    exact .plan _ hr h
  | error o =>
    cases o with
    | unknownState e =>
      rw [planMove_of_unknownState hm', planMove_of_unknownState (hm.trans hm')]
      exact .crash _
    | noRiddle code =>
      simp only [planMove, hm.trans hm', hm']
      exact .plan _ ⟨hr.catalogue, hr.source⟩ (h.leave chat)
    | noSession other =>
      simp only [planMove, hm.trans hm', hm']
      exact .plan _ hr h

theorem planAdminCommand_congr (hr : b.SameRegistry b') (h : b.AgreeAt b' chat)
    (c : AdminCommand) :
    PlansAgree chat (.ok (planAdminCommand b chat c)) (.ok (planAdminCommand b' chat c)) := by
  cases c with
  | help => exact .plan _ ⟨hr.catalogue, hr.source⟩ (h.stopAsking chat)
  | listRiddles =>
    unfold planAdminCommand
    rw [hr.catalogue]
    exact .plan _ ⟨hr.catalogue, hr.source⟩ (h.stopAsking chat)
  | newRiddle => exact .plan _ ⟨hr.catalogue, hr.source⟩ (h.ask chat _)
  | removeRiddle => exact .plan _ ⟨hr.catalogue, hr.source⟩ (h.ask chat _)

theorem planDocument_congr (hr : b.SameRegistry b') (h : b.AgreeAt b' chat) (user : Int)
    (code : Option String) (name description text : String) :
    PlansAgree chat (planDocument b chat user code name description text)
      (planDocument b' chat user code name description text) := by
  have hreg : ∀ d, (b.stopAsking chat).register code d = (b'.stopAsking chat).register code d := by
    intro d
    show b.catalogue.register b.source code d = b'.catalogue.register b'.source code d
    rw [hr.catalogue, hr.source]
  unfold planDocument
  split
  · exact .crash _
  · exact .plan _ hr h
  · simp only [hreg]
    split
    · exact .plan _ ⟨hr.catalogue, hr.source⟩ (h.stopAsking chat)
    · have ha := h.stopAsking chat
      exact .plan _ ⟨.refl _, .refl _⟩ ⟨ha.session, ha.awaiting, ha.wizard⟩

theorem planAnswer_congr (hr : b.SameRegistry b') (h : b.AgreeAt b' chat) (user : Int)
    (text : String) (w : Wizard) :
    PlansAgree chat (planAnswer b chat user text w) (planAnswer b' chat user text w) := by
  cases w with
  | code =>
    simp only [planAnswer, hr.catalogue]
    split
    · exact .plan _ hr h
    · exact .plan _ ⟨hr.catalogue, hr.source⟩ (h.ask chat _)
  | name code => exact .plan _ ⟨hr.catalogue, hr.source⟩ (h.ask chat _)
  | description code name => exact .plan _ ⟨hr.catalogue, hr.source⟩ (h.ask chat _)
  | document code name description => exact planDocument_congr hr h user code name description text
  | removal =>
    rw [planAnswer_removal, planAnswer_removal, hr.catalogue]
    split
    · exact .plan _ ⟨.refl _, hr.source⟩ ⟨h.session, h.awaiting, (h.stopAsking chat).wizard⟩
    · exact .plan _ hr h

/-- Bots that agree in the chat of a text send it to the same part. -/
theorem route_congr (admins : Admins) {m : Incoming} (h : b.AgreeAt b' m.chat) :
    b.route admins m = b'.route admins m := by
  unfold Bot.route Bot.playerRoute
  rw [h.awaiting_contains, h.sessions_contains, h.wizard]

/-- Bots with the same registry that agree in the chat of a text plan it alike. -/
theorem plan_congr (admins : Admins) {m : Incoming} (hr : b.SameRegistry b')
    (h : b.AgreeAt b' m.chat) : PlansAgree m.chat (plan admins b m) (plan admins b' m) := by
  rw [plan_eq_route, plan_eq_route, route_congr admins h]
  cases b'.route admins m with
  | adminCommand c => exact planAdminCommand_congr hr h c
  | answer user w => exact planAnswer_congr hr h user m.text w
  | playerCommand c => exact planPlayerCommand_congr hr h c
  | code => exact planCode_congr hr h m.text
  | game => exact planMove_congr hr h m.text
  | unheeded => exact .plan _ hr h

end Congruence

section Frame

variable {b : Bot} {p : Plan} {chat other : Int}

/-- A command of a player changes nothing for other chats. -/
theorem planPlayerCommand_agreeAt_of_ne (c : PlayerCommand) (ho : other ≠ chat) :
    (planPlayerCommand b chat c).bot.AgreeAt b other := by
  have hreset : ((b.stopAwaiting chat).leave chat).AgreeAt b other :=
    (Bot.leave_agreeAt_of_ne ho).trans (Bot.stopAwaiting_agreeAt_of_ne ho)
  cases c with
  | help => exact hreset
  | start => exact hreset
  | startRiddle => exact (Bot.await_agreeAt_of_ne ho).trans hreset
  | stopRiddle =>
    rw [planPlayerCommand_stopRiddle]
    split
    · exact hreset
    · exact Bot.stopAwaiting_agreeAt_of_ne ho

theorem planCode_agreeAt_of_ne (text : String) (ho : other ≠ chat) :
    (planCode b chat text).bot.AgreeAt b other := by
  cases hg : b.catalogue.get? (codeIn text) with
  | none =>
    rw [planCode_of_none hg]
    exact .rfl
  | some riddle =>
    rw [planCode_of_some hg]
    exact (Bot.stopAwaiting_agreeAt_of_ne ho).trans (Bot.enter_agreeAt_of_ne _ ho)

theorem planMove_agreeAt_of_ne {text : String} (h : planMove b chat text = .ok p)
    (ho : other ≠ chat) : p.bot.AgreeAt b other := by
  unfold planMove at h
  split at h
  · cases h
  · rename_i o _ _
    obtain rfl := Except.ok.inj h
    cases o with
    | noRiddle code => exact Bot.leave_agreeAt_of_ne ho
    | noSession other => exact .rfl
    | unknownState e => exact .rfl
  · obtain rfl := Except.ok.inj h
    exact .rfl

theorem planAdminCommand_agreeAt_of_ne (c : AdminCommand) (ho : other ≠ chat) :
    (planAdminCommand b chat c).bot.AgreeAt b other := by
  cases c with
  | help => exact Bot.stopAsking_agreeAt_of_ne ho
  | listRiddles => exact Bot.stopAsking_agreeAt_of_ne ho
  | newRiddle => exact Bot.ask_agreeAt_of_ne _ ho
  | removeRiddle => exact Bot.ask_agreeAt_of_ne _ ho

theorem Answered.agreeAt_of_ne {b' : Bot} (h : Answered b chat b') (ho : other ≠ chat) :
    b'.AgreeAt b other := by
  have hstop := Bot.stopAsking_agreeAt_of_ne (b := b) ho
  cases h with
  | same => exact .rfl
  | asked w => exact Bot.ask_agreeAt_of_ne w ho
  | stopped => exact hstop
  | registered code draft document compiled register =>
    exact ⟨hstop.session, hstop.awaiting, hstop.wizard⟩
  | removed code => exact ⟨hstop.session, hstop.awaiting, hstop.wizard⟩

/-- The plan for a text of a chat changes nothing that is kept for another chat. -/
theorem plan_agreeAt_of_ne {admins : Admins} {m : Incoming} (h : plan admins b m = .ok p)
    (ho : other ≠ m.chat) : p.bot.AgreeAt b other := by
  rcases plan_cases h with ⟨c, rfl⟩ | ha | ⟨c, rfl⟩ | rfl | hm
  · exact planAdminCommand_agreeAt_of_ne c ho
  · exact ha.agreeAt_of_ne ho
  · exact planPlayerCommand_agreeAt_of_ne c ho
  · exact planCode_agreeAt_of_ne m.text ho
  · exact planMove_agreeAt_of_ne hm ho

end Frame

/-! ## What follows a plan changes the session of its chat only -/

namespace Bot

variable {b b' : Bot} {chat other : Int}

theorem settle_sameRegistry (a : Act) : (b.settle chat a).SameRegistry b := by
  cases a <;> exact ⟨.refl _, .refl _⟩

theorem settle_agreeAt_of_ne (a : Act) (ho : other ≠ chat) :
    (b.settle chat a).AgreeAt b other := by
  cases a with
  | enter s => exact enter_agreeAt_of_ne s ho
  | leave => exact leave_agreeAt_of_ne ho
  | deliver d => exact .rfl
  | note n => exact .rfl

/-- Bots that agree at a chat do so after the same act, in whichever chat. -/
theorem AgreeAt.settle (h : b.AgreeAt b' other) (chat : Int) (a : Act) :
    (b.settle chat a).AgreeAt (b'.settle chat a) other := by
  cases a with
  | enter s => exact h.enter chat s
  | leave => exact h.leave chat
  | deliver d => exact h
  | note n => exact h

/-- One act that is no delivery. -/
theorem perform_cons {course : Course} {a : Act} {rest : List Act} (ha : ∀ d, a ≠ .deliver d) :
    perform course chat b (a :: rest) =
      { perform course chat (b.settle chat a) rest with
        notices := noticesOf a ++ (perform course chat (b.settle chat a) rest).notices } := by
  cases a with
  | deliver d => exact absurd rfl (ha d)
  | enter s => rfl
  | leave => rfl
  | note n => rfl

/-- Performing ends at the first delivery that fails. -/
theorem perform_deliver_of_some {course : Course} {d : Delivery} {e : DeliveryFailure}
    {rest : List Act} (he : course 0 d = some e) :
    perform course chat b (.deliver d :: rest) =
      ⟨b, [], 1, failureNotices chat e, .undelivered e⟩ := by
  simp only [perform, he]

/-- A delivery that is made is followed by the rest. -/
theorem perform_deliver_of_none {course : Course} {d : Delivery} {rest : List Act}
    (he : course 0 d = none) :
    perform course chat b (.deliver d :: rest) =
      { perform course.next chat b rest with
        sent := d :: (perform course.next chat b rest).sent
        tried := (perform course.next chat b rest).tried + 1 } := by
  simp only [perform, he]

/-- Acts do the same to bots that agree in a chat. -/
theorem perform_agreeAt (course : Course) (chat : Int) (acts : List Act)
    (h : b.AgreeAt b' other) :
    (perform course chat b acts).bot.AgreeAt (perform course chat b' acts).bot other := by
  fun_induction perform course chat b acts generalizing b' with
  | case1 course b => exact h
  | case2 course b d rest e he =>
    rw [perform_deliver_of_some he]
    exact h
  | case3 course b d rest he after =>
    rename_i ih
    rw [perform_deliver_of_none he]
    exact ih h
  | case4 course b a rest ha after =>
    rename_i ih
    rw [perform_cons ha]
    exact ih (h.settle chat a)

/-- The deliveries of acts and their outcome do not depend on the bot. -/
theorem perform_results (course : Course) (chat : Int) (b b' : Bot) (acts : List Act) :
    (perform course chat b acts).sent = (perform course chat b' acts).sent ∧
      (perform course chat b acts).outcome = (perform course chat b' acts).outcome := by
  fun_induction perform course chat b acts generalizing b' with
  | case1 course b => exact ⟨rfl, rfl⟩
  | case2 course b d rest e he =>
    rw [perform_deliver_of_some he]
    exact ⟨rfl, rfl⟩
  | case3 course b d rest he after =>
    rename_i ih
    rw [perform_deliver_of_none he]
    obtain ⟨hs, ho⟩ := ih b'
    exact ⟨congrArg (d :: ·) hs, ho⟩
  | case4 course b a rest ha after =>
    rename_i ih
    rw [perform_cons ha]
    exact ih (b'.settle chat a)

/-- Performing acts registers and removes nothing. -/
theorem perform_sameRegistry (course : Course) (chat : Int) (acts : List Act) :
    (perform course chat b acts).bot.SameRegistry b := by
  fun_induction perform course chat b acts with
  | case1 course b => exact .rfl
  | case2 course b d rest e he => exact .rfl
  | case3 course b d rest he after ih => exact ih
  | case4 course b a rest ha after ih => exact ih.trans (settle_sameRegistry a)

/-- Performing acts changes nothing for other chats. -/
theorem perform_agreeAt_of_ne (course : Course) (acts : List Act) (ho : other ≠ chat) :
    (perform course chat b acts).bot.AgreeAt b other := by
  fun_induction perform course chat b acts with
  | case1 course b => exact .rfl
  | case2 course b d rest e he => exact .rfl
  | case3 course b d rest he after ih => exact ih
  | case4 course b a rest ha after ih => exact ih.trans (settle_agreeAt_of_ne a ho)

/-- Where all acts leave the bot as it is, so does carrying them out. -/
theorem perform_bot_of_quiet (course : Course) {acts : List Act}
    (h : ∀ a ∈ acts, a.isQuiet = true) : (perform course chat b acts).bot = b := by
  fun_induction perform course chat b acts with
  | case1 course b => rfl
  | case2 course b d rest e he => rfl
  | case3 course b d rest he after ih => exact ih fun a ha => h a (List.mem_cons_of_mem _ ha)
  | case4 course b a rest ha after ih =>
    have hquiet : b.settle chat a = b := Act.settle_of_isQuiet (h a List.mem_cons_self)
    exact (ih fun a ha => h a (List.mem_cons_of_mem _ ha)).trans hquiet

/-- Bots with the same registry that agree in the chat of a text handle it alike. -/
theorem handleIn_congr (admins : Admins) (course : Course) {m : Incoming} (hr : b.SameRegistry b')
    (h : b.AgreeAt b' m.chat) :
    (b.handleIn admins course m).sent = (b'.handleIn admins course m).sent ∧
      (b.handleIn admins course m).outcome = (b'.handleIn admins course m).outcome ∧
      (b.handleIn admins course m).bot.SameRegistry (b'.handleIn admins course m).bot ∧
      (b.handleIn admins course m).bot.AgreeAt (b'.handleIn admins course m).bot m.chat := by
  have hp := plan_congr admins hr h
  unfold handleIn
  generalize plan admins b m = x at hp
  generalize plan admins b' m = y at hp
  cases hp with
  | crash c => exact ⟨rfl, rfl, hr, h⟩
  | @plan p p' acts registry chats =>
    obtain ⟨hs, ho⟩ := perform_results course m.chat p p' acts
    refine ⟨hs, ho, ?_, perform_agreeAt course m.chat acts chats⟩
    have hp := perform_sameRegistry (b := p) course m.chat acts
    have hp' := perform_sameRegistry (b := p') course m.chat acts
    exact (hp.trans registry).trans hp'.symm

/-- Handling a text changes nothing that is kept for another chat. -/
theorem handleIn_agreeAt_of_ne (admins : Admins) (course : Course) {m : Incoming}
    (ho : other ≠ m.chat) : (b.handleIn admins course m).bot.AgreeAt b other := by
  unfold handleIn
  cases hp : plan admins b m with
  | error e => exact .rfl
  | ok p => exact (perform_agreeAt_of_ne course p.acts ho).trans (plan_agreeAt_of_ne hp ho)

end Bot

end ChatRiddles
