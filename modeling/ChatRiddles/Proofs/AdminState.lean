import ChatRiddles.Proofs.Locality
/-!
# What administrators decide

The riddles and the dialogues with administrators are changed by texts of administrators alone. Such
a text changes them at once, before its deliveries, so that it does not matter which of these fail;
and what it makes of them depends on nothing else that the bot keeps.

So the riddles and the dialogues after any updates are those after the updates of administrators.

Main definitions: `Bot.SameAdminState`, `Update.isBy`. Main statement: `adminState_of_updates`.
-/

namespace ChatRiddles

/-- Whether an administrator has sent an update. An update without a message or without a sender has
been sent by none. -/
def Update.isBy (admins : Admins) (u : Update) : Bool :=
  (u.message.bind (·.sender)).any fun user => admins.contains user.id

/-- An update that is by no administrator brings a text of none. -/
theorem Update.admin?_eq_none {admins : Admins} {u : Update} {m : Incoming}
    (h : u.incoming? = some m) (hby : u.isBy admins = false) : m.admin? admins = none := by
  obtain ⟨message, hmessage, h⟩ := Option.bind_eq_some_iff.mp h
  obtain ⟨text, -, h⟩ := Option.bind_eq_some_iff.mp h
  obtain rfl := Option.some.inj h
  rw [Update.isBy, hmessage, Option.bind_some] at hby
  show (message.sender.map (·.id)).filter admins.contains = none
  cases hsender : message.sender with
  | none => rfl
  | some user =>
    rw [hsender, Option.any_some] at hby
    rw [Option.map_some, Option.filter_some, hby]
    rfl

namespace Bot

/-- Two bots have the same riddles, draw the same codes and have the same dialogues with
administrators. -/
structure SameAdminState (b b' : Bot) : Prop where
  registry : b.SameRegistry b'
  wizards : b.wizards = b'.wizards

variable {b b' b'' : Bot} {chat : Int}

namespace SameAdminState

theorem rfl : b.SameAdminState b := ⟨.rfl, .refl _⟩

theorem symm (h : b.SameAdminState b') : b'.SameAdminState b := ⟨h.registry.symm, h.wizards.symm⟩

theorem trans (h : b.SameAdminState b') (h' : b'.SameAdminState b'') : b.SameAdminState b'' :=
  ⟨h.registry.trans h'.registry, h.wizards.trans h'.wizards⟩

theorem ask (h : b.SameAdminState b') (chat : Int) (w : Wizard) :
    (b.ask chat w).SameAdminState (b'.ask chat w) :=
  ⟨⟨h.registry.catalogue, h.registry.source⟩, congrArg (·.set chat w) h.wizards⟩

theorem stopAsking (h : b.SameAdminState b') (chat : Int) :
    (b.stopAsking chat).SameAdminState (b'.stopAsking chat) :=
  ⟨⟨h.registry.catalogue, h.registry.source⟩, congrArg (·.clear chat) h.wizards⟩

end SameAdminState

/-- The bot after what a plan changes at once; a bot that has no plan stays as it is. -/
def afterPlan (b : Bot) : Except Crash Plan → Bot
  | .ok p => p.bot
  | .error _ => b

end Bot

/-! ## Texts of players -/

section Players

variable {b : Bot} {p : Plan} {chat : Int} {text : String}

/-- Commands of players leave the state of administration alone. -/
theorem planPlayerCommand_sameAdminState (c : PlayerCommand) :
    (planPlayerCommand b chat c).bot.SameAdminState b := by
  cases c with
  | help => exact ⟨⟨rfl, rfl⟩, rfl⟩
  | start => exact ⟨⟨rfl, rfl⟩, rfl⟩
  | startRiddle => exact ⟨⟨rfl, rfl⟩, rfl⟩
  | stopRiddle =>
    rw [planPlayerCommand_stopRiddle]
    split
    · exact ⟨⟨rfl, rfl⟩, rfl⟩
    · exact ⟨⟨rfl, rfl⟩, rfl⟩

theorem planCode_sameAdminState : (planCode b chat text).bot.SameAdminState b := by
  cases hg : b.catalogue.get? (codeIn text) with
  | none =>
    rw [planCode_of_none hg]
    exact .rfl
  | some riddle =>
    rw [planCode_of_some hg]
    exact ⟨⟨rfl, rfl⟩, rfl⟩

theorem planMove_sameAdminState (h : planMove b chat text = .ok p) : p.bot.SameAdminState b := by
  unfold planMove at h
  split at h
  · cases h
  · obtain rfl := Except.ok.inj h
    exact ⟨⟨rfl, rfl⟩, rfl⟩
  · obtain rfl := Except.ok.inj h
    exact .rfl

/-- The part for players leaves the riddles and the dialogues as they are. -/
theorem planPlayer_sameAdminState :
    (b.afterPlan (planPlayer b chat text)).SameAdminState b := by
  unfold planPlayer
  split
  · exact planPlayerCommand_sameAdminState _
  · split
    · exact planCode_sameAdminState
    · split
      · cases hp : planMove b chat text with
        | error e => exact .rfl
        | ok p => exact planMove_sameAdminState hp
      · exact .rfl

end Players

/-! ## Texts of administrators -/

section Administrators

variable {b b' : Bot} {chat user : Int} {text : String}

/-- Commands of administrators do the same to two bots in the same state of administration. -/
theorem planAdminCommand_adminState (h : b.SameAdminState b') (c : AdminCommand) :
    (planAdminCommand b chat c).bot.SameAdminState (planAdminCommand b' chat c).bot := by
  cases c with
  | help => exact h.stopAsking chat
  | listRiddles => exact h.stopAsking chat
  | newRiddle => exact h.ask chat .code
  | removeRiddle => exact h.ask chat .removal

theorem planDocument_adminState (h : b.SameAdminState b') (code : Option String)
    (name description : String) :
    (b.afterPlan (planDocument b chat user code name description text)).SameAdminState
      (b'.afterPlan (planDocument b' chat user code name description text)) := by
  -- the riddle is registered in the same catalogue, under the same code
  have hregister : ∀ d,
      (b.stopAsking chat).register code d = (b'.stopAsking chat).register code d := by
    intro d
    show b.catalogue.register b.source code d = b'.catalogue.register b'.source code d
    rw [h.registry.catalogue, h.registry.source]
  have hstop := h.stopAsking chat
  unfold planDocument
  cases Definition.ofText text with
  | error e =>
    cases e with
    | brokenDown e => exact h
    | rejected r => exact h
  | ok definition =>
    simp only [hregister]
    split
    · exact hstop
    · exact ⟨⟨rfl, rfl⟩, hstop.wizards⟩

theorem planAnswer_adminState (h : b.SameAdminState b') (w : Wizard) :
    (b.afterPlan (planAnswer b chat user text w)).SameAdminState
      (b'.afterPlan (planAnswer b' chat user text w)) := by
  cases w with
  | code =>
    simp only [planAnswer, h.registry.catalogue]
    split
    · exact h
    · exact h.ask chat _
  | name code => exact h.ask chat _
  | description code name => exact h.ask chat _
  | document code name description => exact planDocument_adminState h code name description
  | removal =>
    rw [planAnswer_removal, planAnswer_removal, h.registry.catalogue]
    split
    · exact ⟨⟨.refl _, h.registry.source⟩, (h.stopAsking chat).wizards⟩
    · exact h

end Administrators

namespace Bot

variable {admins : Admins} {b b' : Bot} {m : Incoming}

/-! ## One text -/

/-- What a text makes of the riddles and the dialogues depends on nothing else. -/
theorem plan_adminState (admins : Admins) (m : Incoming) (h : b.SameAdminState b') :
    (b.afterPlan (plan admins b m)).SameAdminState (b'.afterPlan (plan admins b' m)) := by
  have hplayer : (b.afterPlan (planPlayer b m.chat m.text)).SameAdminState
      (b'.afterPlan (planPlayer b' m.chat m.text)) :=
    (planPlayer_sameAdminState.trans h).trans planPlayer_sameAdminState.symm
  unfold plan
  cases m.admin? admins with
  | none => exact hplayer
  | some user =>
    unfold planAdmin?
    cases AdminCommand.ofText? m.text with
    | some c => exact planAdminCommand_adminState h c
    | none =>
      -- a dialogue is under way in both bots or in none
      simp only [h.wizards]
      cases b'.wizards.get? m.chat with
      | some w => exact planAnswer_adminState h w
      | none => exact hplayer

/-- Acts that follow a plan leave the state of administration alone. -/
theorem settle_sameAdminState (chat : Int) (b : Bot) (a : Act) :
    (b.settle chat a).SameAdminState b := by
  cases a <;> exact ⟨⟨rfl, rfl⟩, rfl⟩

/-- What follows a plan leaves the riddles and the dialogues as they are, however deliveries end. -/
theorem perform_sameAdminState (course : Course) (chat : Int) (b : Bot) (acts : List Act) :
    (perform course chat b acts).bot.SameAdminState b := by
  fun_induction perform course chat b acts with
  | case1 course b => exact .rfl
  | case2 course b d rest e he => exact .rfl
  | case3 course b d rest he after ih => exact ih
  | case4 course b a rest ha after ih => exact ih.trans (settle_sameAdminState chat b a)

/-- What a handled text does to the state of administration is in its plan, however deliveries end.
-/
theorem handleIn_sameAdminState (admins : Admins) (course : Course) (b : Bot) (m : Incoming) :
    (b.handleIn admins course m).bot.SameAdminState (b.afterPlan (plan admins b m)) := by
  unfold handleIn
  cases plan admins b m with
  | error e => exact .rfl
  | ok p => exact perform_sameAdminState course m.chat p.bot p.acts

/-! ## Updates -/

variable {u : Update}

/-- Bots with the same riddles and dialogues handle an update so that they have the same again,
however the deliveries of each end. -/
theorem handleUpdateIn_adminState (course course' : Course) (h : b.SameAdminState b') :
    (b.handleUpdateIn admins course u).bot.SameAdminState
      (b'.handleUpdateIn admins course' u).bot := by
  unfold handleUpdateIn
  cases u.incoming? with
  | none => exact h
  | some m =>
    have hplan := plan_adminState admins m h
    exact ((handleIn_sameAdminState admins course b m).trans hplan).trans
      (handleIn_sameAdminState admins course' b' m).symm

/-- An update that no administrator has sent leaves the riddles and the dialogues as they are. -/
theorem handleUpdateIn_sameAdminState (course : Course) (hby : u.isBy admins = false) :
    (b.handleUpdateIn admins course u).bot.SameAdminState b := by
  unfold handleUpdateIn
  cases hm : u.incoming? with
  | none => exact .rfl
  | some m =>
    have hplan : plan admins b m = planPlayer b m.chat m.text := by
      rw [plan, Update.admin?_eq_none hm hby]
    have hat := handleIn_sameAdminState admins course b m
    rw [hplan] at hat
    exact hat.trans planPlayer_sameAdminState

/-- After updates, the riddles and their order, the codes that are drawn next and the dialogues of
all chats are the same as after those updates alone that administrators have sent, whichever
deliveries fail in the one run and in the other. -/
theorem adminState_of_updates (admins : Admins) (b : Bot) (updates : List Update)
    (course course' : Course) :
    (b.handleUpdates admins course updates).bot.SameAdminState
      (b.handleUpdates admins course' (updates.filter (Update.isBy admins))).bot := by
  -- the bots of the two runs differ in what players have done
  suffices hrun : ∀ b', b.SameAdminState b' →
      (b.handleUpdates admins course updates).bot.SameAdminState
        (b'.handleUpdates admins course' (updates.filter (Update.isBy admins))).bot by
    exact hrun b .rfl
  induction updates generalizing b course course' with
  | nil =>
    intro b' h
    exact h
  | cons u rest ih =>
    intro b' h
    cases hby : u.isBy admins with
    | true =>
      rw [List.filter_cons_of_pos hby]
      exact ih _ _ _ _ (handleUpdateIn_adminState _ _ h)
    | false =>
      rw [List.filter_cons_of_neg (by rw [hby]; exact Bool.false_ne_true)]
      exact ih _ _ _ _ ((handleUpdateIn_sameAdminState course hby).trans h)

end Bot

end ChatRiddles
