import ChatRiddles.Proofs.Automaton
/-!
# How far an update reaches

An update of a chat changes what the bot keeps for that chat, and at most one riddle of the
catalogue: one is removed, or a new one comes after the others. Its deliveries go to that chat, with
one exception. An action of a riddle may send a text to another chat, and then it is an action of
the edge that the text of the update picks in the game that the chat has been playing.

All of this holds whoever sends the update, whichever deliveries fail and whatever breaks down.

Main definitions: `Catalogue.OneChange`, `Bot.MaySend`. Main statements: `maySend_of_plan` (the
deliveries of a plan) and `Bot.handleUpdateIn_confined`.
-/

namespace ChatRiddles

/-! ## The catalogue -/

namespace Catalogue

/-- How a list of riddles may change by one update. -/
inductive OneChange : List Riddle → List Riddle → Prop
  | same (l : List Riddle) : OneChange l l
  | removed (before : List Riddle) (r : Riddle) (after : List Riddle) :
    OneChange (before ++ r :: after) (before ++ after)
  | appended (l : List Riddle) (r : Riddle) : OneChange l (l ++ [r])

variable {c c' : Catalogue}

/-- No two riddles have one code, so a code is that of one riddle at most. -/
theorem oneChange_erase (c : Catalogue) (code : String) :
    OneChange c.riddles (c.erase code).riddles := by
  show OneChange _ (c.riddles.filter (·.code != code))
  by_cases h : ∃ r ∈ c.riddles, r.code = code
  · obtain ⟨r, hr, hcode⟩ := h
    obtain ⟨before, after, hsplit⟩ := List.append_of_mem hr
    have hdistinct := c.distinct
    rw [hsplit, List.map_append, List.map_cons, List.nodup_append, List.nodup_cons] at hdistinct
    obtain ⟨-, ⟨hafter, -⟩, hbefore⟩ := hdistinct
    have hkeep : ∀ r' ∈ before ++ after, (r'.code != code) = true := by
      intro r' hr'
      rw [bne_iff_ne, ← hcode]
      rcases List.mem_append.mp hr' with hr' | hr'
      · exact hbefore r'.code (List.mem_map_of_mem hr') r.code List.mem_cons_self
      · exact fun heq => hafter (heq ▸ List.mem_map_of_mem hr')
    have hdrop : [r].filter (·.code != code) = [] := by
      simp [hcode]
    have hfilter : (before ++ r :: after).filter (·.code != code) = before ++ after := by
      rw [List.append_cons, List.filter_append, List.filter_append, hdrop, List.append_nil,
        ← List.filter_append, List.filter_eq_self.mpr hkeep]
    rw [hsplit, hfilter]
    exact .removed before r after
  · have hkeep : ∀ r ∈ c.riddles, (r.code != code) = true := by
      intro r hr
      rw [bne_iff_ne]
      exact fun hcode => h ⟨r, hr, hcode⟩
    rw [List.filter_eq_self.mpr hkeep]
    exact .same _

/-- A change of the catalogue is a change of its riddles in one place. -/
theorem Change.oneChange (h : c.Change c') : OneChange c.riddles c'.riddles := by
  cases h with
  | same => exact .same _
  | erased code => exact c.oneChange_erase code
  | registered r free document compiled => exact .appended c.riddles r

end Catalogue

/-! ## Deliveries -/

/-- The deliveries that a text in a chat may bring about. -/
inductive Bot.MaySend (b : Bot) (chat : Int) (text : String) (d : Delivery) : Prop
  | answer (own : d.chat = chat)
  -- what the edge sends that the text picks in the game of the chat
  | sendTo (s : Session) (session : b.sessions.get? chat = some s) (r : Riddle)
    (riddle : b.catalogue.get? s.riddle = some r) (e : Definition.Edge)
    (picked : r.definition.pick? s.state text = some e)
    (action : .sendTo d.chat d.text ∈ e.actions)

/-- The deliveries of a move are those of the actions that the text sets off. -/
theorem Play.deliveries_of_move {catalogue : Catalogue} {sessions : Sessions} {chat : Int}
    {text : String} {m : Move} (h : move catalogue sessions chat text = .ok m) :
    ∃ s, sessions.get? chat = some s ∧ catalogue.get? s.riddle = some m.riddle ∧
      m.deliveries = (m.riddle.definition.reaction s.state text).map (·.delivery chat) := by
  obtain ⟨s, state, hs, hr, hstate, -⟩ := move_eq_ok h
  have hmove : move catalogue sessions chat text = _ :=
    move_eq_advance hs hr (Option.isSome_iff_exists.mpr ⟨state, hstate⟩)
  rw [h] at hmove
  exact ⟨s, hs, hr, congrArg Move.deliveries (Except.ok.inj hmove)⟩

section Plans

variable {admins : Admins} {b : Bot} {m : Incoming} {p : Plan} {chat : Int} {text : String}
  {d : Delivery}

/-- An action that is set off delivers to the chat that plays, or to the chat that it names. -/
theorem maySend_of_reaction {s : Session} {r : Riddle} {a : Action}
    (hs : b.sessions.get? chat = some s) (hr : b.catalogue.get? s.riddle = some r)
    (ha : a ∈ r.definition.reaction s.state text) : b.MaySend chat text (a.delivery chat) := by
  unfold Definition.reaction at ha
  cases hpick : r.definition.pick? s.state text with
  | none =>
    rw [hpick] at ha
    exact absurd ha List.not_mem_nil
  | some e =>
    rw [hpick] at ha
    cases a with
    | message t => exact .answer rfl
    | sendTo other t => exact .sendTo s hs r hr e hpick ha

theorem maySend_of_isAnswer (h : (Act.deliver d).isAnswer chat = true) : b.MaySend chat text d :=
  .answer (eq_of_beq h)

/-- What follows the deliveries of a move goes to the chat that plays. -/
theorem maySend_of_settlement {mv : Play.Move} (h : .deliver d ∈ settlement mv chat) :
    b.MaySend chat text d := by
  unfold settlement at h
  split at h
  · have hlast : Act.deliver d = reply chat "You solved the riddle!" := by
      simpa using h
    apply maySend_of_isAnswer
    rw [hlast, isAnswer_reply]
  · simp at h

/-- What a move delivers is what the edge sends that the text picks, or an answer. -/
theorem maySend_of_planMove (h : planMove b chat text = .ok p) (hd : .deliver d ∈ p.acts) :
    b.MaySend chat text d := by
  unfold planMove at h
  split at h
  · cases h
  · obtain rfl := Except.ok.inj h
    apply maySend_of_isAnswer
    rw [List.mem_singleton.mp hd, isAnswer_reply]
  · rename_i mv hmove
    obtain rfl := Except.ok.inj h
    rcases List.mem_append.mp hd with hd | hd
    · obtain ⟨s, hs, hr, hdeliveries⟩ := Play.deliveries_of_move hmove
      have hmem : d ∈ mv.deliveries := by simpa using hd
      rw [hdeliveries] at hmem
      obtain ⟨a, ha, rfl⟩ := List.mem_map.mp hmem
      exact maySend_of_reaction hs hr ha
    · exact maySend_of_settlement hd

theorem maySend_of_plan (h : plan admins b m = .ok p) (hd : .deliver d ∈ p.acts) :
    b.MaySend m.chat m.text d := by
  by_cases hr : b.route admins m = .game
  · rw [plan_eq_route, hr] at h
    exact maySend_of_planMove h hd
  · exact maySend_of_isAnswer (answers_of_plan h hr _ hd)

end Plans

namespace Bot

variable {admins : Admins} {course : Course} {b : Bot} {m : Incoming} {u : Update} {chat : Int}
  {d : Delivery}

/-- Only what a plan holds is delivered. -/
theorem deliver_mem_of_mem_sent {acts : List Act} (h : d ∈ (perform course chat b acts).sent) :
    .deliver d ∈ acts := by
  fun_induction perform course chat b acts with
  | case1 course b => exact absurd h List.not_mem_nil
  | case2 course b d' rest e he => exact absurd h List.not_mem_nil
  | case3 course b d' rest he after ih =>
    rcases List.mem_cons.mp h with rfl | h
    · exact List.mem_cons_self
    · exact List.mem_cons_of_mem _ (ih h)
  | case4 course b a rest ha after ih => exact List.mem_cons_of_mem _ (ih h)

/-! ## Texts and updates -/

/-- What is sent while a text is handled may be sent, however deliveries end. -/
theorem maySend_of_handleIn (h : d ∈ (b.handleIn admins course m).sent) :
    b.MaySend m.chat m.text d := by
  unfold handleIn at h
  cases hp : plan admins b m with
  | error e =>
    rw [hp] at h
    exact absurd h List.not_mem_nil
  | ok p =>
    rw [hp] at h
    exact maySend_of_plan hp (deliver_mem_of_mem_sent h)

/-- Handling a text changes the riddles in one place at most. -/
theorem handleIn_oneChange (admins : Admins) (course : Course) (b : Bot) (m : Incoming) :
    Catalogue.OneChange b.catalogue.riddles (b.handleIn admins course m).bot.catalogue.riddles := by
  unfold handleIn
  cases hp : plan admins b m with
  | error e => exact .same _
  | ok p =>
    have hrest := (perform_sameRegistry (b := p.bot) course m.chat p.acts).catalogue
    show Catalogue.OneChange _ (perform course m.chat p.bot p.acts).bot.catalogue.riddles
    rw [hrest]
    exact (plan_change hp).oneChange

/-- The text of an update is sent in the chat of its message. -/
theorem incoming?_eq_some (h : u.incoming? = some m) :
    u.message.map (·.chat.id) = some m.chat ∧ u.message.bind (·.text) = some m.text := by
  obtain ⟨message, hmessage, h⟩ := Option.bind_eq_some_iff.mp h
  obtain ⟨text, htext, h⟩ := Option.bind_eq_some_iff.mp h
  obtain rfl := Option.some.inj h
  rw [hmessage]
  exact ⟨rfl, htext⟩

/-- An update of a chat changes nothing that is kept for another chat, and at most one riddle is
removed or added. Each of its deliveries goes to the chat, or it is what an action sends to another
chat, and the text of the update picks the edge of that action in the game of the chat. -/
theorem handleUpdateIn_confined (admins : Admins) (course : Course) (b : Bot)
    (h : u.message.map (·.chat.id) = some chat) :
    let after := b.handleUpdateIn admins course u
    (∀ other, other ≠ chat → after.bot.AgreeAt b other) ∧
      Catalogue.OneChange b.catalogue.riddles after.bot.catalogue.riddles ∧
      ∀ d ∈ after.sent, ∃ text, u.message.bind (·.text) = some text ∧ b.MaySend chat text d := by
  intro after
  cases hu : u.incoming? with
  | none =>
    have hafter : after = ⟨b, [], 0, [], .handled⟩ := by
      show b.handleUpdateIn admins course u = _
      rw [handleUpdateIn, hu]
    rw [hafter]
    exact ⟨fun _ _ => .rfl, .same _, fun d hd => absurd hd List.not_mem_nil⟩
  | some m =>
    have hafter : after = b.handleIn admins course m := by
      show b.handleUpdateIn admins course u = _
      rw [handleUpdateIn, hu]
    obtain ⟨hchat, htext⟩ := incoming?_eq_some hu
    obtain rfl : m.chat = chat := Option.some.inj (hchat.symm.trans h)
    rw [hafter]
    refine ⟨fun other hother => handleIn_agreeAt_of_ne admins course hother,
      handleIn_oneChange admins course b m, fun d hd => ?_⟩
    exact ⟨m.text, htext, maySend_of_handleIn hd⟩

/-- Two chats play the riddle that greets. One of them is greeted, and so is a third chat, while the
other goes on to play. -/
theorem handleUpdateIn_confined_greeter :
    let b := (({ Bot.start (.ofKnown []) with catalogue := ⟨[greeter], by decide⟩ }
      : Bot).enter 1 ⟨"k", "a"⟩).enter 2 ⟨"k", "a"⟩
    let u : Update := ⟨7, some ⟨1, ⟨1, "private"⟩, none, some "hi"⟩⟩
    let after := b.handleUpdateIn [5] (.always .reliable) u
    u.message.map (·.chat.id) = some 1 ∧
      after.sent = [⟨1, "Hello"⟩, ⟨9, "Somebody is here"⟩] ∧
      after.bot.sessions.get? 2 = some ⟨"k", "a"⟩ ∧
      b.MaySend 1 "hi" ⟨9, "Somebody is here"⟩ := by
  intro b u after
  have hchat : u.message.map (·.chat.id) = some 1 := rfl
  obtain ⟨hothers, -, hsent⟩ := handleUpdateIn_confined [5] (.always .reliable) b hchat
  have hdeliveries : after.sent = [⟨1, "Hello"⟩, ⟨9, "Somebody is here"⟩] := by decide +kernel
  refine ⟨hchat, hdeliveries, ?_, ?_⟩
  · exact (hothers 2 (by decide)).session.trans (by decide +kernel)
  · have hmem : ⟨9, "Somebody is here"⟩ ∈ after.sent := by
      rw [hdeliveries]
      exact List.mem_cons_of_mem _ List.mem_cons_self
    obtain ⟨text, htext, hmay⟩ := hsent _ hmem
    obtain rfl : "hi" = text := Option.some.inj htext
    exact hmay

end Bot

end ChatRiddles
