import ChatRiddles.Proofs.Runs
/-!
# Games of riddles that have been removed

A game whose riddle is gone ends with the next text that is for it. A session names its riddle by
the code only, though: if another riddle has been registered under the code in the meantime, the
text is played in that one, and the game goes on there.

Main statement: `removed_game_ends_iff`.
-/

namespace ChatRiddles

namespace Bot

/-- A text ends the game of its chat: the chat has no session afterwards, and the answer is that
there is no riddle. -/
def EndsGame (b : Bot) (admins : Admins) (m : Incoming) : Prop :=
  plan admins b m = .ok ⟨b.leave m.chat, [reply m.chat "Riddle not found"]⟩

/-- A text is played in a riddle: at once it changes nothing, and a move in the riddle follows, or
the riddle lacks the current state. -/
def PlaysIn (b : Bot) (admins : Admins) (m : Incoming) (r : Riddle) : Prop :=
  (∃ mv : Play.Move, mv.riddle = r ∧
    plan admins b m = .ok ⟨b, mv.deliveries.map .deliver ++ settlement mv m.chat⟩) ∨
  ∃ e, plan admins b m = .error (.unknownState e)

variable {admins : Admins} {b : Bot} {m : Incoming} {s : Session} {r : Riddle}

/-- A text ends the game if its riddle is not there. -/
theorem endsGame_of_get?_eq_none (hroute : b.route admins m = .game)
    (hs : b.sessions.get? m.chat = some s) (hr : b.catalogue.get? s.riddle = none) :
    b.EndsGame admins m := by
  unfold EndsGame
  rw [plan_eq_route, hroute]
  exact planMove_of_noRiddle hs hr

/-- A text is played in the riddle that is there. -/
theorem playsIn_of_get? (hroute : b.route admins m = .game)
    (hs : b.sessions.get? m.chat = some s) (hr : b.catalogue.get? s.riddle = some r) :
    b.PlaysIn admins m r := by
  unfold PlaysIn
  rw [plan_eq_route, hroute]
  show (∃ mv : Play.Move, _ ∧ planMove b m.chat m.text = _) ∨
    ∃ e, planMove b m.chat m.text = _
  cases hedge : Walk.chooseEdge r.definition s.state m.text with
  | error e => exact .inr ⟨e, planMove_of_unknownState (by simp only [Play.move, hs, hr, hedge])⟩
  | ok taken =>
    cases taken with
    | none =>
      have hmove : Play.move b.catalogue b.sessions m.chat m.text = .ok ⟨r, s, []⟩ := by
        simp only [Play.move, hs, hr, hedge]
      exact .inl ⟨_, rfl, planMove_of_move hmove⟩
    | some edge =>
      have hmove : Play.move b.catalogue b.sessions m.chat m.text =
          .ok ⟨r, { s with state := edge.2.target s.state },
            edge.2.actions.map (·.delivery m.chat)⟩ := by
        simp only [Play.move, hs, hr, hedge]
      exact .inl ⟨_, rfl, planMove_of_move hmove⟩

/-- A text that is played in a riddle does not end the game. -/
theorem PlaysIn.not_endsGame (h : b.PlaysIn admins m r)
    (hs : b.sessions.get? m.chat = some s) : ¬ b.EndsGame admins m := by
  intro he
  unfold EndsGame at he
  rcases h with ⟨mv, -, hp⟩ | ⟨e, hp⟩
  · rw [hp] at he
    have hbot : b = b.leave m.chat := (Plan.mk.inj (Except.ok.inj he)).1
    rw [hbot] at hs
    simp [leave] at hs
  · rw [hp] at he
    cases he

end Bot

namespace Concurrent

variable {admins : Admins} {y c : Concurrent} {after : List Concurrent} {m : Incoming} {s : Session}

/-- In every run since the riddle of a game has been removed, the next text for the game ends it if
and only if there is no riddle under its code by then. If there is one, it has been registered since
the removal, and the text is played in it. -/
theorem removed_game_ends_iff (h : Run admins y after c)
    (hroute : c.bot.route admins m = .game) (hs : c.bot.sessions.get? m.chat = some s)
    (hremoved : y.bot.catalogue.get? s.riddle = none) :
    (c.bot.EndsGame admins m ↔ c.bot.catalogue.get? s.riddle = none) ∧
      ∀ r, c.bot.catalogue.get? s.riddle = some r →
        RegisteredIn (after ++ [c]) s.riddle r ∧ c.bot.PlaysIn admins m r := by
  have hplays : ∀ r, c.bot.catalogue.get? s.riddle = some r → c.bot.PlaysIn admins m r :=
    fun r hr => Bot.playsIn_of_get? hroute hs hr
  refine ⟨⟨fun he => ?_, Bot.endsGame_of_get?_eq_none hroute hs⟩, fun r hr => ?_⟩
  · rw [Option.eq_none_iff_forall_ne_some]
    intro r hr
    exact (hplays r hr).not_endsGame hs he
  · exact ⟨registered_of_run h hremoved hr, hplays r hr⟩

/-! ## Two runs

In both, a game is played in chat 1, its riddle is removed, and another riddle is registered: once
under another code, once under the same. -/

/-- A riddle is registered under the code `k`, and a game of it begins in chat 1. -/
def gameBegins : List Happening :=
  [.register (some "k") "Old" "" 7 ⟨"a", [], [⟨"a", []⟩]⟩, .text ⟨1, none, "/startriddle"⟩,
    .turn 0 fun _ => none, .turn 0 fun _ => none, .text ⟨1, none, "k"⟩, .turn 0 fun _ => none]

/-- Whether the states before and after the removal and the state after what happens since then
satisfy a condition. -/
def checkRemoval (since : List Happening) (p : Concurrent → Concurrent → Concurrent → Bool) :
    Bool :=
  (replay [] gameBegins ([], idle (Bot.start (.ofKnown [])))).any fun (_, x) =>
    (x.happen? [] (.remove "k")).any fun y => (replay [] since ([], y)).any fun (_, c) => p x y c

/-- A run that is checked by evaluation is a run with a removal in it. -/
theorem exists_of_checkRemoval (since : List Happening)
    (p : Concurrent → Concurrent → Concurrent → Bool) (h : checkRemoval since p = true) :
    ∃ before x y after c, Run [] (idle (Bot.start (.ofKnown []))) before x ∧
      x.happen? [] (.remove "k") = some y ∧ Run [] y after c ∧ p x y c = true := by
  obtain ⟨⟨before, x⟩, hx, h⟩ := (Option.any_eq_true _ _).mp h
  obtain ⟨y, hy, h⟩ := (Option.any_eq_true _ _).mp h
  obtain ⟨⟨after, c⟩, hc, h⟩ := (Option.any_eq_true _ _).mp h
  exact ⟨before, x, y, after, c, Run.replay .start hx, hy, Run.replay .start hc, h⟩

/-- The game ends, as nothing else is registered under its code. -/
theorem removed_game_ends_iff_other_code :
    ∃ before x y after c, Run [] (idle (Bot.start (.ofKnown []))) before x ∧
      x.happen? [] (.remove "k") = some y ∧ Run [] y after c ∧
      x.bot.sessions.get? 1 = some ⟨"k", "a"⟩ ∧ c.bot.catalogue.codes = ["q"] ∧
      c.bot.EndsGame [] ⟨1, none, "hello"⟩ := by
  obtain ⟨before, x, y, after, c, hx, hy, hc, hcheck⟩ := exists_of_checkRemoval
    [.register (some "q") "New" "" 7 ⟨"a", [], [⟨"a", []⟩]⟩]
    (fun x y c => decide (x.bot.sessions.get? 1 = some ⟨"k", "a"⟩ ∧
      c.bot.catalogue.codes = ["q"] ∧ "k" ∉ y.bot.catalogue.codes ∧ "k" ∉ c.bot.catalogue.codes ∧
      c.bot.sessions.get? 1 = some ⟨"k", "a"⟩ ∧ c.bot.route [] ⟨1, none, "hello"⟩ = .game))
    (by decide +kernel)
  obtain ⟨hbefore, hcodes, hfree, hfree', hs, hroute⟩ := of_decide_eq_true hcheck
  refine ⟨before, x, y, after, c, hx, hy, hc, hbefore, hcodes, ?_⟩
  rw [← Catalogue.get?_eq_none_iff] at hfree hfree'
  exact (removed_game_ends_iff hc hroute hs hfree).1.mpr hfree'

/-- The game goes on, although its riddle has been removed: the next text ends nothing. -/
theorem removed_game_goes_on_same_code :
    ∃ before x y after c, Run [] (idle (Bot.start (.ofKnown []))) before x ∧
      x.happen? [] (.remove "k") = some y ∧ Run [] y after c ∧
      x.bot.sessions.get? 1 = some ⟨"k", "a"⟩ ∧ c.bot.sessions.get? 1 = some ⟨"k", "a"⟩ ∧
      c.bot.route [] ⟨1, none, "hello"⟩ = .game ∧ ¬ c.bot.EndsGame [] ⟨1, none, "hello"⟩ := by
  obtain ⟨before, x, y, after, c, hx, hy, hc, hcheck⟩ := exists_of_checkRemoval
    [.register (some "k") "New" "" 7 ⟨"a", [], [⟨"a", []⟩]⟩]
    (fun x y c => decide (x.bot.sessions.get? 1 = some ⟨"k", "a"⟩ ∧
      c.bot.sessions.get? 1 = some ⟨"k", "a"⟩ ∧ c.bot.route [] ⟨1, none, "hello"⟩ = .game ∧
      "k" ∈ c.bot.catalogue.codes))
    (by decide +kernel)
  obtain ⟨hbefore, hs, hroute, hcode⟩ := of_decide_eq_true hcheck
  refine ⟨before, x, y, after, c, hx, hy, hc, hbefore, hs, hroute, ?_⟩
  obtain ⟨r, hr⟩ := Catalogue.mem_codes_iff.mp hcode
  exact (Bot.playsIn_of_get? hroute hs hr).not_endsGame hs

end Concurrent

end ChatRiddles
