import ChatRiddles.Proofs.Automaton
import ChatRiddles.Proofs.WrittenIntegers
import Mathlib.Data.List.DropRight
/-!
# Which created riddles can be played

A riddle that an administrator creates in a dialogue stands under the code that has been typed
there, or under one that is drawn. To play it, a user asks for a game and sends the code. Both sides
strip blanks, so the code that a dialogue keeps is what the catalogue is searched for when a player
sends it.

They differ in what they take for a command. A dialogue takes any text for a code that is no command
for administrators, and `/start` is none; but to a player's `/start` the bot answers with its
overview, and no game begins. So a riddle can be played if and only if its code is no command for
players. A code that is drawn consists of letters and digits, and never is one.

Main definitions: `Bot.CodesSendable` (the invariant of runs), `Concurrent.CreatedIn`. Main
statement: `Concurrent.created_playable_iff`.
-/

namespace ChatRiddles

/-! ## Codes that can be sent -/

namespace Text

/-- Dropping at the end brings nothing to the front that would be dropped there. -/
theorem dropWhile_dropWhileEnd {p : Char → Bool} {cs : List Char} (h : cs.dropWhile p = cs) :
    (dropWhileEnd p cs).dropWhile p = dropWhileEnd p cs := by
  have hbegins : dropWhileEnd p cs <+: cs := List.rdropWhile_prefix p cs
  cases hend : dropWhileEnd p cs with
  | nil => rfl
  | cons c rest =>
    rw [hend] at hbegins
    obtain ⟨more, rfl⟩ := hbegins
    -- the first character is the first of all, which has not been dropped
    have hc : ¬ p c = true := by
      intro hc
      rw [List.cons_append, List.dropWhile_cons_of_pos hc] at h
      have hle := List.length_dropWhile_le p (rest ++ more)
      rw [h, List.length_cons] at hle
      omega
    exact List.dropWhile_cons_of_neg hc

/-- Trimming twice trims no more than once. -/
theorem trimBy_trimBy (p : Char → Bool) (cs : List Char) :
    trimBy p (trimBy p cs) = trimBy p cs := by
  have hfront : (cs.dropWhile p).dropWhile p = cs.dropWhile p := List.dropWhile_idempotent p cs
  have hend : ∀ ds, dropWhileEnd p (dropWhileEnd p ds) = dropWhileEnd p ds :=
    List.rdropWhile_idempotent p
  unfold trimBy
  rw [dropWhile_dropWhileEnd hfront, hend]

end Text

/-- A code has no blanks at its ends any more. -/
theorem codeIn_codeIn (text : String) : codeIn (codeIn text) = codeIn text := by
  unfold codeIn Text.strip
  rw [String.toList_ofList, Text.trimBy_trimBy]

/-- A text of letters and digits alone, as they are drawn. -/
def Drawable (code : String) : Prop := ∀ c ∈ code.toList, c ∈ codeAlphabet.toList

/-- A code that is drawn is read back as itself. -/
theorem Drawable.codeIn_eq {code : String} (h : Drawable code) : codeIn code = code := by
  have hletters : codeAlphabet.toList.any Text.isBlank = false := by decide +kernel
  have hnoBlank : ∀ c ∈ code.toList, Text.isBlank c = false := fun c hc =>
    Bool.eq_false_iff.mpr (List.any_eq_false.mp hletters c (h c hc))
  have hstrip : Text.strip ([] ++ code.toList ++ []) = code.toList :=
    Text.trimBy_surrounded (fun _ hc => absurd hc List.not_mem_nil) hnoBlank
      fun _ hc => absurd hc List.not_mem_nil
  rw [List.nil_append, List.append_nil] at hstrip
  rw [codeIn, hstrip, String.ofList_toList]

theorem Drawable.not_command {code : String} (h : Drawable code) :
    PlayerCommand.ofText? code = none := by
  have hslash : '/' ∉ codeAlphabet.toList := by decide +kernel
  have hnone : Command.ofText? code = none := by
    unfold Command.ofText?
    cases hcode : code.toList with
    | nil => rfl
    | cons c rest =>
      unfold Command.ofChars?
      split
      next heq =>
        obtain rfl := (List.cons.inj heq).1
        exact absurd (h '/' (hcode ▸ List.mem_cons_self)) hslash
      next => rfl
  rw [PlayerCommand.ofText?, hnone, Option.bind_none]

namespace CodeSource

/-- Only letters and digits are drawn. -/
def IsRandom (s : CodeSource) : Prop :=
  (∀ code ∈ s.known, Drawable code) ∧ ∀ n, Drawable (s.further (.ofLength codeLength) n)

variable {s s' : CodeSource} {code : String}

/-- A random source draws such codes only. -/
theorem IsRandom.draw (h : s.IsRandom) : Drawable (s.draw (.ofLength codeLength)).1 := by
  show Drawable ((s.known[s.drawn]?).getD _)
  cases hknown : s.known[s.drawn]? with
  | none => exact h.2 _
  | some code => exact h.1 code (List.mem_of_getElem? hknown)

theorem IsRandom.drawWithin {taken : List String} {tries : Nat} (h : s.IsRandom)
    (hd : drawWithin taken tries s = some (code, s')) : Drawable code ∧ s'.IsRandom := by
  induction tries generalizing s with
  | zero => cases hd
  | succ tries ih =>
    have hrest : (s.draw (.ofLength codeLength)).2.IsRandom := h
    simp only [CodeSource.drawWithin] at hd
    split at hd
    · exact ih hrest hd
    · obtain ⟨rfl, rfl⟩ := Prod.mk.inj (Option.some.inj hd)
      exact ⟨h.draw, hrest⟩

theorem IsRandom.drawUntil (h : s.IsRandom) (taken : List String) :
    Drawable (s.drawUntil taken).1 ∧ (s.drawUntil taken).2.IsRandom :=
  h.drawWithin (Option.some_get _).symm

theorem isRandom_ofKnown_nil : IsRandom (.ofKnown []) := by
  refine ⟨fun _ h => absurd h List.not_mem_nil, fun n c hc => ?_⟩
  have hletter : c ∈ List.replicate n 'a' := by
    rwa [← @String.toList_ofList (List.replicate n 'a')]
  rw [List.eq_of_mem_replicate hletter]
  decide +kernel

end CodeSource

/-- The code of a riddle that is registered is the one that is given, or else it is drawn. -/
theorem Catalogue.code_of_register {c : Catalogue} {source : CodeSource} {code? : Option String}
    {d : Draft} {r : Registered} (h : c.register source code? d = .ok r) (hs : source.IsRandom) :
    (∀ code ∈ code?, r.riddle.code = code) ∧ (code? = none → Drawable r.riddle.code) ∧
      r.source.IsRandom := by
  unfold register at h
  split at h
  · split at h
    · obtain rfl := Except.ok.inj h
      exact ⟨fun _ hcode => Option.some.inj hcode,
        fun hnone => absurd hnone (Option.some_ne_none _), hs⟩
    · cases h
  · obtain rfl := Except.ok.inj h
    obtain ⟨hcode, hrest⟩ := hs.drawUntil c.codes
    exact ⟨fun code hnone => absurd hnone (Option.not_mem_none code), fun _ => hcode, hrest⟩

/-! ## Codes that dialogues keep -/

/-- The code that has been typed in a dialogue. -/
def Wizard.code? : Wizard → Option String
  | .name typed | .description typed _ | .document typed _ _ => typed
  | .code | .removal => none

namespace Bot

/-- The codes in dialogues have no blanks at their ends, and only letters and digits are drawn. -/
structure CodesSendable (b : Bot) : Prop where
  dialogues : ∀ chat w, b.wizards.get? chat = some w → ∀ code ∈ w.code?, codeIn code = code
  source : b.source.IsRandom

namespace CodesSendable

variable {b b' : Bot} {chat : Int}

/-- Whether codes can be sent is told by the state of administration. -/
theorem congr (h : b.CodesSendable) (hb : b'.SameAdminState b) : b'.CodesSendable where
  dialogues := by
    rw [hb.wizards]
    exact h.dialogues
  source := by
    rw [hb.registry.source]
    exact h.source

theorem ask (h : b.CodesSendable) (chat : Int) {w : Wizard}
    (hw : ∀ code ∈ w.code?, codeIn code = code) : (b.ask chat w).CodesSendable := by
  refine ⟨fun other w' hw' => ?_, h.source⟩
  have hset : (b.wizards.set chat w).get? other = some w' := hw'
  rw [ChatMap.get?_set] at hset
  split at hset
  · obtain rfl := Option.some.inj hset
    exact hw
  · exact h.dialogues other w' hset

theorem stopAsking (h : b.CodesSendable) (chat : Int) : (b.stopAsking chat).CodesSendable :=
  ⟨fun other w hw => h.dialogues other w (ChatMap.get?_of_clear hw), h.source⟩

/-- Registering a riddle leaves the dialogues alone, and its source draws codes that can be sent. -/
theorem withRegistered (h : b.CodesSendable) {code? : Option String} {d : Catalogue.Draft}
    {r : Catalogue.Registered} (hr : b.register code? d = .ok r) :
    (b.withRegistered r).CodesSendable :=
  ⟨h.dialogues, (Catalogue.code_of_register hr h.source).2.2⟩

end CodesSendable

end Bot

section Plans

variable {admins : Admins} {b : Bot} {m : Incoming} {p : Plan} {chat user : Int} {text : String}

/-- Commands of administrators keep all codes sendable. -/
theorem codesSendable_of_planAdminCommand (h : b.CodesSendable) (c : AdminCommand) :
    (planAdminCommand b chat c).bot.CodesSendable := by
  cases c with
  | help => exact h.stopAsking chat
  | listRiddles => exact h.stopAsking chat
  | newRiddle => exact h.ask chat nofun
  | removeRiddle => exact h.ask chat nofun

/-- A typed code is kept without blanks at its ends, and goes from step to step as it is. -/
theorem codesSendable_of_planAnswer {w : Wizard} (h : b.CodesSendable)
    (hw : ∀ code ∈ w.code?, codeIn code = code) (hp : planAnswer b chat user text w = .ok p) :
    p.bot.CodesSendable := by
  cases w with
  | code =>
    simp only [planAnswer] at hp
    split at hp
    · obtain rfl := Except.ok.inj hp
      exact h
    · obtain rfl := Except.ok.inj hp
      refine h.ask chat fun code hcode => ?_
      simp only [Wizard.code?, Option.mem_def] at hcode
      split at hcode
      · cases hcode
      · obtain rfl := Option.some.inj hcode
        exact codeIn_codeIn text
  | name code =>
    obtain rfl := Except.ok.inj hp
    exact h.ask chat hw
  | description code name =>
    obtain rfl := Except.ok.inj hp
    exact h.ask chat hw
  | document code name description =>
    rcases planDocument_cases hp with hbot | hbot | ⟨definition, r, -, hr, hbot⟩
    · rw [hbot]
      exact h
    · rw [hbot]
      exact h.stopAsking chat
    · rw [hbot]
      exact (h.stopAsking chat).withRegistered hr
  | removal =>
    rw [planAnswer_removal] at hp
    split at hp
    · obtain rfl := Except.ok.inj hp
      have hstop := h.stopAsking chat
      exact ⟨hstop.dialogues, hstop.source⟩
    · obtain rfl := Except.ok.inj hp
      exact h

/-- A riddle that is there after a document and has not been there before has been registered with
the definition that the document is read as. -/
theorem registered_of_planDocument {code? : Option String} {name description : String} {r : Riddle}
    (hp : planDocument b chat user code? name description text = .ok p)
    (hfree : b.catalogue.get? r.code = none) (hr : p.bot.catalogue.get? r.code = some r) :
    ∃ definition g, Definition.ofText text = .ok definition ∧
      b.register code? ⟨name, description, user, definition⟩ = .ok g ∧ g.riddle = r := by
  rcases planDocument_cases hp with hbot | hbot | ⟨definition, g, hread, hg, hbot⟩
  · rw [hbot, hfree] at hr
    cases hr
  · have hsame : p.bot.catalogue = b.catalogue := by
      rw [hbot]
      rfl
    rw [hsame, hfree] at hr
    cases hr
  · obtain ⟨hcode, hcatalogue, -⟩ := Catalogue.eq_append_of_register hg
    have hsame : p.bot.catalogue = b.catalogue.append g.riddle hcode := by
      rw [hbot, ← hcatalogue]
      rfl
    rw [hsame, Catalogue.get?_append] at hr
    split at hr
    · exact ⟨definition, g, hread, hg, Option.some.inj hr⟩
    · rw [hfree] at hr
      cases hr

theorem codesSendable_of_plan (h : b.CodesSendable) (hp : plan admins b m = .ok p) :
    p.bot.CodesSendable := by
  rw [plan_eq_route] at hp
  cases hr : b.route admins m with
  | adminCommand c =>
    rw [hr] at hp
    obtain rfl := Except.ok.inj hp
    exact codesSendable_of_planAdminCommand h c
  | answer user w =>
    rw [hr] at hp
    exact codesSendable_of_planAnswer h (h.dialogues m.chat w (wizard_of_route hr)) hp
  | playerCommand c =>
    rw [hr] at hp
    obtain rfl := Except.ok.inj hp
    exact h.congr (planPlayerCommand_sameAdminState c)
  | code =>
    rw [hr] at hp
    obtain rfl := Except.ok.inj hp
    exact h.congr planCode_sameAdminState
  | game =>
    rw [hr] at hp
    exact h.congr (planMove_sameAdminState hp)
  | unheeded =>
    rw [hr] at hp
    obtain rfl := Except.ok.inj hp
    exact h

end Plans

/-! ## Codes in runs -/

namespace Concurrent

variable {admins : Admins} {c c' : Concurrent} {past : List Concurrent}

/-- The codes that dialogues keep stay sendable in every step. -/
theorem AdminStep.codesSendable (h : AdminStep admins c c') (hc : c.bot.CodesSendable) :
    c'.bot.CodesSendable := by
  cases h with
  | same begun state => exact hc.congr state
  | begins t begun state =>
    refine Bot.CodesSendable.congr ?_ state
    cases hp : plan admins c.bot t.incoming with
    | error e => exact hc
    | ok p => exact codesSendable_of_plan hc hp
  | registers code? d document compiled r register begun bot =>
    rw [bot]
    exact hc.withRegistered register
  | removes code begun bot =>
    rw [bot]
    exact ⟨hc.dialogues, hc.source⟩

/-- At every point of every run, all codes can be sent. -/
theorem codesSendable_of_run {source : CodeSource} (hs : source.IsRandom)
    (h : Run admins (idle (Bot.start source)) past c) : c.bot.CodesSendable := by
  induction h with
  | start => exact ⟨fun chat w hw => (nomatch hw), hs⟩
  | next before what happens ih => exact (adminStep_of_happen happens).codesSendable ih

/-! ## Riddles created in dialogues -/

/-- In a step, a job begins with the document that completes a dialogue, and registers a riddle.
The code has been typed in the dialogue, or there is none and it is drawn. -/
def Creates (admins : Admins) (x y : Concurrent) (code? : Option String) (r : Riddle) : Prop :=
  ∃ t user name description, y.begun = x.begun ++ [t] ∧
    x.bot.route admins t.incoming = .answer user (.document code? name description) ∧
    x.bot.catalogue.get? r.code = none ∧ y.bot.catalogue.get? r.code = some r

/-- A riddle is created in a dialogue somewhere in a run. -/
def CreatedIn (admins : Admins) (states : List Concurrent) (code? : Option String) (r : Riddle) :
    Prop :=
  ∃ x y, [x, y] <:+: states ∧ Creates admins x y code? r

/-- The riddle is the one that the document of the dialogue has registered for the user who has
sent it. -/
theorem Creates.register {x y : Concurrent} {code? : Option String} {r : Riddle}
    (h : Creates admins x y code? r) (hstep : AdminStep admins x y) :
    ∃ text name description user definition g, user ∈ admins ∧
      Definition.ofText text = .ok definition ∧
      x.bot.register code? ⟨name, description, user, definition⟩ = .ok g ∧ g.riddle = r := by
  obtain ⟨t, user, name, description, hbegun, hroute, hfree, hr⟩ := h
  -- a job begins in the step, so the catalogue is what its text makes of it
  rw [(hstep.state_of_begun hbegun).registry.catalogue, plan_eq_route, hroute] at hr
  cases hp : TextRoute.plan x.bot t.incoming (.answer user (.document code? name description)) with
  | error e =>
    rw [hp, Bot.afterPlan, hfree] at hr
    cases hr
  | ok p =>
    rw [hp, Bot.afterPlan] at hr
    obtain ⟨definition, g, hread, hg, hriddle⟩ := registered_of_planDocument hp hfree hr
    have hadmin : user ∈ admins := admin_of_route hroute
    exact ⟨_, name, description, user, definition, g, hadmin, hread, hg, hriddle⟩

/-- The code under which a riddle is created can be sent, and a drawn one is no command. -/
theorem codeIn_of_createdIn {source : CodeSource} {code? : Option String} {r : Riddle}
    (hs : source.IsRandom) (h : Run admins (idle (Bot.start source)) past c)
    (hr : CreatedIn admins (past ++ [c]) code? r) :
    codeIn r.code = r.code ∧ (code? = none → Drawable r.code) := by
  obtain ⟨x, y, hxy, hcreates⟩ := hr
  obtain ⟨before, what, hrun, hhappens⟩ := h.step_of_infix hxy
  have hsendable : x.bot.CodesSendable := codesSendable_of_run hs hrun
  obtain ⟨_, _, _, _, _, g, -, -, hg, rfl⟩ := hcreates.register (adminStep_of_happen hhappens)
  obtain ⟨hgiven, hdrawn, -⟩ := Catalogue.code_of_register hg hsendable.source
  refine ⟨?_, hdrawn⟩
  cases code? with
  | none => exact (hdrawn rfl).codeIn_eq
  | some code =>
    -- the code stands in the dialogue that the document completes
    obtain ⟨t, user, name, description, -, hroute, -⟩ := hcreates
    rw [hgiven code rfl]
    exact hsendable.dialogues t.incoming.chat _ (wizard_of_route hroute) code rfl

end Concurrent

/-! ## Playing them -/

/-- Whoever sends a command instead of a code does not play. -/
theorem Bot.session_begun_of_command {admins : Admins} {b : Bot} {chat : Int} {user : Option Int}
    {code : String} {command : PlayerCommand} (huser : ∀ u ∈ user, u ∉ admins)
    (hcommand : PlayerCommand.ofText? code = some command) :
    (b.begun admins chat user code).sessions.get? chat = none := by
  have hparse : PlayerCommand.ofText? "/startriddle" = some .startRiddle := by decide +kernel
  have hasked : (b.handle admins .reliable ⟨chat, user, "/startriddle"⟩).bot =
      ((b.stopAwaiting chat).leave chat).await chat :=
    bot_handle_of_command huser hparse
  have hbegun : b.begun admins chat user code =
      (planPlayerCommand (((b.stopAwaiting chat).leave chat).await chat) chat command).bot := by
    show ((b.handle admins .reliable _).bot.handle admins .reliable _).bot = _
    rw [hasked, bot_handle_of_command huser hcommand]
  rw [hbegun, Option.eq_none_iff_forall_ne_some]
  intro s hs
  have hsession := session_of_planPlayerCommand hs
  simp [await, leave] at hsession

namespace Concurrent

variable {admins : Admins} {c : Concurrent} {past : List Concurrent}

/-- In every run, take a riddle that has been created in a dialogue and that is still registered. If
a user who is no administrator asks for a game and sends its code, then the chat plays the riddle
from its initial state and awaits no code any more, if and only if the code is no command for
players. A code that has been drawn is none. -/
theorem created_playable_iff {source : CodeSource} (hs : source.IsRandom)
    (h : Run admins (idle (Bot.start source)) past c) {code? : Option String} {r : Riddle}
    (hcreated : CreatedIn admins (past ++ [c]) code? r)
    (hr : c.bot.catalogue.get? r.code = some r) (chat : Int) {user : Option Int}
    (huser : ∀ u ∈ user, u ∉ admins) :
    let after := c.bot.begun admins chat user r.code
    ((after.sessions.get? chat = some ⟨r.code, r.definition.initialState⟩ ∧
        after.awaiting.get? chat = none) ↔ PlayerCommand.ofText? r.code = none) ∧
      (code? = none → PlayerCommand.ofText? r.code = none) := by
  intro after
  obtain ⟨hcode, hdrawn⟩ := codeIn_of_createdIn hs h hcreated
  refine ⟨⟨fun hplays => ?_, fun hcommand => ?_⟩, fun hnone => (hdrawn hnone).not_command⟩
  · rw [Option.eq_none_iff_forall_ne_some]
    intro command hcommand
    have hsession : after.sessions.get? chat = none :=
      Bot.session_begun_of_command huser hcommand
    rw [hsession] at hplays
    cases hplays.1
  · have hplays : after.Plays chat r r.definition.initialState :=
      Bot.plays_begun (List.mem_of_find?_eq_some hr) huser hcode hcommand
    exact ⟨hplays.session, hplays.awaiting⟩

/-! ## Two dialogues

In both, a riddle is created and a player sends its code. One code is `k`, the other is `/start`. -/

/-- The document of a riddle in one state. -/
def doorText : String :=
  "\x7b\"initial_state\":\"a\",\"accepting_states\":[]," ++
    "\"states\":[\x7b\"name\":\"a\",\"edges\":[]\x7d]\x7d"

/-- User 5 creates a riddle in chat 5, up to the turn that begins with the document. -/
def dialogue (code : String) : List Happening :=
  ["/newriddle", code, "Door", "Closed."].flatMap (fun text =>
    [.text ⟨5, some 5, text⟩, .turn 0 fun _ => none, .turn 0 fun _ => none]) ++
  [.text ⟨5, some 5, doorText⟩]

/-- Whether the turn that begins with the document creates a riddle under the code, and the state
after it satisfies a condition. -/
def checkDialogue (code : String) (p : Concurrent → Bool) : Bool :=
  (replay [5] (dialogue code) ([], idle (Bot.start (.ofKnown [])))).any fun (_, x) =>
    (x.happen? [5] (.turn 0 fun _ => none)).any fun y => p y &&
      decide (y.begun = x.begun ++ [⟨4, ⟨5, some 5, doorText⟩⟩] ∧
        x.bot.route [5] ⟨5, some 5, doorText⟩ =
          .answer 5 (.document (some code) "Door" "Closed.") ∧
        x.bot.catalogue.codes = [] ∧ y.bot.catalogue.codes = [code])

/-- A run that is checked by evaluation is a run. -/
theorem exists_of_checkDialogue {code : String} {p : Concurrent → Bool}
    (h : checkDialogue code p = true) :
    ∃ past c r, Run [5] (idle (Bot.start (.ofKnown []))) past c ∧
      CreatedIn [5] (past ++ [c]) (some code) r ∧ c.bot.catalogue.get? r.code = some r ∧
      r.code = code ∧ p c = true := by
  obtain ⟨⟨past, x⟩, hx, h⟩ := (Option.any_eq_true _ _).mp h
  obtain ⟨y, hy, h⟩ := (Option.any_eq_true _ _).mp h
  obtain ⟨hp, hcheck⟩ := Bool.and_eq_true_iff.mp h
  obtain ⟨hbegun, hroute, hfree, hcodes⟩ := of_decide_eq_true hcheck
  have hrun : Run [5] (idle (Bot.start (.ofKnown []))) past x := Run.replay .start hx
  obtain ⟨r, hr⟩ : ∃ r, y.bot.catalogue.get? code = some r := by
    rw [← Catalogue.mem_codes_iff, hcodes]
    exact List.mem_singleton_self code
  have hcode : r.code = code := by simpa using List.find?_some hr
  rw [← hcode] at hr hroute
  have hnone : x.bot.catalogue.get? r.code = none := by
    rw [Catalogue.get?_eq_none_iff, hfree]
    exact List.not_mem_nil
  have hinfix : [x, y] <:+: past ++ [x] ++ [y] := ⟨past, [], by simp⟩
  rw [← hcode]
  exact ⟨past ++ [x], y, r, hrun.next _ hy,
    ⟨x, y, hinfix, _, 5, "Door", "Closed.", hbegun, hroute, hnone, hr⟩, hr, rfl, hp⟩

/-- A riddle is created under the code `k`, and a player who sends it plays. -/
theorem created_playable_iff_typed :
    ∃ past c r, Run [5] (idle (Bot.start (.ofKnown []))) past c ∧
      CreatedIn [5] (past ++ [c]) (some "k") r ∧ c.bot.catalogue.get? r.code = some r ∧
      (∀ u ∈ some (3 : Int), u ∉ [(5 : Int)]) ∧ r.code = "k" ∧
      (c.bot.begun [5] 1 (some 3) "k").sessions.get? 1 =
        some ⟨"k", r.definition.initialState⟩ := by
  have hcheck : checkDialogue "k" (fun _ => true) = true := by decide +kernel
  obtain ⟨past, c, r, hrun, hcreated, hr, hcode, -⟩ := exists_of_checkDialogue hcheck
  have hrandom : CodeSource.IsRandom (.ofKnown []) := CodeSource.isRandom_ofKnown_nil
  have huser : ∀ u ∈ some (3 : Int), u ∉ [(5 : Int)] := by decide
  refine ⟨past, c, r, hrun, hcreated, hr, huser, hcode, ?_⟩
  have hcommand : PlayerCommand.ofText? r.code = none := by
    rw [hcode]
    decide +kernel
  have hplays := ((created_playable_iff hrandom hrun hcreated hr 1 huser).1.mpr hcommand).1
  rwa [hcode] at hplays

/-- A riddle is created under the code `/start`, and a player who sends it does not play. -/
theorem created_not_playable :
    ∃ past c r, Run [5] (idle (Bot.start (.ofKnown []))) past c ∧
      CreatedIn [5] (past ++ [c]) (some "/start") r ∧ c.bot.catalogue.get? r.code = some r ∧
      r.code = "/start" ∧ (c.bot.begun [5] 1 (some 3) "/start").sessions.get? 1 = none := by
  have hcheck : checkDialogue "/start" (fun c =>
      decide ((c.bot.begun [5] 1 (some 3) "/start").sessions.get? 1 = none)) = true := by
    decide +kernel
  obtain ⟨past, c, r, hrun, hcreated, hr, hcode, hp⟩ := exists_of_checkDialogue hcheck
  exact ⟨past, c, r, hrun, hcreated, hr, hcode, of_decide_eq_true hp⟩

end Concurrent

end ChatRiddles
