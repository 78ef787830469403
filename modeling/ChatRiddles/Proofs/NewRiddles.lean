import ChatRiddles.Proofs.Registrations
import Mathlib.Data.Nat.Find
/-!
# Riddles are registered as they have been told

An administrator who sends `/newriddle` to a chat opens a dialogue. From then on the texts that
administrators send to the chat tell a riddle: its code, its name, its description and its document.
Between two of them anything may happen that is no command for administrators in this chat: players
send texts, other chats are answered, riddles are registered and removed, deliveries fail, and the
next text may come from another administrator.

What the dialogue asks for is told here by the texts alone, without following it step by step: see
`Told.dialogue`. Texts are told with the bot that they have met, since a code is refused by what is
registered at that moment.

Main definitions: `Told.dialogue`, `Bot.Registers`, `Concurrent.toldIn`. Main statements:
`Told.dialogue_concat` (one more text), `Concurrent.answers_of_told?` (one step of a run) and
`Concurrent.registered_as_told`.
-/

namespace ChatRiddles

/-! ## A riddle is registered -/

/-- Without a code, a riddle is registered under the first code drawn that is free, and there is
one. -/
theorem Catalogue.exists_register_first_free (c : Catalogue) (source : CodeSource) (d : Draft) :
    ∃ n g, c.register source none d = .ok g ∧ (∀ i < n, source.upcoming i ∈ c.codes) ∧
      source.upcoming n ∉ c.codes ∧ g.riddle = d.withCode (source.upcoming n) ∧
      g.source = source.afterDraws (n + 1) := by
  obtain ⟨m, -, hfree⟩ := source.exists_upcoming_not_mem c.codes
  have hsome : ∃ n, source.upcoming n ∉ c.codes := ⟨m, hfree⟩
  have hbefore : ∀ i < Nat.find hsome, source.upcoming i ∈ c.codes := fun i hi =>
    not_not.mp (Nat.find_min hsome hi)
  have hdraws := CodeSource.drawUntil_of_upcoming hbefore (Nat.find_spec hsome)
  obtain ⟨g, hg, hriddle, hsource⟩ := exists_register_drawn hdraws d
  exact ⟨_, g, hg, hbefore, Nat.find_spec hsome, hriddle, hsource⟩


/-- What happens to the registry when a riddle is to be registered. -/
structure Bot.Registers (b b' : Bot) (code? : Option String) (d : Catalogue.Draft) : Prop where
  -- under a code that is free, it comes last
  free (code : String) (given : code? = some code) (free : code ∉ b.catalogue.codes) :
    b'.catalogue.riddles = b.catalogue.riddles ++ [d.withCode code] ∧ b'.source = b.source
  -- if the code is taken, nothing happens
  taken (code : String) (given : code? = some code) (taken : code ∈ b.catalogue.codes) :
    b'.SameRegistry b
  -- if there is no code, it comes last under the first code drawn that is free
  drawn (random : code? = none) :
    ∃ n, (∀ i < n, b.source.upcoming i ∈ b.catalogue.codes) ∧
      b.source.upcoming n ∉ b.catalogue.codes ∧
      b'.catalogue.riddles = b.catalogue.riddles ++ [d.withCode (b.source.upcoming n)] ∧
      b'.source = b.source.afterDraws (n + 1)

namespace Bot

variable {b b' : Bot} {code? : Option String} {d : Catalogue.Draft}

/-- Registering depends on the riddles and on the source of codes only. -/
theorem Registers.congr {b'' : Bot} (h : b.Registers b' code? d) (hb : b''.SameRegistry b') :
    b.Registers b'' code? d where
  free code given free := by
    rw [hb.catalogue, hb.source]
    exact h.free code given free
  taken code given taken := hb.trans (h.taken code given taken)
  drawn random := by
    rw [hb.catalogue, hb.source]
    exact h.drawn random

/-- A registered riddle comes after the others. -/
theorem riddles_of_register {g : Catalogue.Registered} (h : b.register code? d = .ok g) :
    g.catalogue.riddles = b.catalogue.riddles ++ [g.riddle] := by
  obtain ⟨hfree, hcatalogue, -⟩ := Catalogue.eq_append_of_register h
  rw [hcatalogue]
  rfl

/-- What a catalogue does when a riddle is to be registered happens to the registry of the bot. -/
theorem registers_of_register
    (hok : ∀ g, b.register code? d = .ok g → b'.catalogue = g.catalogue ∧ b'.source = g.source)
    (herror : ∀ e, b.register code? d = .error e → b'.SameRegistry b) :
    b.Registers b' code? d where
  free code given free := by
    subst given
    obtain ⟨g, hg, hriddle, hsource⟩ :=
      @Catalogue.exists_register_given b.catalogue b.source code free d
    obtain ⟨hcatalogue', hsource'⟩ := hok g hg
    rw [hcatalogue', riddles_of_register hg, hriddle]
    exact ⟨rfl, hsource'.trans hsource⟩
  taken code given taken := by
    subst given
    exact herror _ (@Store.register_taken ⟨b.catalogue, b.source⟩ code taken d)
  drawn random := by
    subst random
    obtain ⟨n, g, hg, hbefore, hfree, hriddle, hsource⟩ :=
      b.catalogue.exists_register_first_free b.source d
    obtain ⟨hcatalogue', hsource'⟩ := hok g hg
    refine ⟨n, hbefore, hfree, ?_, hsource'.trans hsource⟩
    rw [hcatalogue', riddles_of_register hg, hriddle]

end Bot

/-! ## What has been told -/

/-- A text that an administrator has sent to a chat, with the bot that it has met and the bot after
what it has changed at once. -/
structure Told where
  user : Int
  text : String
  before : Bot
  after : Bot

namespace Told

/-- Whether the text names a code that is taken when it comes. -/
def namesTaken (a : Told) : Bool := a.before.catalogue.contains (codeIn a.text)

/-- The code that the text names, or none if it asks for a random one. -/
def choice (a : Told) : Option String :=
  if codeIn a.text = randomCode then none else some (codeIn a.text)

/-- Whether the text is a document that compiles. -/
def compiles (a : Told) : Bool := (Definition.ofText a.text).isOk

/-- The dialogue about a new riddle after texts have been told. Texts that name a code that is taken
count for nothing. The next one names the code, the next one is the name as it stands, the next one
the description, and of the others the first that compiles ends the dialogue. -/
def dialogue (told : List Told) : Option Wizard :=
  match told.dropWhile namesTaken with
  | [] => some .code
  | [code] => some (.name code.choice)
  | [code, name] => some (.description code.choice name.text)
  | code :: name :: description :: documents =>
    if documents.any compiles then none
    else some (.document code.choice name.text description.text)

/-- The dialogue after one more text. -/
def next? (a : Told) : Wizard → Option Wizard
  | .code => some (if a.namesTaken then .code else .name a.choice)
  | .name code? => some (.description code? a.text)
  | .description code? name => some (.document code? name a.text)
  | .document code? name description =>
    if a.compiles then none else some (.document code? name description)
  | .removal => if a.namesTaken then none else some .removal

/-- One more text takes the dialogue one step further. -/
theorem dialogue_concat (told : List Told) (a : Told) :
    dialogue (told ++ [a]) = (dialogue told).bind a.next? := by
  unfold dialogue
  rw [List.dropWhile_append]
  cases told.dropWhile namesTaken with
  | nil =>
    rw [List.isEmpty_nil, if_pos rfl, List.dropWhile_cons]
    by_cases htaken : a.namesTaken = true
    · rw [if_pos htaken]
      simp only [List.dropWhile_nil, Option.bind_some, next?, htaken, if_true]
    · rw [if_neg htaken]
      simp only [Option.bind_some, next?, if_neg htaken]
  | cons code rest =>
    rw [List.isEmpty_cons, if_neg Bool.false_ne_true]
    match rest with
    | [] => rfl
    | [name] => rfl
    | name :: description :: documents =>
      simp only [List.cons_append, List.any_append, List.any_cons, List.any_nil, Bool.or_false]
      -- a document that compiles has ended the dialogue, or this one decides
      by_cases hbefore : documents.any compiles = true
      · simp only [hbefore, Bool.true_or, if_true, Option.bind_none]
      · rw [Bool.eq_false_iff.mpr hbefore, Bool.false_or, if_neg Bool.false_ne_true]
        rfl

end Told

/-! ## An answer -/

section Answers

variable {b : Bot} {chat user : Int} {text : String} {a : Told} {w : Wizard}

/-- A text that compiles is a document with a definition. -/
theorem Told.compiles_iff :
    a.compiles = true ↔ ∃ definition, Definition.ofText a.text = .ok definition := by
  unfold compiles
  cases Definition.ofText a.text with
  | error e => exact ⟨fun h => (nomatch h), fun ⟨_, h⟩ => (nomatch h)⟩
  | ok definition => exact ⟨fun _ => ⟨definition, rfl⟩, fun _ => rfl⟩

/-- A document that does not compile changes nothing. -/
theorem afterPlan_planDocument_of_error {e : Definition.Failure} {code? : Option String}
    {name description : String} (h : Definition.ofText text = .error e) :
    b.afterPlan (planDocument b chat user code? name description text) = b := by
  unfold planDocument
  rw [h]
  cases e with
  | brokenDown e => rfl
  | rejected r => rfl

/-- A document that compiles ends the dialogue, and its riddle is registered if the code is free. -/
theorem afterPlan_planDocument_of_ok {definition : Definition} {code? : Option String}
    {name description : String} (h : Definition.ofText text = .ok definition) :
    let after := b.afterPlan (planDocument b chat user code? name description text)
    after.wizards = b.wizards.clear chat ∧
      b.Registers after code? ⟨name, description, user, definition⟩ := by
  intro after
  cases hr : b.register code? ⟨name, description, user, definition⟩ with
  | error e =>
    have hafter : after = b.stopAsking chat := by
      have hstopped : (b.stopAsking chat).register code? ⟨name, description, user, definition⟩ =
          .error e := hr
      simp only [after, planDocument, h, hstopped]
      rfl
    rw [hafter]
    refine ⟨rfl, Bot.registers_of_register (fun g hg => ?_) fun _ _ => ⟨rfl, rfl⟩⟩
    rw [hr] at hg
    cases hg
  | ok g =>
    have hafter : after = (b.stopAsking chat).withRegistered g := by
      have hstopped : (b.stopAsking chat).register code? ⟨name, description, user, definition⟩ =
          .ok g := hr
      simp only [after, planDocument, h, hstopped]
      rfl
    rw [hafter]
    refine ⟨rfl, Bot.registers_of_register (fun g' hg => ?_) fun e he => ?_⟩
    · rw [hr] at hg
      obtain rfl := Except.ok.inj hg
      exact ⟨rfl, rfl⟩
    · rw [hr] at he
      cases he

/-- What a text does that answers a dialogue. -/
structure Told.Answers (a : Told) (chat : Int) (w : Wizard) : Prop where
  wizard : a.after.wizards.get? chat = a.next? w
  -- a document that compiles has its riddle registered
  registers (code? : Option String) (name description : String) (definition : Definition)
    (asked : w = .document code? name description)
    (compiles : Definition.ofText a.text = .ok definition) :
    a.before.Registers a.after code? ⟨name, description, a.user, definition⟩
  -- no other text about a new riddle changes the registry
  same (new : w ≠ .removal)
    (other : ∀ code? name description, w = .document code? name description → a.compiles = false) :
    a.after.SameRegistry a.before

/-- Only the riddles and the dialogues count. -/
theorem Told.Answers.of_sameAdminState {b' : Bot}
    (h : ({ a with after := b' } : Told).Answers chat w) (hafter : a.after.SameAdminState b') :
    a.Answers chat w where
  wizard := by
    rw [hafter.wizards]
    exact h.wizard
  registers code? name description definition asked compiles :=
    (h.registers code? name description definition asked compiles).congr hafter.registry
  same new other := hafter.registry.trans (h.same new other)

/-- A text that is no document leaves the registry as it is while a new riddle is told. -/
theorem Told.Answers.of_same (hwizard : a.after.wizards.get? chat = a.next? w)
    (hregistry : w ≠ .removal → a.after.SameRegistry a.before)
    (hw : ∀ code? name description, w ≠ .document code? name description) : a.Answers chat w where
  wizard := hwizard
  registers code? name description _ asked _ := absurd asked (hw code? name description)
  same new _ := hregistry new

/-- A text that is to be the document does what the dialogue asks for. -/
theorem answers_planDocument {code? : Option String} {name description : String}
    (hw : b.wizards.get? chat = some (.document code? name description)) :
    (⟨user, text, b, b.afterPlan (planDocument b chat user code? name description text)⟩ :
      Told).Answers chat (.document code? name description) := by
  cases h : Definition.ofText text with
  | error e =>
    have hcompiles : (Definition.ofText text).isOk = false := by rw [h]; rfl
    have hplan := @afterPlan_planDocument_of_error b chat user text e code? name description h
    rw [hplan]
    refine ⟨?_, fun _ _ _ _ _ compiles => ?_, fun _ _ => .rfl⟩
    · show b.wizards.get? chat = if (Definition.ofText text).isOk then none else _
      rw [hcompiles, hw]
      rfl
    · rw [h] at compiles
      cases compiles
  | ok definition =>
    have hcompiles : (Definition.ofText text).isOk = true := by rw [h]; rfl
    obtain ⟨hwizards, hregisters⟩ :=
      @afterPlan_planDocument_of_ok b chat user text definition code? name description h
    refine ⟨?_, fun _ _ _ _ asked compiles => ?_, fun _ other => ?_⟩
    · show (b.afterPlan _).wizards.get? chat = if (Definition.ofText text).isOk then none else _
      rw [hwizards, hcompiles, if_pos rfl, ChatMap.get?_clear, if_pos rfl]
    · cases asked
      rw [h] at compiles
      obtain rfl := Except.ok.inj compiles
      exact hregisters
    · have hnot : (Definition.ofText text).isOk = false := other code? name description rfl
      rw [hcompiles] at hnot
      cases hnot

/-- A code that is free is taken down, and the name is asked for; one that is taken is asked for
again. -/
theorem afterPlan_planAnswer_code :
    b.afterPlan (planAnswer b chat user text .code) =
      if b.catalogue.contains (codeIn text) then b
      else b.ask chat (.name (if codeIn text = randomCode then none else some (codeIn text))) := by
  unfold codeIn
  simp only [planAnswer]
  split
  · rfl
  · rfl

/-- An answer does what the dialogue asks for. -/
theorem answers_planAnswer (hw : b.wizards.get? chat = some w) :
    (⟨user, text, b, b.afterPlan (planAnswer b chat user text w)⟩ : Told).Answers chat w := by
  cases w with
  | code =>
    rw [afterPlan_planAnswer_code]
    by_cases htaken : b.catalogue.contains (codeIn text) = true
    · rw [if_pos htaken]
      refine .of_same ?_ (fun _ => .rfl) (by simp)
      show b.wizards.get? chat = some (if b.catalogue.contains (codeIn text) then _ else _)
      rw [if_pos htaken]
      exact hw
    · rw [if_neg htaken]
      refine .of_same ?_ (fun _ => ⟨rfl, rfl⟩) (by simp)
      show (b.ask chat _).wizards.get? chat =
        some (if b.catalogue.contains (codeIn text) then _ else _)
      rw [if_neg htaken]
      simp [Bot.ask, Told.choice]
  | name code? =>
    refine .of_same ?_ (fun _ => ⟨rfl, rfl⟩) (by simp)
    simp [planAnswer, Bot.afterPlan, Bot.ask, Told.next?]
  | description code? name =>
    refine .of_same ?_ (fun _ => ⟨rfl, rfl⟩) (by simp)
    simp [planAnswer, Bot.afterPlan, Bot.ask, Told.next?]
  | document code? name description => exact answers_planDocument hw
  | removal =>
    refine .of_same ?_ (fun new => absurd rfl new) (by simp)
    show (b.afterPlan _).wizards.get? chat =
      if b.catalogue.contains (codeIn text) then none else some .removal
    rw [planAnswer_removal]
    split
    · simp [Bot.afterPlan, Bot.stopAsking]
    · exact hw

end Answers

/-! ## Runs -/

namespace Concurrent

variable {admins : Admins} {chat : Int} {c x y : Concurrent} {past : List Concurrent} {a : Told}

/-- The text that an administrator has sent to a chat and with which a job begins in a step. -/
def told? (admins : Admins) (chat : Int) (x y : Concurrent) : Option Told :=
  match y.begun.drop x.begun.length with
  | [t] =>
    if t.incoming.chat = chat then
      (t.incoming.admin? admins).map fun user => ⟨user, t.incoming.text, x.bot, y.bot⟩
    else none
  | _ => none

/-- The texts that administrators have sent to a chat, in the order in which their jobs begin. -/
def toldIn (admins : Admins) (chat : Int) : List Concurrent → List Told
  | x :: y :: rest => (told? admins chat x y).toList ++ toldIn admins chat (y :: rest)
  | _ => []

/-- The texts that have been told so far are followed by that of the last step. -/
theorem toldIn_concat (past : List Concurrent) :
    toldIn admins chat (past ++ [x] ++ [y]) =
      toldIn admins chat (past ++ [x]) ++ (told? admins chat x y).toList := by
  induction past with
  | nil => simp [toldIn]
  | cons first rest ih =>
    cases rest with
    | nil => simp [toldIn]
    | cons second rest =>
      simp only [List.cons_append, toldIn, List.append_assoc] at ih ⊢
      rw [ih]

/-- Nothing is told in a step in which no job begins. -/
theorem told?_of_same (h : y.begun = x.begun) : told? admins chat x y = none := by
  unfold told?
  rw [h, List.drop_length]

/-- In a step in which a job begins, its text is told if it is for the chat and by an administrator.
-/
theorem told?_of_begun {t : Job} (h : y.begun = x.begun ++ [t]) :
    told? admins chat x y =
      if t.incoming.chat = chat then
        (t.incoming.admin? admins).map fun user => ⟨user, t.incoming.text, x.bot, y.bot⟩
      else none := by
  unfold told?
  rw [h, List.drop_left]

/-- Where no administrator has sent a text to the chat, its dialogue stays as it is. -/
theorem wizard_of_told?_eq_none (h : AdminStep admins x y) (ht : told? admins chat x y = none) :
    y.bot.wizards.get? chat = x.bot.wizards.get? chat := by
  cases h with
  | same begun state => rw [state.wizards]
  | begins t begun state =>
    rw [state.wizards]
    rw [told?_of_begun begun] at ht
    by_cases hchat : t.incoming.chat = chat
    · -- no administrator has sent the text
      rw [if_pos hchat, Option.map_eq_none_iff] at ht
      have hplan : plan admins x.bot t.incoming =
          planPlayer x.bot t.incoming.chat t.incoming.text := by
        rw [plan, ht]
      rw [hplan, planPlayer_sameAdminState.wizards]
    · cases hp : plan admins x.bot t.incoming with
      | error e => rfl
      | ok p => exact (plan_agreeAt_of_ne hp (Ne.symm hchat)).wizard
  | registers code? d document compiled r register begun bot =>
    rw [bot]
    rfl
  | removes code begun bot => rw [bot]

/-- A text that has been told is planned in the bot that it has met. -/
theorem planned_of_told? (h : AdminStep admins x y) (ht : told? admins chat x y = some a) :
    a.before = x.bot ∧ a.after = y.bot ∧
      ∃ m : Incoming, m.chat = chat ∧ m.text = a.text ∧ m.admin? admins = some a.user ∧
        a.after.SameAdminState (a.before.afterPlan (plan admins a.before m)) := by
  cases h with
  | same begun state =>
    rw [told?_of_same begun] at ht
    cases ht
  | registers code? d document compiled r register begun bot =>
    rw [told?_of_same begun] at ht
    cases ht
  | removes code begun bot =>
    rw [told?_of_same begun] at ht
    cases ht
  | begins t begun state =>
    rw [told?_of_begun begun] at ht
    split at ht
    · rename_i hchat
      obtain ⟨user, huser, rfl⟩ := Option.map_eq_some_iff.mp ht
      exact ⟨rfl, rfl, t.incoming, hchat, rfl, huser, state⟩
    · cases ht

/-- The command for a new riddle opens a dialogue, which asks for the code. -/
theorem wizard_of_newRiddle (h : AdminStep admins x y) (ht : told? admins chat x y = some a)
    (hnew : AdminCommand.ofText? a.text = some .newRiddle) :
    y.bot.wizards.get? chat = some .code := by
  obtain ⟨-, hafter, m, rfl, htext, huser, hstate⟩ := planned_of_told? h ht
  have hplan : plan admins a.before m = .ok (planAdminCommand a.before m.chat .newRiddle) := by
    simp only [plan, huser, planAdmin?, htext, hnew, Option.getD_some]
  rw [← hafter, hstate.wizards, hplan]
  simp [Bot.afterPlan, planAdminCommand, Bot.ask]

/-- A text of an administrator that is no command answers the dialogue of the chat. Where there is
none, it changes neither the registry nor the dialogue. -/
theorem answers_of_told? (h : AdminStep admins x y) (ht : told? admins chat x y = some a)
    (hcommand : AdminCommand.ofText? a.text = none) :
    (∀ w, a.before.wizards.get? chat = some w → a.Answers chat w) ∧
      (a.before.wizards.get? chat = none → a.after.SameAdminState a.before) := by
  obtain ⟨-, -, m, rfl, htext, huser, hstate⟩ := planned_of_told? h ht
  have hplan : plan admins a.before m =
      ((a.before.wizards.get? m.chat).map (planAnswer a.before m.chat a.user a.text)).getD
        (planPlayer a.before m.chat a.text) := by
    simp only [plan, huser, planAdmin?, htext, hcommand]
  rw [hplan] at hstate
  constructor
  · intro w hw
    rw [hw] at hstate
    exact .of_sameAdminState (answers_planAnswer hw) hstate
  · intro hw
    rw [hw] at hstate
    exact hstate.trans planPlayer_sameAdminState

end Concurrent

/-! ## A riddle is told -/

/-- A text that follows others does what the dialogue about a new riddle asks for after them. -/
structure Told.Follows (a : Told) (chat : Int) (earlier : List Told) : Prop where
  meets : a.before.wizards.get? chat = Told.dialogue earlier
  leaves : a.after.wizards.get? chat = Told.dialogue (earlier ++ [a])
  -- the document that compiles has the riddle registered as it has been told
  registers (code? : Option String) (name description : String) (definition : Definition)
    (asked : Told.dialogue earlier = some (.document code? name description))
    (compiles : Definition.ofText a.text = .ok definition) :
    a.before.Registers a.after code? ⟨name, description, a.user, definition⟩
  -- every other text leaves the registry as it is
  same (other : ∀ code? name description,
      Told.dialogue earlier = some (.document code? name description) → a.compiles = false) :
    a.after.SameRegistry a.before

/-- No dialogue about a new riddle asks for the code of one to be removed. -/
theorem Told.dialogue_ne_removal (told : List Told) : Told.dialogue told ≠ some .removal := by
  unfold dialogue
  split
  · exact nofun
  · exact nofun
  · exact nofun
  · split
    · exact nofun
    · exact nofun

namespace Concurrent

variable {admins : Admins} {chat : Int} {c x y : Concurrent} {past : List Concurrent} {a : Told}

/-- If the dialogue of the chat is the one after some texts, then the next text follows them. -/
theorem follows_of_told? {earlier : List Told} (h : AdminStep admins x y)
    (ht : told? admins chat x y = some a) (hcommand : AdminCommand.ofText? a.text = none)
    (hw : x.bot.wizards.get? chat = Told.dialogue earlier) :
    a.Follows chat earlier ∧ y.bot.wizards.get? chat = Told.dialogue (earlier ++ [a]) := by
  obtain ⟨hbefore, hafter, -⟩ := planned_of_told? h ht
  obtain ⟨hanswers, hnone⟩ := answers_of_told? h ht hcommand
  rw [← hbefore] at hw
  rw [← hafter]
  suffices hfollows : a.Follows chat earlier from ⟨hfollows, hfollows.leaves⟩
  cases hd : Told.dialogue earlier with
  | none =>
    -- the dialogue has ended
    rw [hd] at hw
    have hsame := hnone hw
    refine ⟨hw.trans hd.symm, ?_, fun _ _ _ _ asked => ?_, fun _ => hsame.registry⟩
    · rw [Told.dialogue_concat, hd, hsame.wizards, hw]
      rfl
    · rw [hd] at asked
      cases asked
  | some w =>
    rw [hd] at hw
    have hanswer := hanswers w hw
    have hnew : w ≠ .removal := fun hremoval =>
      Told.dialogue_ne_removal earlier (hd.trans (congrArg some hremoval))
    refine ⟨hw.trans hd.symm, ?_, fun code? name description definition asked compiles => ?_,
      fun other => hanswer.same hnew fun code? name description hdocument => ?_⟩
    · rw [Told.dialogue_concat, hd, hanswer.wizard]
      rfl
    · rw [hd] at asked
      exact hanswer.registers code? name description definition (Option.some.inj asked) compiles
    · exact other code? name description (hd.trans (congrArg some hdocument))

/-- In every run, let an administrator send `/newriddle` to a chat, and let administrators send it
texts of which none is a command for administrators. Whatever else happens, what the dialogue of the
chat asks for is told by these texts, and each does what is asked for. Texts that name a code that
is taken at that moment leave the dialogue at the code. The next one names the code, or asks for a
random one, the next is the name as it stands and the next the description. A text that does not
compile changes nothing. The first that compiles ends the dialogue, and one riddle is added to the
registry: with that code, that name and description, that definition, and whoever has sent the text
as its creator; a random code is the first one drawn that is free. If the code has been taken in the
meantime, the registry stays as it is. -/
theorem registered_as_told {what : Happening} {first : Told}
    (hfirst : x.happen? admins what = some y) (hasks : told? admins chat x y = some first)
    (hnew : AdminCommand.ofText? first.text = some .newRiddle) (h : Run admins y past c)
    (htexts : ∀ a ∈ toldIn admins chat (past ++ [c]), AdminCommand.ofText? a.text = none) :
    c.bot.wizards.get? chat = Told.dialogue (toldIn admins chat (past ++ [c])) ∧
      ∀ earlier a later, toldIn admins chat (past ++ [c]) = earlier ++ a :: later →
        a.Follows chat earlier := by
  induction h with
  | start =>
    refine ⟨wizard_of_newRiddle (adminStep_of_happen hfirst) hasks hnew, ?_⟩
    intro earlier a later hsplit
    have hnone : [] = earlier ++ a :: later := hsplit
    simp at hnone
  | @next past c c' before what happens ih =>
    have hstep := adminStep_of_happen happens
    rw [toldIn_concat] at htexts ⊢
    obtain ⟨hwizard, hfollows⟩ := ih fun a ha => htexts a (List.mem_append_left _ ha)
    cases ht : told? admins chat c c' with
    | none =>
      rw [Option.toList_none, List.append_nil, wizard_of_told?_eq_none hstep ht]
      exact ⟨hwizard, hfollows⟩
    | some a =>
      rw [ht, Option.toList_some] at htexts
      have hcommand := htexts a (List.mem_append_right _ List.mem_cons_self)
      obtain ⟨hfollow, hleaves⟩ := follows_of_told? hstep ht hcommand hwizard
      rw [Option.toList_some]
      refine ⟨hleaves, fun earlier a' later hsplit => ?_⟩
      -- the text is the last one, or one of those before
      rcases List.eq_nil_or_concat later with rfl | ⟨later, last, rfl⟩
      · obtain ⟨rfl, hlast⟩ := List.append_inj' hsplit rfl
        obtain rfl := (List.cons.inj hlast).1
        exact hfollow
      · rw [List.concat_eq_append, ← List.cons_append, ← List.append_assoc] at hsplit
        obtain ⟨hinit, -⟩ := List.append_inj' hsplit rfl
        exact hfollows earlier a' later hinit

/-! ## Two administrators tell a riddle

In between, a delivery fails, a player sends a text and the code that comes first is registered. -/

/-- The document of a riddle in one state. -/
def roomDocument : Document := ⟨"a", [], [⟨"a", []⟩]⟩

/-- The same as a text. -/
def roomText : String :=
  "\x7b\"initial_state\":\"a\",\"accepting_states\":[]," ++
    "\"states\":[\x7b\"name\":\"a\",\"edges\":[]\x7d]\x7d"

/-- What happens after `/newriddle`. -/
def telling : List Happening :=
  [.turn 0 fun _ => some (.failed ⟨"timeout"⟩), .register (some "a") "First" "" 0 roomDocument,
    .text ⟨5, some 3, "hello"⟩, .turn 0 fun _ => none] ++
  [(5, "a"), (6, " k "), (5, " Door"), (6, "Closed."), (5, "oops"), (6, roomText)].flatMap
    fun (user, text) =>
      [.text ⟨5, some user, text⟩, .turn 0 fun _ => none, .turn 0 fun _ => none]

/-- Whether the texts that have been told make a riddle with the last one, sent by user 6. -/
def checkTold (told : List Told) : Bool :=
  told.all (fun a => AdminCommand.ofText? a.text == none) &&
    told.getLast?.any fun a => decide (
      Told.dialogue told.dropLast = some (.document (some "k") " Door" "Closed.") ∧
      Told.dialogue told = none ∧ a.user = 6 ∧ a.compiles = true ∧
      "k" ∉ a.before.catalogue.codes)

/-- User 6 completes a riddle that user 5 has asked for. -/
theorem registered_as_told_door :
    let start := (idle (Bot.start (.ofKnown []))).arrive ⟨5, some 5, "/newriddle"⟩
    ∃ y first past c earlier a definition,
      start.happen? [5, 6] (.turn 0 fun _ => none) = some y ∧
      told? [5, 6] 5 start y = some first ∧
      AdminCommand.ofText? first.text = some .newRiddle ∧ Run [5, 6] y past c ∧
      toldIn [5, 6] 5 (past ++ [c]) = earlier ++ [a] ∧
      (∀ b ∈ toldIn [5, 6] 5 (past ++ [c]), AdminCommand.ofText? b.text = none) ∧
      Definition.ofText a.text = .ok definition ∧
      a.after.catalogue.riddles =
        a.before.catalogue.riddles ++ [⟨"k", " Door", "Closed.", 6, definition⟩] ∧
      c.bot.wizards.get? 5 = none := by
  intro start
  have hcheck : ((start.happen? [5, 6] (.turn 0 fun _ => none)).any fun y =>
      (told? [5, 6] 5 start y).any (fun first =>
        AdminCommand.ofText? first.text == some .newRiddle) &&
      (replay [5, 6] telling ([], y)).any fun (past, c) =>
        checkTold (toldIn [5, 6] 5 (past ++ [c]))) = true := by
    decide +kernel
  obtain ⟨y, hy, h⟩ := (Option.any_eq_true _ _).mp hcheck
  obtain ⟨hfirst, h⟩ := Bool.and_eq_true_iff.mp h
  obtain ⟨first, hasks, hnew⟩ := (Option.any_eq_true _ _).mp hfirst
  obtain ⟨⟨past, c⟩, hreplay, h⟩ := (Option.any_eq_true _ _).mp h
  obtain ⟨hall, hlast⟩ := Bool.and_eq_true_iff.mp h
  obtain ⟨a, ha, hlast⟩ := (Option.any_eq_true _ _).mp hlast
  obtain ⟨hdialogue, hended, huser, hcompiles, hfree⟩ := of_decide_eq_true hlast
  have hrun : Run [5, 6] y past c := Run.replay .start hreplay
  have hnew' : AdminCommand.ofText? first.text = some .newRiddle := by simpa using hnew
  have htexts : ∀ b ∈ toldIn [5, 6] 5 (past ++ [c]), AdminCommand.ofText? b.text = none := by
    intro b hb
    simpa using List.all_eq_true.mp hall b hb
  have hsplit : toldIn [5, 6] 5 (past ++ [c]) = (toldIn [5, 6] 5 (past ++ [c])).dropLast ++ [a] :=
    (List.dropLast_append_getLast? a ha).symm
  obtain ⟨definition, hdefinition⟩ := Told.compiles_iff.mp hcompiles
  obtain ⟨hwizard, hfollows⟩ := registered_as_told hy hasks hnew' hrun htexts
  have hregisters := (hfollows _ a [] hsplit).registers (some "k") " Door" "Closed." definition
    hdialogue hdefinition
  refine ⟨y, first, past, c, _, a, definition, hy, hasks, hnew', hrun, hsplit, htexts, hdefinition,
    ?_, hwizard.trans hended⟩
  rw [← huser]
  exact (hregisters.free "k" rfl hfree).1

end Concurrent

end ChatRiddles
