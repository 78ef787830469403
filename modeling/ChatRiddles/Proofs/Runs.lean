import ChatRiddles.Proofs.AdminState
import ChatRiddles.Proofs.Locks
import Mathlib.Data.List.Nodup
import Mathlib.Data.List.Triplewise
/-!
# Runs of the bot

In a run, texts come and jobs take their turns in any order, deliveries fail in any way, and riddles
are registered and removed at any time. A run is told by the states that it has gone through.

What happens to riddles and dialogues happens when a job begins, or when a riddle is registered or
removed. So whatever happens, the catalogue changes in one of two ways: a riddle is removed, or one
with a compiled definition is registered under a code that is not taken.

Main definitions: `Concurrent.happen?`, `Concurrent.Run`, `Concurrent.NeverAgain`,
`Concurrent.AdminStep`. Main statements: `adminStep_of_happen` (what happens to riddles and
dialogues), `change_of_happen` (what happens to the catalogue), `locked_of_run` (locks exclude each
other), `registered_of_run` (a code that has become free and is taken later has been registered in
between).
-/

namespace ChatRiddles

/-! ## Changes of a catalogue -/

namespace Catalogue

variable {c c' : Catalogue} {code other : String} {r : Riddle}

/-- The codes are those under which riddles are found. -/
theorem mem_codes_iff : code ∈ c.codes ↔ ∃ r, c.get? code = some r := by
  rw [codes, List.mem_map, get?, ← Option.isSome_iff_exists, List.find?_isSome]
  simp

theorem contains_iff : c.contains code = true ↔ ∃ r, c.get? code = some r := by
  rw [contains, List.contains_iff_mem, mem_codes_iff]

/-- Nothing is found under any other code. -/
theorem get?_eq_none_iff : c.get? code = none ↔ code ∉ c.codes := by
  rw [mem_codes_iff, not_exists, Option.eq_none_iff_forall_ne_some]

/-- A registered riddle is found under its code. -/
theorem get?_of_mem (h : r ∈ c.riddles) : c.get? r.code = some r := by
  cases hget : c.get? r.code with
  | none => exact absurd (List.mem_map_of_mem h) (get?_eq_none_iff.mp hget)
  | some r' =>
    have hmem : r' ∈ c.riddles := List.mem_of_find?_eq_some hget
    have hcode : r'.code = r.code := by simpa using List.find?_some hget
    rw [List.inj_on_of_nodup_map c.distinct hmem h hcode]

/-- A riddle is found under its own code, and under no other. -/
theorem get?_eq_some_iff : c.get? code = some r ↔ r ∈ c.riddles ∧ r.code = code := by
  constructor
  · intro h
    have hcode : r.code = code := by simpa using List.find?_some h
    exact ⟨List.mem_of_find?_eq_some h, hcode⟩
  · rintro ⟨hmem, rfl⟩
    exact get?_of_mem hmem

/-- Removing a riddle changes nothing under other codes. -/
theorem get?_erase : (c.erase code).get? other = if other = code then none else c.get? other := by
  unfold get? erase
  rw [List.find?_filter]
  by_cases h : other = code
  · rw [if_pos h, List.find?_eq_none]
    intro r _
    simp [h]
  · rw [if_neg h]
    congr 1
    funext r
    by_cases hr : r.code = other
    · simp [hr, h]
    · simp [hr]

theorem get?_append (h : c.contains r.code = false) :
    (c.append r h).get? code = if code = r.code then some r else c.get? code := by
  have hfree : c.get? r.code = none := by
    rw [Option.eq_none_iff_forall_ne_some]
    intro r' hr'
    have hc := contains_iff.mpr ⟨r', hr'⟩
    rw [h] at hc
    exact absurd hc (by decide)
  unfold get? append at *
  rw [List.find?_append]
  by_cases hc : code = r.code
  · subst hc
    rw [if_pos rfl, hfree]
    simp
  · have hc' : (r.code == code) = false := by simpa using fun h => hc h.symm
    rw [if_neg hc]
    simp [hc']

/-- A riddle that is registered is added to the catalogue. -/
theorem eq_append_of_register {source : CodeSource} {code : Option String} {d : Draft}
    {r : Registered} (h : c.register source code d = .ok r) :
    ∃ hc, r.catalogue = c.append r.riddle hc ∧ r.riddle = d.withCode r.riddle.code := by
  unfold register at h
  split at h
  · split at h
    · rename_i hc
      obtain rfl := Except.ok.inj h
      exact ⟨hc, rfl, rfl⟩
    · cases h
  · obtain rfl := Except.ok.inj h
    exact ⟨CodeSource.not_taken_drawUntil _ _, rfl, rfl⟩

/-- How a catalogue may change at once. -/
inductive Change (c : Catalogue) : Catalogue → Prop
  | same : Change c c
  | erased (code : String) : Change c (c.erase code)
  -- a riddle is registered, and its definition has been compiled
  | registered (r : Riddle) (free : c.contains r.code = false) (document : Document)
    (compiled : Definition.ofDocument document = .ok r.definition) : Change c (c.append r free)

/-- Registering a compiled definition is one change. -/
theorem change_of_register {source : CodeSource} {code : Option String} {d : Draft}
    {r : Registered} {document : Document}
    (compiled : Definition.ofDocument document = .ok d.definition)
    (h : c.register source code d = .ok r) : c.Change r.catalogue := by
  obtain ⟨free, hcatalogue, hriddle⟩ := eq_append_of_register h
  rw [hcatalogue]
  refine .registered r.riddle free document ?_
  rw [hriddle]
  exact compiled

/-- A riddle that is found after a change has been there before, under its code, or has just been
registered under a code that was free. -/
theorem Change.get?_eq_some (h : Change c c') (hr : c'.get? code = some r) :
    c.get? code = some r ∨
      c.get? code = none ∧ ∃ document, Definition.ofDocument document = .ok r.definition := by
  cases h with
  | same => exact .inl hr
  | erased other =>
    rw [get?_erase] at hr
    split at hr
    · cases hr
    · exact .inl hr
  | registered r' free document compiled =>
    rw [get?_append] at hr
    split at hr
    · rename_i hc
      obtain rfl := Option.some.inj hr
      refine .inr ⟨?_, document, compiled⟩
      rw [get?_eq_none_iff, hc]
      simpa [contains] using free
    · exact .inl hr

end Catalogue

/-! ## What a text does to the catalogue -/

section Plans

variable {b : Bot} {p : Plan} {chat : Int} {text : String}

theorem Answered.change {b' : Bot} (h : Answered b chat b') :
    b.catalogue.Change b'.catalogue := by
  cases h with
  | same => exact .same
  | asked w => exact .same
  | stopped => exact .same
  | registered code draft document compiled register =>
    exact Catalogue.change_of_register compiled register
  | removed code => exact .erased code

/-- What a text does to the catalogue. -/
theorem plan_change {admins : Admins} {m : Incoming} (h : plan admins b m = .ok p) :
    b.catalogue.Change p.bot.catalogue := by
  rcases plan_cases h with ⟨c, rfl⟩ | ha | ⟨c, rfl⟩ | rfl | hm
  · cases c <;> exact .same
  · exact ha.change
  · rw [(planPlayerCommand_sameAdminState c).registry.catalogue]
    exact .same
  · rw [planCode_sameAdminState.registry.catalogue]
    exact .same
  · rw [(planMove_sameAdminState hm).registry.catalogue]
    exact .same

end Plans

/-! ## Turns -/

namespace Concurrent

variable {admins : Admins} {messenger : Messenger} {c c' start : Concurrent} {t : Job}

@[simp] theorem bot_finish (o : Outcome) : (c.finish t o).bot = c.bot := by
  unfold finish
  simp only
  split
  · rfl
  · rfl

theorem begun_finish (o : Outcome) : (c.finish t o).begun = c.begun := by
  unfold finish
  simp only
  split
  · rfl
  · rfl

/-- What follows a plan leaves the riddles and the dialogues as they are. -/
theorem sameAdminState_proceed (acts : List Act) :
    (c.proceed t acts).begun = c.begun ∧ (c.proceed t acts).bot.SameAdminState c.bot := by
  induction acts generalizing c with
  | nil =>
    show (c.finish t .handled).begun = _ ∧ (c.finish t .handled).bot.SameAdminState _
    rw [begun_finish, bot_finish]
    exact ⟨rfl, .rfl⟩
  | cons a rest ih =>
    have hsettle := Bot.settle_sameAdminState t.incoming.chat c.bot a
    cases a with
    | deliver d => exact ⟨rfl, .rfl⟩
    | enter s =>
      obtain ⟨hbegun, hstate⟩ := @ih { c with
        bot := c.bot.settle t.incoming.chat (.enter s), notices := c.notices ++ [] }
      exact ⟨hbegun, hstate.trans hsettle⟩
    | leave =>
      obtain ⟨hbegun, hstate⟩ := @ih { c with
        bot := c.bot.settle t.incoming.chat .leave, notices := c.notices ++ [] }
      exact ⟨hbegun, hstate.trans hsettle⟩
    | note n =>
      obtain ⟨hbegun, hstate⟩ := @ih { c with
        bot := c.bot.settle t.incoming.chat (.note n), notices := c.notices ++ [n] }
      exact ⟨hbegun, hstate.trans hsettle⟩

/-- Going on with a job changes no riddle. -/
theorem catalogue_proceed (acts : List Act) :
    (c.proceed t acts).bot.catalogue = c.bot.catalogue :=
  (sameAdminState_proceed acts).2.registry.catalogue

/-! ## Runs -/

/-- What may happen. -/
inductive Happening where
  | text (m : Incoming)
  -- the turn at a place of the line is taken, and deliveries end as a messenger has it
  | turn (index : Nat) (messenger : Messenger)
  -- a riddle is registered, under a code or under one that is drawn
  | register (code : Option String) (name description : String) (creator : Int)
    (document : Document)
  | remove (code : String)

/-- The state after something has happened; `none` if it cannot happen. -/
def happen? (admins : Admins) (c : Concurrent) : Happening → Option Concurrent
  | .text m => some (c.arrive m)
  | .turn index messenger => c.stepAt admins messenger index
  | .register code name description creator document =>
    match Definition.ofDocument document with
    | .error _ => none
    | .ok definition =>
      match c.bot.register code ⟨name, description, creator, definition⟩ with
      | .error _ => none
      | .ok r => some { c with bot := c.bot.withRegistered r }
  | .remove code => (c.bot.remove? code).map fun b => { c with bot := b }

/-- A run, by the states that it has gone through and the state that it has reached. -/
inductive Run (admins : Admins) (start : Concurrent) : List Concurrent → Concurrent → Prop
  | start : Run admins start [] start
  | next {past : List Concurrent} {c c' : Concurrent} (before : Run admins start past c)
    (what : Happening) (happens : c.happen? admins what = some c') :
    Run admins start (past ++ [c]) c'

/-- Goes on with a run; `none` if something cannot happen. -/
def replay (admins : Admins) : List Happening → List Concurrent × Concurrent →
    Option (List Concurrent × Concurrent)
  | [], s => some s
  | what :: rest, (past, c) =>
    (c.happen? admins what).bind fun c' => replay admins rest (past ++ [c], c')

theorem Run.replay {past : List Concurrent} {whats : List Happening}
    {s : List Concurrent × Concurrent} (h : Run admins start past c)
    (hs : replay admins whats (past, c) = some s) : Run admins start s.1 s.2 := by
  induction whats generalizing past c with
  | nil =>
    obtain rfl := Option.some.inj hs
    exact h
  | cons what rest ih =>
    obtain ⟨c', hc, hrest⟩ := Option.bind_eq_some_iff.mp hs
    exact ih (h.next what hc) hrest

/-- Two states in a row are a step of the run. -/
theorem Run.step_of_infix {past : List Concurrent} {x y : Concurrent} (h : Run admins start past c)
    (hxy : [x, y] <:+: past ++ [c]) :
    ∃ before what, Run admins start before x ∧ x.happen? admins what = some y := by
  induction h with
  | start =>
    have hle := hxy.length_le
    simp at hle
  | @next past c c' before what happens ih =>
    rcases List.infix_concat_iff.mp hxy with hend | hin
    · -- the last two states
      obtain ⟨rest, hrest⟩ := hend
      have hsplit : (rest ++ [x]) ++ [y] = (past ++ [c]) ++ [c'] := by
        rw [← hrest, List.append_assoc]
        rfl
      obtain ⟨hinit, hy⟩ := List.append_inj' hsplit rfl
      obtain ⟨-, hx⟩ := List.append_inj' hinit rfl
      obtain rfl := (List.cons.inj hy).1
      obtain rfl := (List.cons.inj hx).1
      exact ⟨past, what, before, happens⟩
    · exact ih hin

instance decidableTriplewise {α : Type} {p : α → α → α → Prop}
    [∀ x y z, Decidable (p x y z)] : (l : List α) → Decidable (l.Triplewise p)
  | [] => isTrue .nil
  | a :: l =>
    have := decidableTriplewise (p := p) l
    decidable_of_iff (l.Pairwise (p a) ∧ l.Triplewise p) List.triplewise_cons.symm

/-- No code is registered again after its riddle has been removed. -/
def NeverAgain (states : List Concurrent) : Prop :=
  (states.map (·.bot.catalogue.codes)).Triplewise fun x y z =>
    ∀ code ∈ x, code ∉ y → code ∉ z

instance (states : List Concurrent) : Decidable (NeverAgain states) :=
  inferInstanceAs (Decidable (List.Triplewise _ _))

theorem NeverAgain.of_append {states : List Concurrent} (h : NeverAgain (states ++ [c])) :
    NeverAgain states := by
  unfold NeverAgain at *
  rw [List.map_append, List.triplewise_append] at h
  exact h.1

/-- A code that was taken and has just become free is not taken by what happens next. -/
theorem NeverAgain.not_mem {past : List Concurrent} {x : Concurrent} {code : String}
    (h : NeverAgain (past ++ [c] ++ [c'])) (hx : x ∈ past) (hcode : code ∈ x.bot.catalogue.codes)
    (hfree : code ∉ c.bot.catalogue.codes) : code ∉ c'.bot.catalogue.codes := by
  unfold NeverAgain at h
  rw [List.triplewise_map, List.triplewise_append] at h
  have hpair := h.2.2.2 c' (List.mem_singleton_self c')
  rw [List.pairwise_append] at hpair
  exact hpair.2.2 x hx c (List.mem_singleton_self c) code hcode hfree

/-! ## Steps of a run -/

/-- What happens to the riddles and the dialogues in a step of a run. -/
inductive AdminStep (admins : Admins) (c c' : Concurrent) : Prop
  | same (begun : c'.begun = c.begun) (state : c'.bot.SameAdminState c.bot)
  -- a job begins, and its text changes them at once
  | begins (t : Job) (begun : c'.begun = c.begun ++ [t])
    (state : c'.bot.SameAdminState (c.bot.afterPlan (plan admins c.bot t.incoming)))
  -- a riddle is registered, and its definition has been compiled
  | registers (code? : Option String) (d : Catalogue.Draft) (document : Document)
    (compiled : Definition.ofDocument document = .ok d.definition) (r : Catalogue.Registered)
    (register : c.bot.register code? d = .ok r) (begun : c'.begun = c.begun)
    (bot : c'.bot = c.bot.withRegistered r)
  | removes (code : String) (begun : c'.begun = c.begun)
    (bot : c'.bot = { c.bot with catalogue := c.bot.catalogue.erase code })

/-- Only the bot and the jobs that have begun count. -/
theorem AdminStep.of_eq {c₀ : Concurrent} (h : AdminStep admins c₀ c') (hbot : c₀.bot = c.bot)
    (hbegun : c₀.begun = c.begun) : AdminStep admins c c' := by
  cases h with
  | same begun state => exact .same (begun.trans hbegun) (hbot ▸ state)
  | begins t begun state =>
    refine .begins t ?_ (hbot ▸ state)
    rw [begun, hbegun]
  | registers code? d document compiled r register begun bot =>
    exact .registers code? d document compiled r (hbot ▸ register) (begun.trans hbegun)
      (hbot ▸ bot)
  | removes code begun bot => exact .removes code (begun.trans hbegun) (hbot ▸ bot)

theorem adminStep_beginJob : AdminStep admins c (c.beginJob admins t) := by
  unfold beginJob
  cases hp : plan admins c.bot t.incoming with
  | error e =>
    refine .begins t ?_ ?_
    · exact begun_finish _
    · rw [hp]
      simp only [bot_finish]
      exact .rfl
  | ok p =>
    obtain ⟨hbegun, hstate⟩ := @sameAdminState_proceed
      { c with bot := p.bot, begun := c.begun ++ [t] } t p.acts
    refine .begins t hbegun ?_
    rw [hp]
    exact hstate

/-- A turn begins a job of the state that it meets, or leaves the state of administration alone. -/
theorem adminStep_takeTurn (turn : Turn) :
    AdminStep admins c (c.takeTurn admins messenger turn) := by
  cases turn with
  | come t =>
    simp only [takeTurn]
    split
    · exact .same rfl .rfl
    · have hbegins := @adminStep_beginJob admins { c with held := t.incoming.chat :: c.held } t
      exact hbegins.of_eq rfl rfl
  | granted t => exact adminStep_beginJob
  | deliver t d acts =>
    simp only [takeTurn]
    split
    · refine .same (begun_finish _) ?_
      rw [bot_finish]
      exact .rfl
    · obtain ⟨hbegun, hstate⟩ := @sameAdminState_proceed
        { c with deliveries := c.deliveries ++ [(t, d)] } t acts
      exact .same hbegun hstate

theorem adminStep_of_happen {what : Happening} (h : c.happen? admins what = some c') :
    AdminStep admins c c' := by
  cases what with
  | text m =>
    obtain rfl := Option.some.inj h
    exact .same rfl .rfl
  | turn index messenger =>
    obtain ⟨before, turn, after, -, -, rfl⟩ := stepAt_eq_some h
    have htakes := @adminStep_takeTurn admins messenger { c with line := before ++ after } turn
    exact htakes.of_eq rfl rfl
  | register code? name description creator document =>
    simp only [happen?] at h
    split at h
    · cases h
    · rename_i definition hdoc
      split at h
      · cases h
      · rename_i r hr
        obtain rfl := Option.some.inj h
        exact .registers code? _ document hdoc r hr rfl rfl
  | remove code =>
    obtain ⟨b, hb, rfl⟩ := Option.map_eq_some_iff.mp h
    unfold Bot.remove? at hb
    split at hb
    · obtain rfl := Option.some.inj hb
      exact .removes code rfl rfl
    · cases hb

/-- If a job begins in a step, the riddles and the dialogues are what its text makes of them. -/
theorem AdminStep.state_of_begun (h : AdminStep admins c c') (hbegun : c'.begun = c.begun ++ [t]) :
    c'.bot.SameAdminState (c.bot.afterPlan (plan admins c.bot t.incoming)) := by
  have hgrows : c'.begun ≠ c.begun := by
    rw [hbegun]
    simp
  cases h with
  | same begun state => exact absurd begun hgrows
  | begins t' begun state =>
    have hsame : t = t' := by
      rw [hbegun] at begun
      exact (List.cons.inj (List.append_cancel_left begun)).1
    rw [hsame]
    exact state
  | registers code? d document compiled r register begun bot => exact absurd begun hgrows
  | removes code begun bot => exact absurd begun hgrows

/-- The catalogue changes in one of the ways in which it may. -/
theorem AdminStep.change (h : AdminStep admins c c') :
    c.bot.catalogue.Change c'.bot.catalogue := by
  cases h with
  | same begun state =>
    rw [state.registry.catalogue]
    exact .same
  | begins t begun state =>
    rw [state.registry.catalogue]
    cases hp : plan admins c.bot t.incoming with
    | error e => exact .same
    | ok p => exact plan_change hp
  | registers code? d document compiled r register begun bot =>
    rw [bot]
    exact Catalogue.change_of_register compiled register
  | removes code begun bot =>
    rw [bot]
    exact .erased code

/-- Whatever happens changes the catalogue once at most. -/
theorem change_of_happen {what : Happening} (h : c.happen? admins what = some c') :
    c.bot.catalogue.Change c'.bot.catalogue :=
  (adminStep_of_happen h).change

/-- Registering a riddle leaves chats and jobs alone. -/
theorem happen_register {code : Option String} {name description : String} {creator : Int}
    {document : Document}
    (h : c.happen? admins (.register code name description creator document) = some c') :
    c'.bot.sessions = c.bot.sessions ∧ c'.line = c.line ∧ c'.waiting = c.waiting ∧
      c'.held = c.held ∧ c'.ended = c.ended ∧ c'.bot.awaiting = c.bot.awaiting := by
  simp only [happen?] at h
  split at h
  · cases h
  · split at h
    · cases h
    · obtain rfl := Option.some.inj h
      exact ⟨rfl, rfl, rfl, rfl, rfl, rfl⟩

/-- So does removing one. -/
theorem happen_remove {code : String} (h : c.happen? admins (.remove code) = some c') :
    c'.bot.sessions = c.bot.sessions ∧ c'.line = c.line ∧ c'.waiting = c.waiting ∧
      c'.held = c.held ∧ c'.ended = c.ended ∧ c'.bot.awaiting = c.bot.awaiting := by
  obtain ⟨b, hb, rfl⟩ := Option.map_eq_some_iff.mp h
  unfold Bot.remove? at hb
  split at hb
  · obtain rfl := Option.some.inj hb
    exact ⟨rfl, rfl, rfl, rfl, rfl, rfl⟩
  · cases hb

/-- In every run, locks exclude each other. -/
theorem locked_of_run {b : Bot} {past : List Concurrent} (h : Run admins (idle b) past c) :
    Locked [] c := by
  induction h with
  | start => exact Locked.idle b
  | next before what happens ih =>
    cases what with
    | text m =>
      obtain rfl := Option.some.inj happens
      exact ih.arrive m
    | turn index messenger =>
      obtain ⟨before, turn, after, hl, -, rfl⟩ := stepAt_eq_some happens
      exact ih.takeTurn hl
    | register code name description creator document =>
      obtain ⟨-, hl, hw, hh, -⟩ := happen_register happens
      exact ih.congr hl hw hh
    | remove code =>
      obtain ⟨-, hl, hw, hh, -⟩ := happen_remove happens
      exact ih.congr hl hw hh

/-- A riddle is registered under a code somewhere in a run: the code is free, and next the riddle is
there. -/
def RegisteredIn (states : List Concurrent) (code : String) (r : Riddle) : Prop :=
  ∃ x y, [x, y] <:+: states ∧ x.bot.catalogue.get? code = none ∧
    y.bot.catalogue.get? code = some r

/-- A riddle under a code that was free before a run has been registered in the run. -/
theorem registered_of_run {past : List Concurrent} {code : String} {r : Riddle}
    (h : Run admins start past c) (hstart : start.bot.catalogue.get? code = none)
    (hr : c.bot.catalogue.get? code = some r) : RegisteredIn (past ++ [c]) code r := by
  induction h with
  | start =>
    rw [hstart] at hr
    cases hr
  | @next past c c' before what happens ih =>
    rcases (change_of_happen happens).get?_eq_some hr with hold | ⟨hfree, -⟩
    · -- it was there before, and the run up to there has registered it
      obtain ⟨x, y, hxy, hx, hy⟩ := ih hold
      exact ⟨x, y, hxy.trans (List.infix_append [] _ _), hx, hy⟩
    · refine ⟨c, c', ?_, hfree, hr⟩
      rw [List.append_assoc]
      exact ⟨past, [], by simp⟩

end Concurrent

end ChatRiddles
