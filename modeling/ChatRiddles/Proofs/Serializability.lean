import ChatRiddles.Proofs.Locality
import ChatRiddles.Proofs.Locks
import Mathlib.Data.List.Induction
import Mathlib.Data.List.Nodup
/-!
# Handling at the same time is handling in some order

However jobs take turns, everything that comes of them is what comes of handling their texts one
after another, in the order in which the jobs have got the locks of their chats: the bot, what each
job delivers and how it ends. Jobs of one chat get its lock in the order in which their texts came.

A job changes the catalogue only at its beginning, where it makes way for nobody, and later nothing
but the session of its chat, whose lock it holds. So at any time, if the jobs that have begun were
carried out to the end, the bot would be the one after handling them in order: this is `Serial`.

Main statement: `concurrent_eq_sequential`.
-/

namespace ChatRiddles

variable {admins : Admins} {messenger : Messenger}

namespace Bot

/-! ## One after another -/

/-- What comes of each job when jobs are handled one after another. -/
def handleJobs (admins : Admins) (messenger : Messenger) (b : Bot) :
    List Job → List (Job × Handled Outcome)
  | [] => []
  | t :: rest =>
    let h := b.handle admins messenger t.incoming
    (t, h) :: h.bot.handleJobs admins messenger rest

/-- The bot after jobs that are handled one after another. -/
def afterJobs (admins : Admins) (messenger : Messenger) (b : Bot) (jobs : List Job) : Bot :=
  (b.handleAll admins messenger (jobs.map (·.incoming))).bot

/-- After one job more the bot is as it is after handling its text. -/
theorem afterJobs_append_singleton (b : Bot) (jobs : List Job) (t : Job) :
    b.afterJobs admins messenger (jobs ++ [t]) =
      ((b.afterJobs admins messenger jobs).handle admins messenger t.incoming).bot := by
  induction jobs generalizing b with
  | nil => rfl
  | cons j rest ih => exact ih (b.handle admins messenger j.incoming).bot

/-- A last job is handled after the others. -/
theorem handleJobs_append_singleton (b : Bot) (jobs : List Job) (t : Job) :
    b.handleJobs admins messenger (jobs ++ [t]) =
      b.handleJobs admins messenger jobs ++
        [(t, (b.afterJobs admins messenger jobs).handle admins messenger t.incoming)] := by
  induction jobs generalizing b with
  | nil => rfl
  | cons j rest ih =>
    exact congrArg (_ :: ·) (ih (b.handle admins messenger j.incoming).bot)

theorem map_fst_handleJobs (admins : Admins) (messenger : Messenger) (b : Bot) (jobs : List Job) :
    (b.handleJobs admins messenger jobs).map (·.1) = jobs := by
  induction jobs generalizing b with
  | nil => rfl
  | cons j rest ih => exact congrArg (j :: ·) (ih _)

/-! ## Beginning and carrying out -/

/-- The bot after the beginning of a text, and the acts that are left unless it broke down. -/
def undertake (admins : Admins) (b : Bot) (m : Incoming) : Bot × Except Crash (List Act) :=
  match plan admins b m with
  | .error e => (b, .error e)
  | .ok p => (p.bot, .ok p.acts)

/-- Carries out what is left. -/
def carryOut (messenger : Messenger) (chat : Int) (b : Bot) :
    Except Crash (List Act) → Handled Outcome
  | .error e => ⟨b, [], 0, [], .crashed e⟩
  | .ok acts => b.perform (.always messenger) chat acts

/-- Handling a text is undertaking it and carrying it out at once. -/
theorem handle_eq_carryOut (b : Bot) (m : Incoming) :
    b.handle admins messenger m =
      carryOut messenger m.chat (b.undertake admins m).1 (b.undertake admins m).2 := by
  unfold handle handleIn undertake
  cases plan admins b m <;> rfl

variable {b b' : Bot} {chat other : Int}

/-- Undertaking a text changes nothing for other chats. -/
theorem undertake_agreeAt_of_ne (admins : Admins) {m : Incoming} (ho : other ≠ m.chat) :
    (b.undertake admins m).1.AgreeAt b other := by
  unfold undertake
  cases h : plan admins b m with
  | error e => exact .rfl
  | ok p => exact plan_agreeAt_of_ne h ho

/-- It depends on the riddles and on its chat only. -/
theorem undertake_congr (admins : Admins) {m : Incoming} (hr : b.SameRegistry b')
    (h : b.AgreeAt b' m.chat) :
    (b.undertake admins m).1.SameRegistry (b'.undertake admins m).1 ∧
      (b.undertake admins m).1.AgreeAt (b'.undertake admins m).1 m.chat ∧
      (b.undertake admins m).2 = (b'.undertake admins m).2 := by
  have hp := plan_congr admins hr h
  unfold undertake
  revert hp
  generalize plan admins b m = x, plan admins b' m = y
  intro hp
  cases hp with
  | crash c => exact ⟨hr, h, rfl⟩
  | plan acts hr' h' => exact ⟨hr', h', rfl⟩

/-- Carrying out acts registers and removes nothing. -/
theorem carryOut_sameRegistry (r : Except Crash (List Act)) :
    (carryOut messenger chat b r).bot.SameRegistry b := by
  cases r with
  | error e => exact .rfl
  | ok acts => exact perform_sameRegistry _ chat acts

theorem carryOut_agreeAt_of_ne (r : Except Crash (List Act)) (ho : other ≠ chat) :
    (carryOut messenger chat b r).bot.AgreeAt b other := by
  cases r with
  | error e => exact .rfl
  | ok acts => exact perform_agreeAt_of_ne _ acts ho

/-- Bots that agree at a chat do so after the same acts, in whichever chat. -/
theorem carryOut_agreeAt (messenger : Messenger) (chat : Int) (r : Except Crash (List Act))
    (h : b.AgreeAt b' other) :
    (carryOut messenger chat b r).bot.AgreeAt (carryOut messenger chat b' r).bot other := by
  cases r with
  | error e => exact h
  | ok acts => exact perform_agreeAt _ chat acts h

/-- What is delivered, and how it ends, does not depend on the bot. -/
theorem carryOut_results (messenger : Messenger) (chat : Int) (b b' : Bot)
    (r : Except Crash (List Act)) :
    (carryOut messenger chat b r).sent = (carryOut messenger chat b' r).sent ∧
      (carryOut messenger chat b r).outcome = (carryOut messenger chat b' r).outcome := by
  cases r with
  | error e => exact ⟨rfl, rfl⟩
  | ok acts => exact perform_results _ chat b b' acts

end Bot

namespace Concurrent

variable {b : Bot} {c : Concurrent} {t : Job} {o : Outcome}

/-- The jobs that have begun and not ended, with what is left of them. -/
def unfinished (c : Concurrent) : List (Job × Except Crash (List Act)) :=
  c.inFlight.map fun (t, acts) => (t, .ok acts)

/-- While a job runs, unfinished jobs are for other chats. -/
theorem chat_ne_of_mem_unfinished (h : Locked [t] c) {w : Job × Except Crash (List Act)}
    (hw : w ∈ c.unfinished) : w.1.chat ≠ t.chat := by
  obtain ⟨⟨t', acts⟩, hm, rfl⟩ := List.mem_map.mp hw
  exact h.chat_ne_of_running (mem_holders_of_mem_inFlight hm)

/-! ## The invariant -/

/-- If the unfinished jobs were carried out to the end, what came of the jobs that have begun would
be what comes of handling them one after another, beginning with the bot `b`. -/
structure Serial (admins : Admins) (messenger : Messenger) (b : Bot)
    (unfinished : List (Job × Except Crash (List Act))) (c : Concurrent) : Prop where
  -- the riddles are already those of handling one after another
  registry : c.bot.SameRegistry (b.afterJobs admins messenger c.begun)
  -- so is what is kept for a chat with an unfinished job, once it is carried out
  busy : ∀ w ∈ unfinished, (Bot.carryOut messenger w.1.chat c.bot w.2).bot.AgreeAt
    (b.afterJobs admins messenger c.begun) w.1.chat
  -- so is what is kept for the other chats
  free : ∀ chat, (∀ w ∈ unfinished, w.1.chat ≠ chat) →
    c.bot.AgreeAt (b.afterJobs admins messenger c.begun) chat
  -- what an unfinished job has delivered and will deliver, and how it will end
  going : ∀ e ∈ b.handleJobs admins messenger c.begun, ∀ w ∈ unfinished, w.1 = e.1 →
    c.sentBy e.1 ++ (Bot.carryOut messenger w.1.chat c.bot w.2).sent = e.2.sent ∧
      (Bot.carryOut messenger w.1.chat c.bot w.2).outcome = e.2.outcome ∧ c.endsOf e.1 = []
  -- what a job that has ended has delivered, and how it has ended
  finished : ∀ e ∈ b.handleJobs admins messenger c.begun, (∀ w ∈ unfinished, w.1 ≠ e.1) →
    c.sentBy e.1 = e.2.sent ∧ c.endsOf e.1 = [e.2.outcome]
  -- jobs that have not begun have done nothing
  fresh : ∀ t ∉ c.begun, c.sentBy t = [] ∧ c.endsOf t = []
  -- unfinished jobs have begun
  begun : ∀ w ∈ unfinished, w.1 ∈ c.begun

variable {r : Except Crash (List Act)} {ws : List (Job × Except Crash (List Act))}

/-- The order of unfinished jobs does not matter. -/
theorem Serial.congr_unfinished (h : Serial admins messenger b ws c)
    (ws' : List (Job × Except Crash (List Act))) (hw : ∀ w, w ∈ ws' ↔ w ∈ ws) :
    Serial admins messenger b ws' c where
  registry := h.registry
  busy w hm := h.busy w ((hw w).mp hm)
  free chat hf := h.free chat fun w hm => hf w ((hw w).mpr hm)
  going e he w hm := h.going e he w ((hw w).mp hm)
  finished e he hf := h.finished e he fun w hm => hf w ((hw w).mpr hm)
  fresh := h.fresh
  begun w hm := h.begun w ((hw w).mp hm)

/-- The order depends on the bot, on who has begun, and on what has come of it. -/
theorem Serial.congr {c' : Concurrent} (h : Serial admins messenger b ws c)
    (hbot : c'.bot = c.bot) (hbegun : c'.begun = c.begun)
    (hdeliveries : c'.deliveries = c.deliveries) (hended : c'.ended = c.ended) :
    Serial admins messenger b ws c' := by
  have hsent : ∀ t, c'.sentBy t = c.sentBy t := fun t => by rw [sentBy, hdeliveries, sentBy]
  have hends : ∀ t, c'.endsOf t = c.endsOf t := fun t => by rw [endsOf, hended, endsOf]
  refine ⟨?_, ?_, ?_, ?_, ?_, ?_, ?_⟩
  · rw [hbot, hbegun]
    exact h.registry
  · rw [hbot, hbegun]
    exact h.busy
  · rw [hbot, hbegun]
    exact h.free
  · simp only [hbot, hbegun, hsent, hends]
    exact h.going
  · simp only [hbegun, hsent, hends]
    exact h.finished
  · simp only [hbegun, hsent, hends]
    exact h.fresh
  · rw [hbegun]
    exact h.begun

theorem mem_begun_of_mem_handleJobs {e : Job × Handled Outcome} {jobs : List Job}
    (he : e ∈ b.handleJobs admins messenger jobs) : e.1 ∈ jobs := by
  have hm := List.mem_map_of_mem (f := (·.1)) he
  rwa [Bot.map_fst_handleJobs] at hm

/-- A job begins that holds the lock of its chat. -/
theorem Serial.begin (h : Serial admins messenger b ws c) (hnew : t ∉ c.begun)
    (halone : ∀ w ∈ ws, w.1.chat ≠ t.chat) :
    Serial admins messenger b ((t, (c.bot.undertake admins t.incoming).2) :: ws)
      { c with bot := (c.bot.undertake admins t.incoming).1, begun := c.begun ++ [t] } := by
  have hfree : c.bot.AgreeAt (b.afterJobs admins messenger c.begun) t.chat := h.free _ halone
  obtain ⟨hreg, hagree, hrest⟩ := Bot.undertake_congr admins h.registry hfree
  have hafter : b.afterJobs admins messenger (c.begun ++ [t]) = (Bot.carryOut messenger t.chat
      ((b.afterJobs admins messenger c.begun).undertake admins t.incoming).1
      ((b.afterJobs admins messenger c.begun).undertake admins t.incoming).2).bot := by
    rw [Bot.afterJobs_append_singleton, Bot.handle_eq_carryOut]
  -- a chat other than that of the job is left alone on both sides
  have hother : ∀ chat, chat ≠ t.chat →
      (b.afterJobs admins messenger c.begun).AgreeAt
        (b.afterJobs admins messenger (c.begun ++ [t])) chat := by
    intro chat hne
    rw [hafter]
    exact ((Bot.carryOut_agreeAt_of_ne _ hne).trans (Bot.undertake_agreeAt_of_ne admins hne)).symm
  refine ⟨?_, ?_, ?_, ?_, ?_, ?_, ?_⟩
  · show Bot.SameRegistry _ (b.afterJobs admins messenger (c.begun ++ [t]))
    rw [hafter]
    exact hreg.trans (Bot.carryOut_sameRegistry _).symm
  · -- the new job would be carried out in the same way on both sides, the others as before
    intro w hw
    show Bot.AgreeAt _ (b.afterJobs admins messenger (c.begun ++ [t])) w.1.chat
    rcases List.mem_cons.mp hw with rfl | hw
    · rw [hafter, ← hrest]
      exact Bot.carryOut_agreeAt messenger _ _ hagree
    · have hne := halone w hw
      have hsame := Bot.carryOut_agreeAt messenger w.1.chat w.2
        (Bot.undertake_agreeAt_of_ne (b := c.bot) admins hne)
      exact (hsame.trans (h.busy w hw)).trans (hother _ hne)
  · intro chat hf
    show Bot.AgreeAt _ (b.afterJobs admins messenger (c.begun ++ [t])) chat
    have hne : chat ≠ t.chat := (hf _ (List.mem_cons_self ..)).symm
    have hold := h.free chat fun w hw => hf w (List.mem_cons_of_mem _ hw)
    exact ((Bot.undertake_agreeAt_of_ne admins hne).trans hold).trans (hother _ hne)
  · -- the new job comes last in the order, and has done nothing before
    intro e he w hw hwe
    rw [Bot.handleJobs_append_singleton, List.mem_append, List.mem_singleton] at he
    rcases he with he | rfl
    · rcases List.mem_cons.mp hw with rfl | hw
      · have hte : t = e.1 := hwe
        exact absurd (hte ▸ mem_begun_of_mem_handleJobs he) hnew
      · obtain ⟨hs, ho, hend⟩ := h.going e he w hw hwe
        obtain ⟨hs', ho'⟩ := Bot.carryOut_results messenger w.1.chat
          (c.bot.undertake admins t.incoming).1 c.bot w.2
        refine ⟨?_, ho'.trans ho, hend⟩
        rw [← hs, hs']
        rfl
    · rcases List.mem_cons.mp hw with rfl | hw
      · obtain ⟨hs, hend⟩ := h.fresh t hnew
        obtain ⟨hs', ho'⟩ := Bot.carryOut_results messenger t.chat
          (c.bot.undertake admins t.incoming).1
          ((b.afterJobs admins messenger c.begun).undertake admins t.incoming).1
          (c.bot.undertake admins t.incoming).2
        rw [Bot.handle_eq_carryOut, ← hrest]
        refine ⟨?_, ho', hend⟩
        show c.sentBy t ++ _ = _
        rw [hs, List.nil_append]
        exact hs'
      · exact absurd (congrArg Job.chat hwe) (halone w hw)
  · intro e he hf
    rw [Bot.handleJobs_append_singleton, List.mem_append, List.mem_singleton] at he
    rcases he with he | rfl
    · exact h.finished e he fun w hw => hf w (List.mem_cons_of_mem _ hw)
    · exact absurd rfl (hf _ (List.mem_cons_self ..))
  · intro t' ht'
    exact h.fresh t' fun hm => ht' (List.mem_append_left _ hm)
  · intro w hw
    rcases List.mem_cons.mp hw with rfl | hw
    · exact List.mem_append_right _ (List.mem_singleton_self _)
    · exact List.mem_append_left _ (h.begun w hw)

/-- A running job goes on: something else is left of it, but carrying that out ends in the same, and
jobs of other chats are left alone. -/
theorem Serial.goOn {c' : Concurrent} {r' : Except Crash (List Act)}
    (h : Serial admins messenger b ((t, r) :: ws) c) (halone : ∀ w ∈ ws, w.1.chat ≠ t.chat)
    (hbegun : c'.begun = c.begun) (hends : c'.ended = c.ended)
    (hreg : c'.bot.SameRegistry c.bot) (hframe : ∀ chat, chat ≠ t.chat → c'.bot.AgreeAt c.bot chat)
    (hbot : (Bot.carryOut messenger t.chat c'.bot r').bot =
      (Bot.carryOut messenger t.chat c.bot r).bot)
    (hout : (Bot.carryOut messenger t.chat c'.bot r').outcome =
      (Bot.carryOut messenger t.chat c.bot r).outcome)
    (hsent : c'.sentBy t ++ (Bot.carryOut messenger t.chat c'.bot r').sent =
      c.sentBy t ++ (Bot.carryOut messenger t.chat c.bot r).sent)
    (hothers : ∀ t', t' ≠ t → c'.sentBy t' = c.sentBy t') :
    Serial admins messenger b ((t, r') :: ws) c' := by
  have hself := List.mem_cons_self (a := (t, r)) (l := ws)
  have hself' := List.mem_cons_self (a := (t, r')) (l := ws)
  have hends' : ∀ t', c'.endsOf t' = c.endsOf t' := fun t' => by rw [endsOf, endsOf, hends]
  refine ⟨?_, ?_, ?_, ?_, ?_, ?_, ?_⟩
  · rw [hbegun]
    exact hreg.trans h.registry
  · intro w hw
    rw [hbegun]
    rcases List.mem_cons.mp hw with rfl | hw
    · rw [hbot]
      exact h.busy _ hself
    · have hsame := Bot.carryOut_agreeAt messenger w.1.chat w.2 (hframe _ (halone w hw))
      exact hsame.trans (h.busy w (List.mem_cons_of_mem _ hw))
  · intro chat hf
    rw [hbegun]
    have hne : t.chat ≠ chat := hf _ hself'
    refine (hframe chat hne.symm).trans (h.free chat fun w hw => ?_)
    rcases List.mem_cons.mp hw with rfl | hw
    · exact hne
    · exact hf w (List.mem_cons_of_mem _ hw)
  · intro e he w hw hwe
    rw [hbegun] at he
    rw [hends']
    rcases List.mem_cons.mp hw with rfl | hw
    · obtain ⟨hs, ho, hend⟩ := h.going e he _ hself hwe
      obtain rfl : t = e.1 := hwe
      exact ⟨hsent.trans hs, hout.trans ho, hend⟩
    · have hne : e.1 ≠ t := fun hte => halone w hw (congrArg Job.chat (hwe.trans hte))
      obtain ⟨hs, ho, hend⟩ := h.going e he w (List.mem_cons_of_mem _ hw) hwe
      obtain ⟨hs', ho'⟩ := Bot.carryOut_results messenger w.1.chat c'.bot c.bot w.2
      rw [hothers _ hne, hs']
      exact ⟨hs, ho'.trans ho, hend⟩
  · intro e he hf
    rw [hbegun] at he
    have hne : t ≠ e.1 := hf _ hself'
    rw [hends', hothers _ hne.symm]
    refine h.finished e he fun w hw => ?_
    rcases List.mem_cons.mp hw with rfl | hw
    · exact hne
    · exact hf w (List.mem_cons_of_mem _ hw)
  · intro t' ht'
    rw [hbegun] at ht'
    have hne : t' ≠ t := fun he => ht' (he ▸ h.begun _ hself)
    rw [hends', hothers _ hne]
    exact h.fresh t' ht'
  · intro w hw
    rw [hbegun]
    rcases List.mem_cons.mp hw with rfl | hw
    · exact h.begun (t, r) hself
    · exact h.begun w (List.mem_cons_of_mem _ hw)

/-- A running job does an act that is no delivery. -/
theorem Serial.act {a : Act} {rest : List Act}
    (h : Serial admins messenger b ((t, .ok (a :: rest)) :: ws) c)
    (halone : ∀ w ∈ ws, w.1.chat ≠ t.chat) (ha : ∀ d, a ≠ .deliver d) (notices : List Notice) :
    Serial admins messenger b ((t, .ok rest) :: ws)
      { c with bot := c.bot.settle t.chat a, notices := notices } := by
  have hcons : Bot.perform (.always messenger) t.chat c.bot (a :: rest) = _ := Bot.perform_cons ha
  refine h.goOn halone rfl rfl (Bot.settle_sameRegistry a)
    (fun chat hne => Bot.settle_agreeAt_of_ne a hne) ?_ ?_ ?_ fun t' _ => rfl
  · simp only [Bot.carryOut, hcons]
  · simp only [Bot.carryOut, hcons]
  · simp only [Bot.carryOut, hcons]
    rfl

theorem sentBy_append (c : Concurrent) (t t' : Job) (d : Delivery) :
    sentBy { c with deliveries := c.deliveries ++ [(t, d)] } t' =
      c.sentBy t' ++ if t = t' then [d] else [] := by
  by_cases h : t = t' <;> simp [sentBy, h]

/-- A running job makes a delivery. -/
theorem Serial.deliver {d : Delivery} {rest : List Act}
    (h : Serial admins messenger b ((t, .ok (.deliver d :: rest)) :: ws) c)
    (halone : ∀ w ∈ ws, w.1.chat ≠ t.chat) (hd : messenger d = none) :
    Serial admins messenger b ((t, .ok rest) :: ws)
      { c with deliveries := c.deliveries ++ [(t, d)] } := by
  have hcons : Bot.perform (.always messenger) t.chat c.bot (.deliver d :: rest) = _ :=
    Bot.perform_deliver_of_none hd
  refine h.goOn halone rfl rfl .rfl (fun _ _ => .rfl) ?_ ?_ ?_ fun t' hne => ?_
  · simp only [Bot.carryOut, hcons]
    rfl
  · simp only [Bot.carryOut, hcons]
    rfl
  · rw [sentBy_append, if_pos rfl]
    simp only [Bot.carryOut, hcons, List.append_assoc]
    rfl
  · rw [sentBy_append, if_neg hne.symm, List.append_nil]

/-- A running job for which nothing is left to do ends. -/
theorem Serial.finish (h : Serial admins messenger b ((t, r) :: ws) c)
    (halone : ∀ w ∈ ws, w.1.chat ≠ t.chat)
    (hbot : (Bot.carryOut messenger t.chat c.bot r).bot = c.bot)
    (hsent : (Bot.carryOut messenger t.chat c.bot r).sent = [])
    (hout : (Bot.carryOut messenger t.chat c.bot r).outcome = o) (ended : List (Job × Outcome))
    (hended : ended = c.ended ++ [(t, o)]) :
    Serial admins messenger b ws { c with ended := ended } := by
  subst hended
  have hself := List.mem_cons_self (a := (t, r)) (l := ws)
  have hends : ∀ t', endsOf { c with ended := c.ended ++ [(t, o)] } t' =
      c.endsOf t' ++ if t = t' then [o] else [] := by
    intro t'
    by_cases he : t = t' <;> simp [endsOf, he]
  refine ⟨h.registry, ?_, ?_, ?_, ?_, ?_, ?_⟩
  · exact fun w hw => h.busy w (List.mem_cons_of_mem _ hw)
  · intro chat hf
    by_cases hx : t.chat = chat
    · -- nothing was left to do in this chat, so that it is as it should be already
      have hb := h.busy _ hself
      rw [hbot] at hb
      exact hx ▸ hb
    · refine h.free chat fun w hw => ?_
      rcases List.mem_cons.mp hw with rfl | hw
      · exact hx
      · exact hf w hw
  · intro e he w hw hwe
    have hne : t ≠ e.1 := fun hte => halone w hw (congrArg Job.chat (hwe.trans hte.symm))
    rw [hends, if_neg hne, List.append_nil]
    exact h.going e he w (List.mem_cons_of_mem _ hw) hwe
  · intro e he hf
    rw [hends]
    by_cases hte : t = e.1
    · -- the job that ends has delivered everything and has not ended before
      obtain ⟨hs, ho, hend⟩ := h.going e he _ hself hte
      rw [if_pos hte, hend, ← ho, hout]
      refine ⟨?_, rfl⟩
      rw [← hs, hsent, List.append_nil]
      rfl
    · rw [if_neg hte, List.append_nil]
      refine h.finished e he fun w hw => ?_
      rcases List.mem_cons.mp hw with rfl | hw
      · exact hte
      · exact hf w hw
  · intro t' ht'
    have hne : t ≠ t' := fun he => ht' (he ▸ h.begun _ hself)
    rw [hends, if_neg hne, List.append_nil]
    exact h.fresh t' ht'
  · exact fun w hw => h.begun w (List.mem_cons_of_mem _ hw)

/-! ## Turns -/

/-- The end of a job leaves the unfinished ones. -/
theorem unfinished_finish : (c.finish t o).unfinished = c.unfinished := by
  rw [unfinished, inFlight_finish, unfinished]

/-- A job that has nothing left to do may end. -/
theorem Serial.finishJob (h : Serial admins messenger b ((t, r) :: c.unfinished) c)
    (hlock : Locked [t] c) (hbot : (Bot.carryOut messenger t.chat c.bot r).bot = c.bot)
    (hsent : (Bot.carryOut messenger t.chat c.bot r).sent = [])
    (hout : (Bot.carryOut messenger t.chat c.bot r).outcome = o) :
    Serial admins messenger b (c.finish t o).unfinished (c.finish t o) := by
  have h' := h.finish (fun w hw => chat_ne_of_mem_unfinished hlock hw) hbot hsent hout _ rfl
  rw [unfinished_finish]
  unfold Concurrent.finish
  simp only
  split
  · exact h'.congr rfl rfl rfl rfl
  · exact h'.congr rfl rfl rfl rfl

/-- Going on with a job is as handling one after another. -/
theorem Serial.proceed {acts : List Act}
    (h : Serial admins messenger b ((t, .ok acts) :: c.unfinished) c) (hlock : Locked [t] c) :
    Serial admins messenger b (c.proceed t acts).unfinished (c.proceed t acts) := by
  induction acts generalizing c with
  | nil => exact h.finishJob hlock rfl rfl rfl
  | cons a rest ih =>
    by_cases ha : ∃ d, a = .deliver d
    · obtain ⟨d, rfl⟩ := ha
      -- the job makes way, and what is left of it stands in the line
      have hu : unfinished { c with line := c.line ++ [Turn.deliver t d rest] } =
          c.unfinished ++ [(t, .ok (.deliver d :: rest))] := by
        simp [unfinished, inFlight, Turn.begun?]
      show Serial admins messenger b
        (unfinished { c with line := c.line ++ [Turn.deliver t d rest] })
        { c with line := c.line ++ [Turn.deliver t d rest] }
      rw [hu]
      have h' := h.congr_unfinished (c.unfinished ++ [(t, .ok (.deliver d :: rest))])
        fun w => by simp [or_comm]
      exact h'.congr rfl rfl rfl rfl
    · have ha : ∀ d, a ≠ .deliver d := fun d hd => ha ⟨d, hd⟩
      have h' := h.act (fun w hw => chat_ne_of_mem_unfinished hlock hw) ha
        (c.notices ++ Bot.noticesOf a)
      have hp : c.proceed t (a :: rest) =
          { c with
            bot := c.bot.settle t.chat a
            notices := c.notices ++ Bot.noticesOf a }.proceed t rest := by
        cases a with
        | deliver d => exact absurd rfl (ha d)
        | enter s => rfl
        | leave => rfl
        | note n => rfl
      rw [hp]
      exact ih h' (hlock.congr rfl rfl rfl)

theorem Serial.beginJob (h : Serial admins messenger b c.unfinished c) (hlock : Locked [t] c)
    (hnew : t ∉ c.begun) :
    Serial admins messenger b (c.beginJob admins t).unfinished (c.beginJob admins t) := by
  have h' := h.begin hnew fun w hw => chat_ne_of_mem_unfinished hlock hw
  unfold Bot.undertake at h'
  unfold Concurrent.beginJob
  cases hp : plan admins c.bot t.incoming with
  | error e =>
    simp only [hp] at h' ⊢
    exact finishJob h' (hlock.congr rfl rfl rfl) rfl rfl rfl
  | ok p =>
    simp only [hp] at h' ⊢
    exact proceed h' (hlock.congr rfl rfl rfl)

/-- A job that has not begun is not among those that have, if no job of its chat is there twice. -/
theorem not_mem_begun (hq : (c.queueOf t.chat).Nodup) (ht : t ∈ c.granted ∨ t ∈ c.coming) :
    t ∉ c.begun := by
  intro hb
  have hpos : 0 < c.granted.count t + c.coming.count t := by
    rcases ht with ht | ht
    · exact Nat.add_pos_left (List.count_pos_iff.mpr ht) _
    · exact Nat.add_pos_right _ (List.count_pos_iff.mpr ht)
  have hone := List.nodup_iff_count_le_one.mp hq t
  have hbegun : 0 < c.begun.count t := List.count_pos_iff.mpr hb
  rw [queueOf, List.count_filter (by simp)] at hone
  simp only [List.count_append] at hone
  omega

/-- Every turn keeps the order. -/
theorem Serial.takeTurn {before after : List Turn} {turn : Turn}
    (h : Serial admins messenger b c.unfinished c) (hlock : Locked [] c)
    (hq : ∀ chat, (c.queueOf chat).Nodup) (hl : c.line = before ++ turn :: after) :
    Serial admins messenger b
      ({ c with line := before ++ after }.takeTurn admins messenger turn).unfinished
      ({ c with line := before ++ after }.takeTurn admins messenger turn) := by
  cases turn with
  | come t =>
    have hu : c.unfinished = unfinished { c with line := before ++ after } := by
      simp [unfinished, inFlight, hl, List.filterMap_cons, Turn.begun?]
    have hcome : t ∈ c.coming := by simp [coming, hl, Turn.coming?]
    rw [hu] at h
    simp only [Concurrent.takeTurn]
    split
    · exact h.congr rfl rfl rfl rfl
    · rename_i hc
      have hnew : t ∉ c.begun := not_mem_begun (hq _) (.inr hcome)
      refine beginJob ?_ (hlock.take hl (by simpa using hc)) hnew
      exact h.congr rfl rfl rfl rfl
  | granted t =>
    have hu : c.unfinished = unfinished { c with line := before ++ after } := by
      simp [unfinished, inFlight, hl, List.filterMap_cons, Turn.begun?]
    have hgranted : t ∈ c.granted := by simp [granted, hl, Turn.granted?]
    rw [hu] at h
    have hnew : t ∉ c.begun := not_mem_begun (hq _) (.inl hgranted)
    simp only [Concurrent.takeTurn]
    refine beginJob ?_ (hlock.of_line hl rfl) hnew
    exact h.congr rfl rfl rfl rfl
  | deliver t d acts =>
    have ht : Locked [t] { c with line := before ++ after } := hlock.of_line hl rfl
    have h' := h.congr_unfinished ((t, .ok (.deliver d :: acts)) ::
      unfinished { c with line := before ++ after }) fun w => by
        simp only [unfinished, inFlight, hl, List.filterMap_append, List.filterMap_cons,
          Turn.begun?, List.map_append, List.map_cons, List.mem_append, List.mem_cons]
        tauto
    simp only [Concurrent.takeTurn]
    cases hd : messenger d with
    | some e =>
      have hr : Bot.carryOut messenger t.chat c.bot (.ok (.deliver d :: acts)) =
          ⟨c.bot, [], 1, Bot.failureNotices t.chat e, .undelivered e⟩ :=
        Bot.perform_deliver_of_some hd
      have ht' : Locked [t] { c with line := before ++ after, notices :=
          c.notices ++ Bot.failureNotices t.chat e } := ht.congr rfl rfl rfl
      refine finishJob (r := .ok (.deliver d :: acts)) ?_ ht' ?_ ?_ ?_
      · exact h'.congr rfl rfl rfl rfl
      · exact congrArg Handled.bot hr
      · exact congrArg Handled.sent hr
      · exact congrArg Handled.outcome hr
    | none =>
      have h'' := h'.deliver (fun w hw => chat_ne_of_mem_unfinished ht hw) hd
      refine proceed ?_ (ht.congr rfl rfl rfl)
      exact h''.congr rfl rfl rfl rfl

/-! ## Schedules -/

/-- A turn at a place of the line overtakes no job that has come earlier: jobs come for their locks
in the order in which their texts came. -/
def InOrder (c : Concurrent) (index : Nat) : Prop :=
  ((c.line[index]?).bind Turn.coming?).isSome →
    (c.line.take index).filterMap Turn.coming? = []

instance (c : Concurrent) (index : Nat) : Decidable (c.InOrder index) :=
  inferInstanceAs (Decidable (_ → _))

/-- Turns are taken in any order in which jobs come for their locks in the order in which their
texts came. -/
inductive Scheduled (admins : Admins) (messenger : Messenger) (start : Concurrent) :
    Concurrent → Prop
  | start : Scheduled admins messenger start start
  | turn {c c' : Concurrent} (before : Scheduled admins messenger start c) (index : Nat)
    (order : c.InOrder index) (taken : c.stepAt admins messenger index = some c') :
    Scheduled admins messenger start c'

/-- The jobs of texts that come at the same time. -/
def jobsOf (texts : List Incoming) : List Job := texts.zipIdx.map fun (m, n) => ⟨n, m⟩

/-- Jobs are numbered, so that none comes twice. -/
theorem nodup_jobsOf (texts : List Incoming) : (jobsOf texts).Nodup := by
  refine List.Nodup.of_map Job.number ?_
  have hn : (jobsOf texts).map Job.number = List.range' 0 texts.length := by
    rw [jobsOf, List.map_map, ← List.zipIdx_map_snd 0 texts]
    rfl
  rw [hn]
  exact List.nodup_range'

theorem ofIncoming_eq (b : Bot) (texts : List Incoming) :
    ofIncoming b texts =
      { idle b with created := texts.length, line := (jobsOf texts).map Turn.come } := by
  induction texts using List.reverseRecOn with
  | nil => rfl
  | append_singleton rest m ih =>
    rw [ofIncoming, List.foldl_append, ← ofIncoming, ih]
    simp [arrive, jobsOf, List.zipIdx_append]

/-- What every schedule keeps. -/
structure SerialFrom (admins : Admins) (messenger : Messenger) (b : Bot) (jobs : List Job)
    (c : Concurrent) : Prop where
  -- locks exclude each other
  locked : Locked [] c
  -- the jobs of a chat keep their order
  queue : ∀ chat, c.queueOf chat = jobs.filter (·.chat == chat)
  -- everything is as after handling one after another
  serial : Serial admins messenger b c.unfinished c

/-- At the start nothing has been handled. -/
theorem serialFrom_ofIncoming (b : Bot) (texts : List Incoming) :
    SerialFrom admins messenger b (jobsOf texts) (ofIncoming b texts) := by
  rw [ofIncoming_eq]
  have hnone : ∀ {α : Type} (f : Turn → Option α), (∀ t, f (.come t) = none) →
      ((jobsOf texts).map Turn.come).filterMap f = [] := by
    intro α f hf
    rw [List.filterMap_map, List.filterMap_eq_nil_iff]
    exact fun t _ => hf t
  have hcoming : ((jobsOf texts).map Turn.come).filterMap Turn.coming? = jobsOf texts := by
    rw [List.filterMap_map]
    exact List.filterMap_some
  refine ⟨⟨?_, List.nodup_nil, fun _ h => absurd h List.not_mem_nil⟩, fun chat => ?_, ?_⟩
  · simp [holders, hnone Turn.holder? fun _ => rfl, idle]
  · simp [queueOf, granted, coming, hnone Turn.granted? fun _ => rfl, hcoming, idle]
  · have hu : unfinished
        { idle b with created := texts.length, line := (jobsOf texts).map Turn.come } = [] := by
      simp [unfinished, inFlight, hnone Turn.begun? fun _ => rfl]
    rw [hu]
    exact ⟨.rfl, fun _ h => absurd h List.not_mem_nil, fun _ _ => .rfl,
      fun _ h => absurd h List.not_mem_nil, fun _ h => absurd h List.not_mem_nil,
      fun _ _ => ⟨rfl, rfl⟩, fun _ h => absurd h List.not_mem_nil⟩

/-- A turn that keeps the order of each chat is as handling one after another. -/
theorem SerialFrom.stepAt {jobs : List Job} {c' : Concurrent} {index : Nat}
    (h : SerialFrom admins messenger b jobs c) (hjobs : jobs.Nodup) (horder : c.InOrder index)
    (hc : c.stepAt admins messenger index = some c') :
    SerialFrom admins messenger b jobs c' := by
  obtain ⟨before, turn, after, hl, hlen, rfl⟩ := stepAt_eq_some hc
  have hfirst : turn.coming?.isSome → before.filterMap Turn.coming? = [] := by
    intro hcome
    have hbefore : c.line.take index = before := by rw [hl, ← hlen, List.take_left]
    have hturn : c.line[index]? = some turn := by
      rw [hl, ← hlen, List.getElem?_append_right (Nat.le_refl _), Nat.sub_self]
      rfl
    rw [← hbefore]
    refine horder ?_
    rw [hturn]
    exact hcome
  have hnodup : ∀ chat, (c.queueOf chat).Nodup := fun chat => by
    rw [h.queue]
    exact hjobs.filter _
  refine ⟨h.locked.takeTurn hl, fun chat => ?_, h.serial.takeTurn h.locked hnodup hl⟩
  rw [queueOf_takeTurn h.locked hl hfirst, h.queue]

theorem SerialFrom.of_scheduled {jobs : List Job} {start : Concurrent}
    (h : Scheduled admins messenger start c) (hjobs : jobs.Nodup)
    (hstart : SerialFrom admins messenger b jobs start) : SerialFrom admins messenger b jobs c := by
  induction h with
  | start => exact hstart
  | turn _ index order taken ih => exact ih.stepAt hjobs order taken

/-- Lists that have the same elements of every chat, in the same order, are permutations. -/
private theorem perm_of_filter_chat {l l' : List Job}
    (h : ∀ chat, l.filter (·.chat == chat) = l'.filter (·.chat == chat)) : l.Perm l' := by
  rw [List.perm_iff_count]
  intro t
  have hc : ∀ l : List Job, (l.filter (·.chat == t.chat)).count t = l.count t := fun l =>
    List.count_filter (by simp)
  rw [← hc l, ← hc l', h]

/-- Updates that come at the same time are handled as if one after another. Once no turns are left,
every job has ended; the bot is the one after handling the texts in the order in which their jobs
have got their locks; each job has made the deliveries and has ended once, in the way that handling
in that order gives. That order keeps the order of the jobs of every chat. -/
theorem concurrent_eq_sequential (b : Bot) (updates : List Update) {c : Concurrent}
    (h : Scheduled admins messenger (ofUpdates b updates) c) (hend : c.line = []) :
    c.waiting = [] ∧ c.begun.Perm (jobsOf (updates.filterMap Update.incoming?)) ∧
      (∀ chat, c.begun.filter (·.chat == chat) =
        (jobsOf (updates.filterMap Update.incoming?)).filter (·.chat == chat)) ∧
      c.bot.Same (b.handleAll admins messenger (c.begun.map (·.incoming))).bot ∧
      c.begun.map (fun t => (t, c.sentBy t, c.endsOf t)) =
        (b.handleJobs admins messenger c.begun).map fun e => (e.1, e.2.sent, [e.2.outcome]) := by
  have hinv := SerialFrom.of_scheduled h (nodup_jobsOf _) (serialFrom_ofIncoming b _)
  have hwaiting := hinv.locked.waiting_eq_nil hend
  have hu : c.unfinished = [] := by simp [unfinished, inFlight, hend]
  have hqueue : ∀ chat, c.begun.filter (·.chat == chat) =
      (jobsOf (updates.filterMap Update.incoming?)).filter (·.chat == chat) := by
    intro chat
    rw [← hinv.queue, queueOf, granted, coming, hend, hwaiting]
    simp
  have hserial := hinv.serial
  rw [hu] at hserial
  refine ⟨hwaiting, perm_of_filter_chat hqueue, hqueue, ⟨hserial.registry, fun chat => ?_⟩, ?_⟩
  · exact hserial.free chat fun w hw => absurd hw List.not_mem_nil
  · conv_lhs => rw [← Bot.map_fst_handleJobs admins messenger b c.begun]
    rw [List.map_map]
    refine List.map_congr_left fun e he => ?_
    obtain ⟨hs, ho⟩ := hserial.finished e he fun w hw => absurd hw List.not_mem_nil
    show (e.1, c.sentBy e.1, c.endsOf e.1) = _
    rw [hs, ho]

/-- Two chats that are asked for a code answer at the same time, one of them twice. The delivery to
the second chat fails before the first one is made, and the third text waits for the first. -/
theorem concurrent_eq_sequential_three_texts :
    ∃ c, Scheduled [] (fun d => if d.chat = 2 then some (.failed ⟨"down"⟩) else none)
        (ofUpdates (((Bot.start (.ofKnown [])).await 1).await 2)
          [⟨0, some ⟨0, ⟨1, "private"⟩, none, some "k"⟩⟩,
            ⟨1, some ⟨0, ⟨2, "private"⟩, none, some "k"⟩⟩, ⟨2, none⟩,
            ⟨3, some ⟨1, ⟨1, "private"⟩, none, some "q"⟩⟩]) c ∧
      c.line = [] ∧ c.ended.map (·.1.number) = [1, 0, 2] ∧ c.begun.map (·.number) = [0, 1, 2] ∧
      c.bot.Same ((((Bot.start (.ofKnown [])).await 1).await 2).handleAll []
        (fun d => if d.chat = 2 then some (.failed ⟨"down"⟩) else none)
        (c.begun.map (·.incoming))).bot := by
  have h : Scheduled [] (fun d => if d.chat = 2 then some (.failed ⟨"down"⟩) else none)
      (ofUpdates (((Bot.start (.ofKnown [])).await 1).await 2)
        [⟨0, some ⟨0, ⟨1, "private"⟩, none, some "k"⟩⟩,
          ⟨1, some ⟨0, ⟨2, "private"⟩, none, some "k"⟩⟩, ⟨2, none⟩,
          ⟨3, some ⟨1, ⟨1, "private"⟩, none, some "q"⟩⟩]) _ := .start
  have h := ((h.turn 0 (by decide) rfl).turn 0 (by decide) rfl).turn 0 (by decide) rfl
  have h := ((h.turn 1 (by decide) rfl).turn 0 (by decide) rfl).turn 0 (by decide) rfl
  have h := h.turn 0 (by decide) rfl
  exact ⟨_, h, rfl, rfl, rfl, (concurrent_eq_sequential _ _ h rfl).2.2.2.1⟩

end Concurrent

end ChatRiddles
