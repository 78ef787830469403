import ChatRiddles.Proofs.LockObjects
import ChatRiddles.Proofs.Runs
import Mathlib.Data.List.Find
/-!
# Jobs exclude each other by lock objects

A job asks for the lock of its chat when it comes, and refers to it until it ends. It looks only at
the lock that it gets: if it is held, the job waits for it, and if not, the job acquires it. When a
job ends, in whatever way, it passes its lock on to the first job that waits for the same lock, or
releases it.

The chats that the jobs of `Concurrent` lock are these locks. In every run the jobs do the same with
both; at most one job of a chat holds a lock; the jobs of a chat that hold or wait for a lock refer
to one and the same; and there are as many locks as chats of such jobs.

Main definitions: `Concurrent.Counted` (where each job is), `Guarded` (jobs with locks),
`Guarded.Sound`, `Guarded.Exclusive`. Main statements: `Sound.takeTurn` (one turn) and
`Guarded.exclusive_of_events` (all runs).
-/

namespace ChatRiddles

/-- The job of a turn. -/
def Turn.job : Turn → Job
  | .come t | .granted t | .deliver t _ _ => t

/-- Who holds a lock in a turn is the job of the turn. -/
theorem Turn.job_of_holder {turn : Turn} {t : Job} (h : turn.holder? = some t) : turn.job = t := by
  cases turn with
  | come _ => cases h
  | granted _ => exact Option.some.inj h
  | deliver _ _ _ => exact Option.some.inj h

namespace Concurrent

variable {admins : Admins} {messenger : Messenger} {c c' : Concurrent} {t : Job} {o : Outcome}
  {running : List Job} {before after : List Turn} {turn : Turn}

/-! ## Where the jobs are -/

/-- The holders of locks are in the line. -/
theorem holders_sublist (c : Concurrent) : c.holders.Sublist (c.line.map Turn.job) := by
  unfold Concurrent.holders
  induction c.line with
  | nil => exact .slnil
  | cons turn rest ih =>
    cases turn with
    | come t => exact ih.cons _
    | granted t => exact ih.cons_cons _
    | deliver t d acts => exact ih.cons_cons _

/-- A job that comes holds no lock yet. -/
theorem holders_of_come (hl : c.line = before ++ .come t :: after) :
    Concurrent.holders { c with line := before ++ after } = c.holders := by
  simp [Concurrent.holders, hl, List.filterMap_cons, Turn.holder?]

/-- All jobs: those that take their turn at the moment, those whose turn can come, those that wait
and those that have ended. -/
def everyone (running : List Job) (c : Concurrent) : List Job :=
  running ++ c.line.map Turn.job ++ c.waiting ++ c.ended.map (·.1)

/-- Every job so far is at one place. -/
def Counted (running : List Job) (c : Concurrent) : Prop :=
  ((c.everyone running).map Job.number).Perm (List.range c.created)

namespace Counted

theorem nodup (h : Counted running c) : (c.everyone running).Nodup :=
  List.Nodup.of_map _ (h.nodup_iff.mpr List.nodup_range)

/-- There are as many jobs as have come. -/
theorem length_eq (h : Counted running c) : (c.everyone running).length = c.created := by
  have hlength := List.Perm.length_eq h
  rw [List.length_map, List.length_range] at hlength
  exact hlength

/-- How the jobs are placed does not matter. -/
theorem perm {running' : List Job} (h : Counted running c)
    (hperm : (c'.everyone running').Perm (c.everyone running)) (hcreated : c'.created = c.created) :
    Counted running' c' := by
  rw [Counted, hcreated]
  exact (hperm.map _).trans h

/-- A job that ends is counted among those that have ended. -/
theorem finish (h : Counted [t] c) : Counted [] (c.finish t o) := by
  unfold Concurrent.finish
  simp only
  split
  · rename_i next hnext
    have hwaiting := List.perm_cons_erase (List.mem_of_find?_eq_some hnext)
    refine h.perm (List.perm_iff_count.mpr fun x => ?_) rfl
    have hcount := hwaiting.count_eq x
    simp only [everyone, List.map_append, List.map_cons, List.map_nil, List.count_append,
      List.count_cons, List.count_nil, Turn.job] at hcount ⊢
    omega
  · refine h.perm (List.perm_iff_count.mpr fun x => ?_) rfl
    simp only [everyone, List.map_append, List.map_cons, List.map_nil, List.count_append,
      List.count_cons, List.count_nil]
    omega

/-- A job that goes on is in flight or has ended. -/
theorem proceed {acts : List Act} (h : Counted [t] c) : Counted [] (c.proceed t acts) := by
  induction acts generalizing c with
  | nil => exact h.finish
  | cons a rest ih =>
    cases a with
    | deliver d =>
      refine h.perm (List.perm_iff_count.mpr fun x => ?_) rfl
      simp only [Concurrent.proceed, everyone, List.map_append, List.map_cons, List.map_nil,
        List.count_append, List.count_cons, List.count_nil, Turn.job]
      omega
    | enter s => exact ih h
    | leave => exact ih h
    | note n => exact ih h

theorem beginJob (h : Counted [t] c) : Counted [] (c.beginJob admins t) := by
  have hbegun : Counted [t] { c with begun := c.begun ++ [t] } := h
  unfold Concurrent.beginJob
  split
  · exact hbegun.finish
  · rename_i p _
    have hplanned : Counted [t] { c with bot := p.bot, begun := c.begun ++ [t] } := h
    exact hplanned.proceed

/-- A job whose turn is taken out of the line takes its turn. -/
theorem of_line (h : Counted [] c) (hl : c.line = before ++ turn :: after) :
    Counted [turn.job] { c with line := before ++ after } := by
  refine h.perm (List.perm_iff_count.mpr fun x => ?_) rfl
  simp only [everyone, hl, List.map_append, List.map_cons, List.count_append, List.count_cons,
    List.count_nil]
  omega

theorem wait (h : Counted [t] c) : Counted [] { c with waiting := c.waiting ++ [t] } := by
  refine h.perm (List.perm_iff_count.mpr fun x => ?_) rfl
  simp only [everyone, List.count_append, List.count_nil]
  omega

/-- A turn that is taken has its job running. -/
theorem takeTurn (h : Counted [] c) (hl : c.line = before ++ turn :: after) :
    Counted [] ({ c with line := before ++ after }.takeTurn admins messenger turn) := by
  have ht := h.of_line hl
  cases turn with
  | come t =>
    simp only [Concurrent.takeTurn]
    split
    · exact ht.wait
    · have htaken : Counted [t] { c with line := before ++ after, held := t.chat :: c.held } := ht
      exact htaken.beginJob
  | granted t => exact ht.beginJob
  | deliver t d acts =>
    simp only [Concurrent.takeTurn]
    split
    · rename_i e _
      have hnoted : Counted [t] { c with
          line := before ++ after
          notices := c.notices ++ Bot.failureNotices t.chat e } := ht
      exact hnoted.finish
    · have hmade : Counted [t] { c with
          line := before ++ after, deliveries := c.deliveries ++ [(t, d)] } := ht
      exact hmade.proceed

theorem arrive (h : Counted [] c) (m : Incoming) : Counted [] (c.arrive m) := by
  have hperm : ((c.arrive m).everyone []).Perm (c.everyone [] ++ [⟨c.created, m⟩]) := by
    refine List.perm_iff_count.mpr fun x => ?_
    simp only [everyone, Concurrent.arrive, List.map_append, List.map_cons, List.map_nil,
      List.count_append, Turn.job]
    omega
  have hnumbers := hperm.map Job.number
  rw [List.map_append] at hnumbers
  rw [Counted, Concurrent.arrive, List.range_succ]
  exact hnumbers.trans (List.Perm.append_right _ h)

theorem idle (b : Bot) : Counted [] (Concurrent.idle b) := .nil

end Counted

end Concurrent

/-! ## Jobs with lock objects -/

/-- Jobs, and the locks to which they refer. -/
structure Guarded where
  jobs : Concurrent
  locks : LockObjects Job

namespace Guarded

/-- A bot that nobody has sent a text. -/
def idle (b : Bot) : Guarded := ⟨.idle b, .empty⟩

/-- Ends a job. Its lock is passed on to the first job that waits for it, or is released, and the
job refers to it no more. -/
def finish (g : Guarded) (t : Job) (o : Outcome) : Guarded :=
  let jobs := { g.jobs with ended := g.jobs.ended ++ [(t, o)] }
  match jobs.waiting.find? fun w => g.locks.object? w == g.locks.object? t with
  | some next =>
    ⟨{ jobs with waiting := jobs.waiting.erase next, line := jobs.line ++ [.granted next] },
      g.locks.drop t⟩
  | none => ⟨{ jobs with held := jobs.held.erase t.chat }, (g.locks.release t).drop t⟩

/-- Goes on with the acts of a job up to a delivery. -/
def proceed (g : Guarded) (t : Job) : List Act → Guarded
  | [] => g.finish t .handled
  | .deliver d :: rest =>
    { g with jobs := { g.jobs with line := g.jobs.line ++ [.deliver t d rest] } }
  | a :: rest =>
    { g with
      jobs := { g.jobs with
        bot := g.jobs.bot.settle t.chat a
        notices := g.jobs.notices ++ Bot.noticesOf a } }.proceed t rest

/-- Begins a job that has its lock. -/
def beginJob (admins : Admins) (g : Guarded) (t : Job) : Guarded :=
  match plan admins g.jobs.bot t.incoming with
  | .error e =>
    { g with jobs := { g.jobs with begun := g.jobs.begun ++ [t] } }.finish t (.crashed e)
  | .ok p =>
    { g with jobs := { g.jobs with bot := p.bot, begun := g.jobs.begun ++ [t] } }.proceed t p.acts

/-- Takes a turn. A job that comes asks for the lock of its chat, and looks whether that is held. -/
def takeTurn (admins : Admins) (messenger : Messenger) (g : Guarded) : Turn → Guarded
  | .come t =>
    let locks := g.locks.refer t t.chat
    if locks.isHeld t then ⟨{ g.jobs with waiting := g.jobs.waiting ++ [t] }, locks⟩
    else
      Guarded.beginJob admins ⟨{ g.jobs with held := t.chat :: g.jobs.held }, locks.acquire t⟩ t
  | .granted t => g.beginJob admins t
  | .deliver t d acts =>
    match messenger d with
    | some e =>
      { g with jobs := { g.jobs with
          notices := g.jobs.notices ++ Bot.failureNotices t.chat e } }.finish t
        (.undelivered e)
    | none =>
      { g with jobs := { g.jobs with
          deliveries := g.jobs.deliveries ++ [(t, d)] } }.proceed t acts

variable {admins : Admins} {messenger : Messenger} {g g' : Guarded} {t w : Job} {o : Outcome}
  {running : List Job} {before after : List Turn} {turn : Turn}

/-- The jobs that refer to locks: those that take their turn at the moment, those that hold locks,
and those that wait. -/
def live (running : List Job) (g : Guarded) : List Job :=
  running ++ g.jobs.holders ++ g.jobs.waiting

/-- The chats of jobs stand for their locks. -/
structure Sound (running : List Job) (g : Guarded) : Prop where
  -- each chat has one holder
  locked : Concurrent.Locked running g.jobs
  -- every job is at one place
  counted : Concurrent.Counted running g.jobs
  -- live jobs refer to the locks of their chats, and the same are held
  tells : g.locks.Tells ((g.live running).map fun t => (t, t.chat)) g.jobs.held

namespace Sound

theorem mem_slots (ht : t ∈ g.live running) :
    (t, t.chat) ∈ (g.live running).map fun t => (t, t.chat) :=
  List.mem_map.mpr ⟨t, ht, rfl⟩

theorem running_mem_slots (t : Job) (g : Guarded) :
    (t, t.chat) ∈ (g.live [t]).map fun t => (t, t.chat) :=
  mem_slots (List.mem_append_left _ (List.mem_append_left _ List.mem_cons_self))

theorem nodup_live (h : Sound running g) : (g.live running).Nodup := by
  refine h.counted.nodup.sublist ?_
  refine List.Sublist.trans ?_ (List.sublist_append_left _ _)
  exact ((List.Sublist.refl running).append (Concurrent.holders_sublist g.jobs)).append (.refl _)

/-- The locks and the jobs depend on who stands in the line, who waits and what is held. -/
theorem congr {jobs : Concurrent} (h : Sound running g) (hl : jobs.line = g.jobs.line)
    (hw : jobs.waiting = g.jobs.waiting) (hh : jobs.held = g.jobs.held)
    (he : jobs.ended = g.jobs.ended) (hc : jobs.created = g.jobs.created) :
    Sound running { g with jobs } := by
  refine ⟨h.locked.congr hl hw hh, ?_, ?_⟩
  · rw [Concurrent.Counted, Concurrent.everyone, hl, hw, he, hc]
    exact h.counted
  · have hlive : Guarded.live running { g with jobs } = g.live running := by
      rw [live, live, Concurrent.holders, Concurrent.holders, hl, hw]
    rw [hlive, hh]
    exact h.tells

/-- A job that waits for the lock of another one waits for that of its chat. -/
theorem find?_eq (h : Sound [t] g) :
    (g.jobs.waiting.find? fun w => g.locks.object? w == g.locks.object? t) =
      g.jobs.waiting.find? (·.incoming.chat == t.incoming.chat) := by
  have hsame : ∀ w ∈ g.jobs.waiting,
      (g.locks.object? w == g.locks.object? t) = (w.incoming.chat == t.incoming.chat) := by
    intro w hw
    rw [Bool.eq_iff_iff, beq_iff_eq, beq_iff_eq]
    have hslot := mem_slots (List.mem_append_right ([t] ++ g.jobs.holders) hw)
    exact h.tells.object?_eq_iff hslot (running_mem_slots t g)
  exact List.find?_congr hsame

/-- Without the job that takes its turn, the slots are those of the others. -/
theorem filter_slots (h : Sound [t] g) :
    ((g.live [t]).map fun t => (t, t.chat)).filter (·.1 != t) =
      (g.jobs.holders ++ g.jobs.waiting).map fun t => (t, t.chat) := by
  have hnodup := h.nodup_live
  rw [live, List.append_assoc, List.singleton_append, List.nodup_cons] at hnodup
  rw [live, List.append_assoc, List.singleton_append, List.map_cons,
    List.filter_cons_of_neg (by simp), List.filter_eq_self]
  intro slot hslot
  obtain ⟨w, hw, rfl⟩ := List.mem_map.mp hslot
  rw [bne_iff_ne]
  rintro rfl
  exact hnodup.1 hw

/-- At the end of a job, its lock is passed on or released as its chat is. -/
theorem finish (h : Sound [t] g) (o : Outcome) :
    Sound [] (g.finish t o) ∧ (g.finish t o).jobs = g.jobs.finish t o := by
  have hjobs : (g.finish t o).jobs = g.jobs.finish t o := by
    unfold Guarded.finish Concurrent.finish
    simp only [h.find?_eq]
    cases g.jobs.waiting.find? (·.incoming.chat == t.incoming.chat) with
    | some next => rfl
    | none => rfl
  refine ⟨⟨hjobs ▸ h.locked.finish, hjobs ▸ h.counted.finish, ?_⟩, hjobs⟩
  unfold Guarded.finish
  simp only [h.find?_eq]
  split
  · rename_i next hnext
    have hwaiting := List.perm_cons_erase (List.mem_of_find?_eq_some hnext)
    have htells := h.tells.drop t
    rw [h.filter_slots] at htells
    refine htells.perm (List.Perm.map _ ?_)
    have hholders : Concurrent.holders { g.jobs with
        ended := g.jobs.ended ++ [(t, o)], waiting := g.jobs.waiting.erase next,
        line := g.jobs.line ++ [.granted next] } = g.jobs.holders ++ [next] := by
      simp [Concurrent.holders, Turn.holder?]
    rw [live, hholders, List.nil_append, List.append_assoc]
    exact hwaiting.append_left _
  · have htells := (h.tells.release (running_mem_slots t g)).drop t
    rw [h.filter_slots, ← h.locked.nodup.erase_eq_filter] at htells
    exact htells

/-- Going on with a job keeps the locks sound, and the jobs go on as without locks. -/
theorem proceed {acts : List Act} (h : Sound [t] g) :
    Sound [] (g.proceed t acts) ∧ (g.proceed t acts).jobs = g.jobs.proceed t acts := by
  induction acts generalizing g with
  | nil => exact h.finish _
  | cons a rest ih =>
    cases a with
    | deliver d =>
      have hlocked : Concurrent.Locked [] (g.jobs.proceed t (.deliver d :: rest)) :=
        h.locked.proceed
      have hcounted : Concurrent.Counted [] (g.jobs.proceed t (.deliver d :: rest)) :=
        h.counted.proceed
      refine ⟨⟨hlocked, hcounted, ?_⟩, rfl⟩
      refine h.tells.perm (List.Perm.map _ ?_)
      have hholders : (g.proceed t (.deliver d :: rest)).jobs.holders = g.jobs.holders ++ [t] := by
        simp [Guarded.proceed, Concurrent.holders, Turn.holder?]
      rw [live, live, hholders, List.nil_append]
      exact List.perm_append_comm.append_right _
    | enter s => exact ih (h.congr rfl rfl rfl rfl rfl)
    | leave => exact ih (h.congr rfl rfl rfl rfl rfl)
    | note n => exact ih (h.congr rfl rfl rfl rfl rfl)

theorem beginJob (h : Sound [t] g) :
    Sound [] (g.beginJob admins t) ∧ (g.beginJob admins t).jobs = g.jobs.beginJob admins t := by
  unfold Guarded.beginJob Concurrent.beginJob
  cases plan admins g.jobs.bot t.incoming with
  | error e =>
    have hbegun : Sound [t] { g with jobs := { g.jobs with begun := g.jobs.begun ++ [t] } } :=
      h.congr rfl rfl rfl rfl rfl
    exact hbegun.finish _
  | ok p =>
    have hbegun : Sound [t] { g with jobs := { g.jobs with
        bot := p.bot, begun := g.jobs.begun ++ [t] } } := h.congr rfl rfl rfl rfl rfl
    exact hbegun.proceed

/-- The state without a turn, which is being taken. -/
theorem of_line (h : Sound [] g) (hl : g.jobs.line = before ++ turn :: after)
    (ht : turn.holder? = some t) :
    Sound [t] { g with jobs := { g.jobs with line := before ++ after } } := by
  have hcounted := h.counted.of_line hl
  rw [Turn.job_of_holder ht] at hcounted
  refine ⟨h.locked.of_line hl ht, hcounted, ?_⟩
  refine h.tells.perm (List.Perm.map _ ?_)
  rw [live, live, List.nil_append]
  refine List.Perm.append_right _ ?_
  rw [Concurrent.holders, Concurrent.holders, hl]
  simp only [List.filterMap_append, List.filterMap_cons, ht]
  exact List.perm_middle

/-- A job that comes has been in the line only, so that it refers to no lock yet. -/
theorem not_mem_of_come (h : Sound [] g) (hl : g.jobs.line = before ++ .come t :: after) :
    t ∉ g.jobs.holders ++ g.jobs.waiting := by
  have hnodup := (h.counted.of_line hl).nodup
  rw [Concurrent.everyone, Turn.job, List.append_assoc, List.append_assoc,
    List.singleton_append, List.nodup_cons] at hnodup
  rw [← Concurrent.holders_of_come hl]
  intro hmem
  apply hnodup.1
  rcases List.mem_append.mp hmem with hmem | hmem
  · exact List.mem_append_left _ ((Concurrent.holders_sublist _).subset hmem)
  · exact List.mem_append_right _ (List.mem_append_left _ hmem)

/-- A job that comes asks for a lock; it is held if and only if the chat is. -/
theorem come (h : Sound [] g) (hl : g.jobs.line = before ++ .come t :: after) :
    (g.locks.refer t t.chat).Tells
        ((t :: (g.jobs.holders ++ g.jobs.waiting)).map fun t => (t, t.chat)) g.jobs.held ∧
      ((g.locks.refer t t.chat).isHeld t = g.jobs.held.contains t.incoming.chat) := by
  have hlive : g.live [] = g.jobs.holders ++ g.jobs.waiting := rfl
  have htells := h.tells
  rw [hlive] at htells
  have hslots : t ∉ ((g.jobs.holders ++ g.jobs.waiting).map fun t => (t, t.chat)).map (·.1) := by
    rw [List.map_map]
    intro hmem
    obtain ⟨w, hw, rfl⟩ := List.mem_map.mp hmem
    exact h.not_mem_of_come hl hw
  have hheld : ∀ chat ∈ g.jobs.held,
      chat ∈ ((g.jobs.holders ++ g.jobs.waiting).map fun t => (t, t.chat)).map (·.2) := by
    intro chat hchat
    obtain ⟨w, hw, rfl⟩ := List.mem_map.mp (h.locked.holders.mem_iff.mpr hchat)
    rw [List.map_map]
    exact List.mem_map.mpr ⟨w, List.mem_append_left _ hw, rfl⟩
  have hrefer := htells.refer hslots hheld t.chat
  refine ⟨hrefer, ?_⟩
  rw [Bool.eq_iff_iff, List.contains_iff_mem]
  exact hrefer.isHeld_iff List.mem_cons_self

/-- A job that comes waits for its lock, or acquires it, as it does with its chat. -/
theorem takeTurn_come (h : Sound [] g) (admins : Admins) (messenger : Messenger)
    (hl : g.jobs.line = before ++ .come t :: after) :
    let rest : Guarded := { g with jobs := { g.jobs with line := before ++ after } }
    Sound [] (rest.takeTurn admins messenger (.come t)) ∧
      (rest.takeTurn admins messenger (.come t)).jobs =
        rest.jobs.takeTurn admins messenger (.come t) := by
  intro rest
  obtain ⟨htells, hisHeld⟩ := h.come hl
  have hcounted : Concurrent.Counted [t] rest.jobs := h.counted.of_line hl
  have hholders : rest.jobs.holders = g.jobs.holders := Concurrent.holders_of_come hl
  have hheld : (rest.locks.refer t t.chat).isHeld t = rest.jobs.held.contains t.incoming.chat :=
    hisHeld
  simp only [Guarded.takeTurn, Concurrent.takeTurn, hheld]
  by_cases hc : rest.jobs.held.contains t.incoming.chat = true
  · rw [if_pos hc, if_pos hc]
    have hlocked : Concurrent.Locked [] (rest.jobs.takeTurn admins messenger (.come t)) :=
      h.locked.takeTurn hl
    simp only [Concurrent.takeTurn] at hlocked
    rw [if_pos hc] at hlocked
    refine ⟨⟨hlocked, hcounted.wait, ?_⟩, rfl⟩
    refine htells.perm (List.Perm.map _ ?_)
    show (t :: (g.jobs.holders ++ g.jobs.waiting)).Perm
      ([] ++ rest.jobs.holders ++ (g.jobs.waiting ++ [t]))
    rw [hholders, List.nil_append, ← List.append_assoc]
    exact (List.perm_append_singleton _ _).symm
  · rw [if_neg hc, if_neg hc]
    have hfree : t.chat ∉ g.jobs.held := fun hmem => hc (List.contains_iff_mem.mpr hmem)
    have htaken : Sound [t] ⟨{ rest.jobs with held := t.chat :: rest.jobs.held },
        (rest.locks.refer t t.chat).acquire t⟩ := by
      refine ⟨h.locked.take hl hfree, hcounted, ?_⟩
      have hacquired := htells.acquire List.mem_cons_self
      show LockObjects.Tells _ (([t] ++ rest.jobs.holders ++ rest.jobs.waiting).map _) _
      rw [hholders]
      exact hacquired
    exact htaken.beginJob

/-- Every turn does the same with locks as with their chats. -/
theorem takeTurn (h : Sound [] g) (admins : Admins) (messenger : Messenger)
    (hl : g.jobs.line = before ++ turn :: after) :
    let rest : Guarded := { g with jobs := { g.jobs with line := before ++ after } }
    Sound [] (rest.takeTurn admins messenger turn) ∧
      (rest.takeTurn admins messenger turn).jobs =
        rest.jobs.takeTurn admins messenger turn := by
  intro rest
  cases turn with
  | come t => exact h.takeTurn_come admins messenger hl
  | granted t => exact (h.of_line hl rfl).beginJob
  | deliver t d acts =>
    have ht : Sound [t] rest := h.of_line hl rfl
    simp only [Guarded.takeTurn, Concurrent.takeTurn]
    cases messenger d with
    | some e =>
      have hnoted : Sound [t] { rest with jobs := { rest.jobs with
          notices := rest.jobs.notices ++ Bot.failureNotices t.chat e } } :=
        ht.congr rfl rfl rfl rfl rfl
      exact hnoted.finish _
    | none =>
      have hmade : Sound [t] { rest with jobs := { rest.jobs with
          deliveries := rest.jobs.deliveries ++ [(t, d)] } } := ht.congr rfl rfl rfl rfl rfl
      exact hmade.proceed

theorem idle (b : Bot) : Sound [] (Guarded.idle b) :=
  ⟨.idle b, .idle b, LockObjects.tells_empty⟩

/-- A job that comes refers to no lock yet. -/
theorem arrive (h : Sound [] g) (m : Incoming) :
    Sound [] { g with jobs := g.jobs.arrive m } := by
  refine ⟨h.locked.arrive m, h.counted.arrive m, ?_⟩
  have hholders : (g.jobs.arrive m).holders = g.jobs.holders := by
    simp [Concurrent.holders, Concurrent.arrive, Turn.holder?]
  have hlive : live [] { g with jobs := g.jobs.arrive m } = g.live [] := by
    rw [live, live, hholders]
    rfl
  rw [hlive]
  exact h.tells

end Sound

end Guarded

/-! ## All runs -/

namespace Concurrent

/-- What may happen to jobs. -/
inductive Event where
  | happening (what : Happening)
  -- the job whose turn is at a place of the line breaks off at its delivery, in any way
  | breakOff (index : Nat) (o : Outcome)

/-- The state after an event; `none` if it cannot happen. -/
def event? (admins : Admins) (c : Concurrent) : Event → Option Concurrent
  | .happening what => c.happen? admins what
  | .breakOff index o =>
    match c.line[index]? with
    | some (.deliver t _ _) => some ({ c with line := c.line.eraseIdx index }.finish t o)
    | _ => none

end Concurrent

namespace Guarded

open Concurrent (Event)

/-- The state without the turn at a place of the line. -/
def withoutTurn (g : Guarded) (index : Nat) : Guarded :=
  { g with jobs := { g.jobs with line := g.jobs.line.eraseIdx index } }

/-- The state after an event; `none` if it cannot happen. Riddles are registered and removed without
locks. -/
def event? (admins : Admins) (g : Guarded) : Event → Option Guarded
  | .happening (.turn index messenger) =>
    (g.jobs.line[index]?).map ((g.withoutTurn index).takeTurn admins messenger)
  | .happening what => (g.jobs.happen? admins what).map fun jobs => { g with jobs }
  | .breakOff index o =>
    match g.jobs.line[index]? with
    | some (.deliver t _ _) => some ((g.withoutTurn index).finish t o)
    | _ => none

variable {g g' : Guarded}

/-- The places before and behind a turn. -/
theorem exists_line {index : Nat} {turn : Turn} (h : g.jobs.line[index]? = some turn) :
    ∃ before after, g.jobs.line = before ++ turn :: after ∧
      g.withoutTurn index = { g with jobs := { g.jobs with line := before ++ after } } := by
  obtain ⟨hi, rfl⟩ := List.getElem?_eq_some_iff.mp h
  refine ⟨g.jobs.line.take index, g.jobs.line.drop (index + 1), ?_, ?_⟩
  · rw [← List.drop_eq_getElem_cons hi, List.take_append_drop]
  · rw [withoutTurn, List.eraseIdx_eq_take_drop_succ]

/-- Where only the bot changes, or a text comes, the locks stay. -/
theorem Sound.map_jobs {x : Option Concurrent}
    (hx : ∀ jobs, x = some jobs → Sound [] { g with jobs }) :
    ((x.map fun jobs => { g with jobs }).map fun g : Guarded => g.jobs) = x ∧
      ∀ g', (x.map fun jobs => { g with jobs }) = some g' → Sound [] g' := by
  cases x with
  | none => exact ⟨rfl, fun g' hg => absurd hg.symm (Option.some_ne_none g')⟩
  | some jobs =>
    refine ⟨rfl, fun g' hg => ?_⟩
    rw [← Option.some.inj hg]
    exact hx jobs rfl

/-- Every event does the same with locks as with their chats. -/
theorem Sound.event (h : Sound [] g) (admins : Admins) (what : Event) :
    (g.event? admins what).map (·.jobs) = g.jobs.event? admins what ∧
      ∀ g', g.event? admins what = some g' → Sound [] g' := by
  have hnone : ∀ g', (none : Option Guarded) = some g' → Sound [] g' :=
    fun g' hg => absurd hg.symm (Option.some_ne_none g')
  cases what with
  | breakOff index o =>
    simp only [event?, Concurrent.event?]
    cases hturn : g.jobs.line[index]? with
    | none => exact ⟨rfl, hnone⟩
    | some turn =>
      cases turn with
      | come t => exact ⟨rfl, hnone⟩
      | granted t => exact ⟨rfl, hnone⟩
      | deliver t d acts =>
        obtain ⟨before, after, hl, hrest⟩ := exists_line hturn
        have ht : Sound [t] (g.withoutTurn index) := hrest ▸ h.of_line hl rfl
        obtain ⟨hsound, hjobs⟩ := ht.finish o
        refine ⟨congrArg some hjobs, fun g' hg => ?_⟩
        rw [← Option.some.inj hg]
        exact hsound
  | happening what =>
    cases what with
    | text m =>
      simp only [event?, Concurrent.event?]
      refine map_jobs fun jobs hjobs => ?_
      rw [← Option.some.inj hjobs]
      exact h.arrive m
    | turn index messenger =>
      simp only [event?, Concurrent.event?, Concurrent.happen?, Concurrent.stepAt]
      cases hturn : g.jobs.line[index]? with
      | none => exact ⟨rfl, hnone⟩
      | some turn =>
        obtain ⟨before, after, hl, hrest⟩ := exists_line hturn
        obtain ⟨hsound, hjobs⟩ := h.takeTurn admins messenger hl
        rw [← hrest] at hsound hjobs
        refine ⟨congrArg some hjobs, fun g' hg => ?_⟩
        rw [← Option.some.inj hg]
        exact hsound
    | register code name description creator document =>
      simp only [event?, Concurrent.event?]
      refine map_jobs fun jobs hjobs => ?_
      simp only [Concurrent.happen?] at hjobs
      split at hjobs
      · cases hjobs
      · split at hjobs
        · cases hjobs
        · cases hjobs
          exact h.congr rfl rfl rfl rfl rfl
    | remove code =>
      simp only [event?, Concurrent.event?]
      refine map_jobs fun jobs hjobs => ?_
      obtain ⟨bot, -, rfl⟩ := Option.map_eq_some_iff.mp hjobs
      exact h.congr rfl rfl rfl rfl rfl

/-- So do events in a row. -/
theorem Sound.events (h : Sound [] g) (admins : Admins) (whats : List Event) :
    (whats.foldlM (event? admins) g).map (·.jobs) =
        whats.foldlM (Concurrent.event? admins) g.jobs ∧
      ∀ g', whats.foldlM (event? admins) g = some g' → Sound [] g' := by
  induction whats generalizing g with
  | nil =>
    refine ⟨rfl, fun g' hg => ?_⟩
    rw [← Option.some.inj hg]
    exact h
  | cons what rest ih =>
    obtain ⟨hjobs, hsound⟩ := h.event admins what
    rw [List.foldlM_cons, List.foldlM_cons, ← hjobs]
    cases hnext : g.event? admins what with
    | none => exact ⟨rfl, fun g' hg => absurd hg.symm (Option.some_ne_none g')⟩
    | some next => exact ih (hsound next hnext)

/-- What holds of jobs and their locks at any time. -/
structure Exclusive (g : Guarded) : Prop where
  -- at most one job of a chat holds a lock
  alone : (g.jobs.holders.map Job.chat).Nodup
  -- the locks that are held are those of the jobs that hold one
  held : ∀ object, object ∈ g.locks.held ↔ ∃ t ∈ g.jobs.holders, g.locks.object? t = some object
  -- a job refers to a lock if and only if it holds one or waits for one
  refers : ∀ t, (g.locks.object? t).isSome = true ↔ t ∈ g.jobs.holders ++ g.jobs.waiting
  -- jobs refer to one lock if and only if they are jobs of one chat
  shared : ∀ t ∈ g.jobs.holders ++ g.jobs.waiting, ∀ w ∈ g.jobs.holders ++ g.jobs.waiting,
    (g.locks.object? t = g.locks.object? w ↔ t.chat = w.chat)
  -- there are as many locks as chats with jobs that hold or wait for a lock
  size : g.locks.size = ((g.jobs.holders ++ g.jobs.waiting).map Job.chat).dedup.length
  -- there are as many locks as chats that are locked
  locked : g.locks.size = g.jobs.held.length
  -- once all jobs have ended, there is no lock
  gone : g.jobs.ended.length = g.jobs.created → g.locks.size = 0

/-- The locks that are held are those of the jobs that hold one. -/
theorem Sound.mem_held_iff (h : Sound [] g) {object : Nat} :
    object ∈ g.locks.held ↔ ∃ t ∈ g.jobs.holders, g.locks.object? t = some object := by
  have hholders : (g.jobs.holders.map Job.chat).Perm g.jobs.held := h.locked.holders
  have hslot : ∀ t ∈ g.jobs.holders, (t, t.chat) ∈ (g.live []).map fun t => (t, t.chat) :=
    fun t ht => mem_slots (List.mem_append_left _ ht)
  constructor
  · intro hobject
    obtain ⟨r, hr, rfl⟩ := h.tells.used object hobject
    have hchat : r.chat ∈ g.jobs.held := (h.tells.held r hr).mp hobject
    -- the chat is locked by a job, whose lock is that of the chat
    obtain ⟨w, hw, hsame⟩ := List.mem_map.mp (hholders.mem_iff.mpr hchat)
    obtain ⟨r', hr', rfl, hchat'⟩ := h.tells.exists_reference (hslot w hw)
    refine ⟨r'.holder, hw, ?_⟩
    rw [h.tells.sound.object?_eq hr', Option.some_inj]
    exact (h.tells.sound.object_eq_iff hr' hr).mpr (hchat'.trans hsame)
  · rintro ⟨w, hw, hobject⟩
    have hchat : w.chat ∈ g.jobs.held := hholders.mem_iff.mp (List.mem_map_of_mem hw)
    have hheld : g.locks.isHeld w = true := (h.tells.isHeld_iff (hslot w hw)).mpr hchat
    rw [LockObjects.isHeld, hobject, Option.any_some, List.contains_iff_mem] at hheld
    exact hheld

/-- Whoever waits does so for a chat that is locked. -/
theorem Sound.perm_held (h : Sound [] g) :
    ((g.jobs.holders ++ g.jobs.waiting).map Job.chat).dedup.Perm g.jobs.held := by
  have hholders : (g.jobs.holders.map Job.chat).Perm g.jobs.held := h.locked.holders
  rw [List.perm_ext_iff_of_nodup (List.nodup_dedup _) h.locked.nodup]
  intro chat
  rw [List.mem_dedup, List.map_append, List.mem_append, hholders.mem_iff]
  constructor
  · rintro (hheld | hwaiting)
    · exact hheld
    · obtain ⟨w, hw, rfl⟩ := List.mem_map.mp hwaiting
      exact h.locked.waiting w hw
  · exact .inl

/-- Once all jobs have ended, none of them is anywhere else. -/
theorem Sound.live_eq_nil (h : Sound [] g) (hended : g.jobs.ended.length = g.jobs.created) :
    g.jobs.holders ++ g.jobs.waiting = [] := by
  have hcount := h.counted.length_eq
  simp only [Concurrent.everyone, List.length_append, List.length_map, List.length_nil] at hcount
  have hwaiting : g.jobs.waiting = [] := List.eq_nil_of_length_eq_zero (by omega)
  have hline : g.jobs.line = [] := List.eq_nil_of_length_eq_zero (by omega)
  rw [Concurrent.holders, hline, hwaiting]
  rfl

theorem Sound.exclusive (h : Sound [] g) : g.Exclusive := by
  have hsize : g.locks.size = ((g.jobs.holders ++ g.jobs.waiting).map Job.chat).dedup.length := by
    have hslots : (((g.jobs.holders ++ g.jobs.waiting).map fun t => (t, t.chat)).map (·.2)) =
        (g.jobs.holders ++ g.jobs.waiting).map Job.chat := List.map_map
    rw [← hslots]
    exact h.tells.size_eq
  refine ⟨?_, fun _ => h.mem_held_iff, ?_, ?_, hsize, ?_, ?_⟩
  · exact h.locked.holders.nodup_iff.mpr h.locked.nodup
  · intro t
    rw [h.tells.isSome_object?_iff, List.map_map]
    exact Iff.of_eq (congrArg (t ∈ ·) (List.map_id _))
  · intro t ht w hw
    exact h.tells.object?_eq_iff (mem_slots ht) (mem_slots hw)
  · rw [hsize, h.perm_held.length_eq]
  · intro hended
    rw [hsize, h.live_eq_nil hended]
    rfl

/-- However texts come, jobs take turns, deliveries end and jobs break off: jobs that look at lock
objects do the same as jobs that look at locked chats; and at any time the jobs of a chat exclude
each other by one lock object, which no other chat shares, and no lock is left behind. -/
theorem exclusive_of_events (admins : Admins) (b : Bot) (whats : List Event) :
    (whats.foldlM (event? admins) (idle b)).map (·.jobs) =
        whats.foldlM (Concurrent.event? admins) (Concurrent.idle b) ∧
      ∀ g, whats.foldlM (event? admins) (idle b) = some g → g.Exclusive := by
  obtain ⟨hjobs, hsound⟩ := (Sound.idle b).events admins whats
  exact ⟨hjobs, fun g hg => (hsound g hg).exclusive⟩

/-- Two texts come in chat 1 and one in chat 2. The first job of chat 1 breaks off at its delivery
while the second one waits, which then gets the lock. -/
def brokenOff : List Event :=
  [.happening (.text ⟨1, none, "/help"⟩), .happening (.text ⟨1, none, "/help"⟩),
    .happening (.text ⟨2, none, "/help"⟩), .happening (.turn 0 fun _ => none),
    .happening (.turn 0 fun _ => none), .happening (.turn 0 fun _ => none),
    .breakOff 0 (.crashed (.unknownState ⟨"a"⟩))]

/-- At the end chat 1 has a lock with one job, and chat 2 has another one. -/
theorem exclusive_of_events_brokenOff :
    ∃ g, brokenOff.foldlM (event? []) (idle (Bot.start (.ofKnown []))) = some g ∧
      g.Exclusive ∧ g.jobs.holders.map Job.chat = [2, 1] ∧ g.jobs.ended.length = 1 ∧
      g.locks.size = 2 := by
  have hcheck : ((brokenOff.foldlM (event? []) (idle (Bot.start (.ofKnown [])))).any
      fun g => decide (g.jobs.holders.map Job.chat = [2, 1] ∧ g.jobs.ended.length = 1 ∧
        g.locks.size = 2)) = true := by
    decide +kernel
  obtain ⟨g, hg, hcheck⟩ := (Option.any_eq_true _ _).mp hcheck
  exact ⟨g, hg, (exclusive_of_events [] _ brokenOff).2 g hg, of_decide_eq_true hcheck⟩

end Guarded

end ChatRiddles
