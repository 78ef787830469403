import ChatRiddles.Bot.Concurrent
import Mathlib.Data.List.Perm.Basic
/-!
# Jobs and the locks of their chats

A job holds the lock of its chat from the moment the lock is passed to it until it ends. No two jobs
hold the lock of one chat, and a job waits only while another one holds the lock of its chat. The
lock is passed on in the order in which jobs came, so that the order of the jobs of a chat is kept
from their coming to their beginning.

Main definitions: `Concurrent.Locked` (who holds locks), `Concurrent.queueOf` (the jobs of a chat in
the order in which they begin). Main statements: `Locked.takeTurn`, `queueOf_takeTurn` (both are
kept by every turn).
-/

namespace ChatRiddles

/-- The chat of a job. -/
abbrev Job.chat (t : Job) : Int := t.incoming.chat

namespace Turn

/-- The job that comes for a lock in a turn. -/
def coming? : Turn → Option Job
  | .come t => some t
  | _ => none

/-- The job to which a lock has been passed on, in a turn. -/
def granted? : Turn → Option Job
  | .granted t => some t
  | _ => none

/-- The job that holds a lock before its turn. -/
def holder? : Turn → Option Job
  | .come _ => none
  | .granted t | .deliver t _ _ => some t

/-- The job that has begun before a turn, with the acts that are left for it. -/
def begun? : Turn → Option (Job × List Act)
  | .deliver t d acts => some (t, .deliver d :: acts)
  | _ => none

end Turn

namespace Concurrent

variable {admins : Admins} {messenger : Messenger} {c c' : Concurrent} {t : Job} {o : Outcome}

/-- The jobs that come for locks, in order. -/
def coming (c : Concurrent) : List Job := c.line.filterMap Turn.coming?

/-- The jobs to which locks have been passed on and that have not begun. -/
def granted (c : Concurrent) : List Job := c.line.filterMap Turn.granted?

/-- The jobs that hold locks. -/
def holders (c : Concurrent) : List Job := c.line.filterMap Turn.holder?

/-- The jobs that have begun and not ended, with the acts that are left for them. -/
def inFlight (c : Concurrent) : List (Job × List Act) := c.line.filterMap Turn.begun?

/-- Whoever has been granted a lock holds it. -/
theorem mem_holders_of_mem_granted (h : t ∈ c.granted) : t ∈ c.holders := by
  obtain ⟨turn, hm, ht⟩ := List.mem_filterMap.mp h
  refine List.mem_filterMap.mpr ⟨turn, hm, ?_⟩
  cases turn with
  | granted t' => exact ht
  | come t' => cases ht
  | deliver t' d acts => cases ht

theorem mem_holders_of_mem_inFlight {acts : List Act} (h : (t, acts) ∈ c.inFlight) :
    t ∈ c.holders := by
  obtain ⟨turn, hm, ht⟩ := List.mem_filterMap.mp h
  refine List.mem_filterMap.mpr ⟨turn, hm, ?_⟩
  cases turn with
  | deliver t' d acts' =>
    simp only [Turn.begun?, Option.some.injEq, Prod.mk.injEq] at ht
    rw [Turn.holder?, ht.1]
  | come t' => cases ht
  | granted t' => cases ht

/-- The end of a job passes a lock on at most to a job that has not begun. -/
theorem inFlight_finish : (c.finish t o).inFlight = c.inFlight := by
  unfold finish
  simp only
  split
  · simp [inFlight, Turn.begun?]
  · rfl

/-- What a turn of the line is: some turns stand before it and some after it. -/
theorem stepAt_eq_some {index : Nat} (h : c.stepAt admins messenger index = some c') :
    ∃ before turn after, c.line = before ++ turn :: after ∧ before.length = index ∧
      c' = { c with line := before ++ after }.takeTurn admins messenger turn := by
  obtain ⟨turn, ht, rfl⟩ := Option.map_eq_some_iff.mp h
  obtain ⟨hi, rfl⟩ := List.getElem?_eq_some_iff.mp ht
  refine ⟨c.line.take index, c.line[index], c.line.drop (index + 1), ?_, ?_, ?_⟩
  · rw [← List.drop_eq_getElem_cons hi, List.take_append_drop]
  · rw [List.length_take, Nat.min_eq_left (Nat.le_of_lt hi)]
  · rw [List.eraseIdx_eq_take_drop_succ]

/-! ## Mutual exclusion -/

/-- Who holds locks: the jobs that have got one and not ended, among them some that take their turn
at the moment. They are jobs of different chats, and jobs wait only for locks that are held. -/
structure Locked (running : List Job) (c : Concurrent) : Prop where
  holders : ((running ++ c.holders).map Job.chat).Perm c.held
  nodup : c.held.Nodup
  -- jobs wait for locks that are held
  waiting : ∀ t ∈ c.waiting, t.chat ∈ c.held

namespace Locked

/-- The locks depend on who stands in the line, who waits and what is held. -/
theorem congr {running : List Job} (h : Locked running c) (hl : c'.line = c.line)
    (hw : c'.waiting = c.waiting) (hh : c'.held = c.held) : Locked running c' := by
  refine ⟨?_, ?_, ?_⟩
  · rw [Concurrent.holders, hl, hh]
    exact h.holders
  · rw [hh]
    exact h.nodup
  · rw [hw, hh]
    exact h.waiting

/-- The chats of those who hold locks are held. -/
theorem mem_held {running : List Job} (h : Locked running c) (ht : t ∈ c.holders) :
    t.chat ∈ c.held :=
  h.holders.mem_iff.mp (List.mem_map_of_mem (List.mem_append_right running ht))

/-- While a job runs, nobody else holds the lock of its chat. -/
theorem chat_ne_of_running (h : Locked [t] c) {t' : Job} (ht : t' ∈ c.holders) :
    t'.chat ≠ t.chat := by
  have hn : ((t :: c.holders).map Job.chat).Nodup := h.holders.nodup_iff.mpr h.nodup
  rw [List.map_cons, List.nodup_cons] at hn
  intro he
  exact hn.1 (he ▸ List.mem_map_of_mem ht)

/-- A job that ends passes its lock on, or releases it. -/
theorem finish (h : Locked [t] c) : Locked [] (c.finish t o) := by
  unfold Concurrent.finish
  simp only
  split
  · -- the lock passes to the next job, so that the same chats are locked
    rename_i next hf
    have hnext : next.chat = t.chat := by simpa using List.find?_some hf
    refine ⟨?_, h.nodup, fun w hw => h.waiting w (List.mem_of_mem_erase hw)⟩
    have hh : Concurrent.holders { c with
        ended := c.ended ++ [(t, o)], waiting := c.waiting.erase next,
        line := c.line ++ [.granted next] } = c.holders ++ [next] := by
      simp [Concurrent.holders, Turn.holder?]
    rw [List.nil_append, hh, List.map_append, List.map_singleton, hnext]
    exact (List.perm_append_singleton _ _).trans h.holders
  · -- nobody waits for the lock, so that it is free
    rename_i hf
    refine ⟨?_, h.nodup.erase _, fun w hw => ?_⟩
    · exact (List.cons_perm_iff_perm_erase.mp h.holders).2
    · have hne : w.chat ≠ t.chat := by simpa using List.find?_eq_none.mp hf w hw
      exact (List.mem_erase_of_ne hne).mpr (h.waiting w hw)

/-- Going on with a job keeps the locks exclusive. -/
theorem proceed {acts : List Act} (h : Locked [t] c) : Locked [] (c.proceed t acts) := by
  induction acts generalizing c with
  | nil => exact h.finish
  | cons a rest ih =>
    cases a with
    | deliver d =>
      refine ⟨?_, h.nodup, h.waiting⟩
      have hh : Concurrent.holders { c with line := c.line ++ [Turn.deliver t d rest] } =
          c.holders ++ [t] := by
        simp [Concurrent.holders, Turn.holder?]
      show ((Concurrent.holders { c with line := c.line ++ [Turn.deliver t d rest] }).map
        Job.chat).Perm c.held
      rw [hh, List.map_append, List.map_singleton]
      exact (List.perm_append_singleton _ _).trans h.holders
    | enter s => exact ih (h.congr rfl rfl rfl)
    | leave => exact ih (h.congr rfl rfl rfl)
    | note n => exact ih (h.congr rfl rfl rfl)

theorem beginJob (h : Locked [t] c) : Locked [] (c.beginJob admins t) := by
  unfold Concurrent.beginJob
  split
  · exact finish (h.congr rfl rfl rfl)
  · exact proceed (h.congr rfl rfl rfl)

/-- A holder whose turn is taken out of the line. -/
theorem of_line {before after : List Turn} {turn : Turn} (h : Locked [] c)
    (hl : c.line = before ++ turn :: after) (ht : turn.holder? = some t) :
    Locked [t] { c with line := before ++ after } := by
  refine ⟨?_, h.nodup, h.waiting⟩
  refine List.Perm.trans ?_ h.holders
  rw [List.nil_append, List.singleton_append, Concurrent.holders, Concurrent.holders, hl]
  simp only [List.filterMap_append, List.filterMap_cons, ht, List.map_append, List.map_cons]
  exact List.perm_middle.symm

/-- A job that comes holds no lock. -/
theorem of_line_come {before after : List Turn} (h : Locked [] c)
    (hl : c.line = before ++ .come t :: after) : Locked [] { c with line := before ++ after } := by
  refine ⟨?_, h.nodup, h.waiting⟩
  refine List.Perm.trans ?_ h.holders
  rw [Concurrent.holders, Concurrent.holders, hl]
  simp [List.filterMap_cons, Turn.holder?]

/-- A job that comes takes a lock that is free. -/
theorem take {before after : List Turn} (h : Locked [] c)
    (hl : c.line = before ++ .come t :: after) (hfree : t.chat ∉ c.held) :
    Locked [t] { c with line := before ++ after, held := t.chat :: c.held } := by
  have h' := h.of_line_come hl
  refine ⟨h'.holders.cons t.chat, List.nodup_cons.mpr ⟨hfree, h.nodup⟩, fun w hw => ?_⟩
  exact List.mem_cons_of_mem _ (h.waiting w hw)

/-- Every turn keeps the locks. -/
theorem takeTurn {before after : List Turn} {turn : Turn} (h : Locked [] c)
    (hl : c.line = before ++ turn :: after) :
    Locked [] ({ c with line := before ++ after }.takeTurn admins messenger turn) := by
  cases turn with
  | come t =>
    have h' := h.of_line_come hl
    simp only [Concurrent.takeTurn]
    split
    · rename_i hc
      refine ⟨h'.holders, h'.nodup, fun w hw => ?_⟩
      rcases List.mem_append.mp hw with hw | hw
      · exact h.waiting w hw
      · rw [List.mem_singleton.mp hw]
        simpa using hc
    · rename_i hc
      exact (h.take hl (by simpa using hc)).beginJob
  | granted t => exact (h.of_line hl rfl).beginJob
  | deliver t d acts =>
    have ht : Locked [t] { c with line := before ++ after } := h.of_line hl rfl
    simp only [Concurrent.takeTurn]
    split
    · exact finish (ht.congr rfl rfl rfl)
    · exact proceed (ht.congr rfl rfl rfl)

theorem idle (b : Bot) : Locked [] (Concurrent.idle b) :=
  ⟨.nil, List.nodup_nil, fun _ h => absurd h List.not_mem_nil⟩

theorem arrive (h : Locked [] c) (m : Incoming) : Locked [] (c.arrive m) := by
  refine ⟨?_, h.nodup, h.waiting⟩
  have hh : (c.arrive m).holders = c.holders := by
    simp [Concurrent.holders, Concurrent.arrive, Turn.holder?]
  rw [hh]
  exact h.holders

/-- Once there are no turns left, nobody waits. -/
theorem waiting_eq_nil (h : Locked [] c) (hl : c.line = []) : c.waiting = [] := by
  have hheld : c.held = [] := by
    have hp := h.holders
    rw [Concurrent.holders, hl] at hp
    exact List.nil_perm.mp hp
  rw [List.eq_nil_iff_forall_not_mem]
  intro w hw
  have hm := h.waiting w hw
  rw [hheld] at hm
  exact List.not_mem_nil hm

end Locked

/-! ## The order of the jobs of a chat -/

/-- The jobs of a chat, in the order in which they have begun and will begin: those that have begun,
the one to which the lock has been passed on, those that wait for it, those that come for it. -/
def queueOf (c : Concurrent) (chat : Int) : List Job :=
  (c.begun ++ c.granted ++ c.waiting ++ c.coming).filter (·.chat == chat)

/-- The first element that satisfies a predicate stands first among all that do. -/
private theorem filter_eq_cons_of_find? {α : Type} [DecidableEq α] {p : α → Bool} {l : List α}
    {a : α} (h : l.find? p = some a) : l.filter p = a :: (l.erase a).filter p := by
  obtain ⟨hp, before, after, rfl, hb⟩ := List.find?_eq_some_iff_append.mp h
  have hbefore : before.filter p = [] := List.filter_eq_nil_iff.mpr fun x hx => by
    simpa using hb x hx
  have hnot : a ∉ before := fun hm => by
    have := hb a hm
    rw [hp] at this
    exact absurd this (by decide)
  rw [List.erase_append_right _ hnot, List.erase_cons_head, List.filter_append, List.filter_append,
    List.filter_cons_of_pos hp, hbefore, List.nil_append, List.nil_append]

/-- Erasing an element that does not satisfy a predicate keeps all that do. -/
private theorem filter_erase_of_neg {α : Type} [DecidableEq α] {p : α → Bool} {l : List α} {a : α}
    (h : p a = false) : (l.erase a).filter p = l.filter p := by
  by_cases hm : a ∈ l
  · obtain ⟨before, after, -, rfl, he⟩ := List.exists_erase_eq hm
    rw [he, List.filter_append, List.filter_append, List.filter_cons_of_neg (by simp [h])]
  · rw [List.erase_of_not_mem hm]

/-- While a job runs, no lock of its chat is on its way to another job. -/
theorem filter_granted_eq_nil (h : Locked [t] c) : c.granted.filter (·.chat == t.chat) = [] :=
  List.filter_eq_nil_iff.mpr fun _ hw => by
    simpa using h.chat_ne_of_running (mem_holders_of_mem_granted hw)

/-- A lock that is not held is not on its way to a job either. -/
theorem filter_granted_eq_nil_of_free {chat : Int} (h : Locked [] c) (hf : chat ∉ c.held) :
    c.granted.filter (·.chat == chat) = [] :=
  List.filter_eq_nil_iff.mpr fun _ hw he =>
    hf ((beq_iff_eq.mp he) ▸ h.mem_held (mem_holders_of_mem_granted hw))

theorem filter_waiting_eq_nil_of_free {chat : Int} (h : Locked [] c) (hf : chat ∉ c.held) :
    c.waiting.filter (·.chat == chat) = [] :=
  List.filter_eq_nil_iff.mpr fun _ hw he => hf ((beq_iff_eq.mp he) ▸ h.waiting _ hw)

/-- The end of a job does not change the order of the jobs of a chat. -/
theorem queueOf_finish (h : Locked [t] c) (chat : Int) :
    (c.finish t o).queueOf chat = c.queueOf chat := by
  unfold finish
  simp only
  split
  · rename_i next hf
    have hnext : next.chat = t.chat := by simpa using List.find?_some hf
    have hg : granted { c with
        ended := c.ended ++ [(t, o)], waiting := c.waiting.erase next,
        line := c.line ++ [.granted next] } = c.granted ++ [next] := by
      simp [granted, Turn.granted?]
    have hc : coming { c with
        ended := c.ended ++ [(t, o)], waiting := c.waiting.erase next,
        line := c.line ++ [.granted next] } = c.coming := by
      simp [coming, Turn.coming?]
    unfold queueOf
    rw [hg, hc]
    simp only [List.filter_append]
    by_cases hx : t.chat = chat
    · -- the lock goes to the first job of the chat that waits
      subst hx
      rw [filter_eq_cons_of_find? hf, filter_granted_eq_nil h]
      simp [hnext]
    · have hx' : (next.chat == chat) = false := by simpa [hnext] using hx
      have he := filter_erase_of_neg (l := c.waiting) (p := fun w : Job => w.chat == chat) hx'
      rw [he]
      simp [hx']
  · rfl

theorem queueOf_proceed {acts : List Act} (h : Locked [t] c) (chat : Int) :
    (c.proceed t acts).queueOf chat = c.queueOf chat := by
  induction acts generalizing c with
  | nil => exact queueOf_finish h chat
  | cons a rest ih =>
    cases a with
    | deliver d =>
      simp [proceed, queueOf, granted, coming, List.filterMap_cons, Turn.granted?, Turn.coming?]
    | enter s => exact ih (h.congr rfl rfl rfl)
    | leave => exact ih (h.congr rfl rfl rfl)
    | note n => exact ih (h.congr rfl rfl rfl)

theorem queueOf_beginJob (h : Locked [t] c) (chat : Int) :
    (c.beginJob admins t).queueOf chat = { c with begun := c.begun ++ [t] }.queueOf chat := by
  unfold beginJob
  split
  · refine queueOf_finish ?_ chat
    exact h.congr rfl rfl rfl
  · refine (queueOf_proceed ?_ chat).trans rfl
    exact h.congr rfl rfl rfl

/-- A turn keeps the order of the jobs of every chat, if no job comes before another one that has
come earlier. -/
theorem queueOf_takeTurn {before after : List Turn} {turn : Turn} (h : Locked [] c)
    (hl : c.line = before ++ turn :: after)
    (hfirst : turn.coming?.isSome → before.filterMap Turn.coming? = []) (chat : Int) :
    ({ c with line := before ++ after }.takeTurn admins messenger turn).queueOf chat =
      c.queueOf chat := by
  cases turn with
  | come t =>
    have hg : granted { c with line := before ++ after } = c.granted := by
      simp [granted, hl, List.filterMap_cons, Turn.granted?]
    have hc : c.coming = t :: coming { c with line := before ++ after } := by
      simp [coming, hl, Turn.coming?, hfirst rfl]
    simp only [takeTurn]
    split
    · show (c.begun ++ granted { c with line := before ++ after } ++ (c.waiting ++ [t]) ++
        coming { c with line := before ++ after }).filter (·.chat == chat) = _
      rw [hg, queueOf, hc]
      simp
    · rename_i hcon
      have hfree : t.chat ∉ c.held := by simpa using hcon
      rw [queueOf_beginJob (h.take hl hfree)]
      show (c.begun ++ [t] ++ granted { c with line := before ++ after } ++ c.waiting ++
        coming { c with line := before ++ after }).filter (·.chat == chat) = _
      rw [hg, queueOf, hc]
      simp only [List.filter_append]
      by_cases hx : t.chat = chat
      · subst hx
        rw [filter_granted_eq_nil_of_free h hfree, filter_waiting_eq_nil_of_free h hfree]
        simp
      · simp [hx]
  | granted t =>
    have ht : Locked [t] { c with line := before ++ after } := h.of_line hl rfl
    have hg : c.granted = before.filterMap Turn.granted? ++ t :: after.filterMap Turn.granted? := by
      simp [granted, hl, Turn.granted?]
    have hc : coming { c with line := before ++ after } = c.coming := by
      simp [coming, hl, List.filterMap_cons, Turn.coming?]
    simp only [takeTurn]
    rw [queueOf_beginJob ht]
    show (c.begun ++ [t] ++ granted { c with line := before ++ after } ++ c.waiting ++
      coming { c with line := before ++ after }).filter (·.chat == chat) = _
    rw [hc, queueOf, hg]
    have hnone := filter_granted_eq_nil ht
    rw [granted, List.filterMap_append, List.filter_append, List.append_eq_nil_iff] at hnone
    by_cases hx : t.chat = chat
    · subst hx
      simp [granted, hnone.1, hnone.2]
    · simp [granted, hx]
  | deliver t d acts =>
    have ht : Locked [t] { c with line := before ++ after } := h.of_line hl rfl
    have hq : queueOf { c with line := before ++ after } chat = c.queueOf chat := by
      simp [queueOf, granted, coming, hl, List.filterMap_cons, Turn.granted?, Turn.coming?]
    rw [← hq]
    simp only [takeTurn]
    split
    · refine (queueOf_finish ?_ chat).trans rfl
      exact ht.congr rfl rfl rfl
    · refine (queueOf_proceed ?_ chat).trans rfl
      exact ht.congr rfl rfl rfl

end Concurrent

end ChatRiddles
