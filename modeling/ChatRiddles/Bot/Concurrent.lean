import ChatRiddles.Bot.Handling
/-!
# Handling texts at the same time

Every text is handled by a job of its own, a call of `handle_update`, and jobs take turns. In its
turn a job goes on up to its next delivery, and there it makes way for the others; the delivery is
made at the beginning of its next turn. A delivery that does not keep its job waiting is one whose
turn comes at once, and a slow one is one whose turn comes late. A job begins when it gets the lock
of its chat, which `ChatLocks` keeps. If another job has the lock, the job waits until the lock is
passed on to it; locks are passed on in the order in which jobs came.

The jobs whose turn can come stand in a line, and turns are taken in that order. Other orders are
runs of the same machine, by `stepAt`.
-/

namespace ChatRiddles

/-- A job: a text to be handled, with a number that tells it from the others. -/
structure Job where
  number : Nat
  incoming : Incoming
  deriving DecidableEq, Repr

/-- A job whose turn can come. -/
inductive Turn where
  | come (t : Job)
  -- the lock of its chat has been passed on to the job
  | granted (t : Job)
  -- the job has the lock and makes a delivery, and other acts follow
  | deliver (t : Job) (d : Delivery) (acts : List Act)
  deriving DecidableEq, Repr

/-- Whether a turn is one of a job that has not begun. -/
def Turn.isOutset : Turn → Bool
  | .come _ | .granted _ => true
  | .deliver _ _ _ => false

/-- The acts that are left for a job that has begun. -/
def Turn.acts : Turn → List Act
  | .come _ | .granted _ => []
  | .deliver _ d acts => .deliver d :: acts

/-- Jobs, and what has come of them. -/
structure Concurrent where
  bot : Bot
  created : Nat
  -- the jobs whose turn can come, in order
  line : List Turn
  -- the jobs that wait for the locks of their chats, in the order in which they came
  waiting : List Job
  held : List Int
  -- the jobs that have got the locks of their chats, in the order in which they did
  begun : List Job
  -- the deliveries that have been made, with the jobs that made them
  deliveries : List (Job × Delivery)
  notices : List Notice
  -- how jobs have ended, in the order in which they did
  ended : List (Job × Outcome)

namespace Concurrent

/-- A bot that nobody has sent a text. -/
def idle (b : Bot) : Concurrent := ⟨b, 0, [], [], [], [], [], [], []⟩

/-- A text comes, with a job of its own. -/
def arrive (c : Concurrent) (m : Incoming) : Concurrent :=
  { c with created := c.created + 1, line := c.line ++ [.come ⟨c.created, m⟩] }

/-- Texts that come at the same time, in order. -/
def ofIncoming (b : Bot) (texts : List Incoming) : Concurrent := texts.foldl arrive (idle b)

/-- Updates that come at the same time, in order. An update without a text is done at once. -/
def ofUpdates (b : Bot) (updates : List Update) : Concurrent :=
  ofIncoming b (updates.filterMap Update.incoming?)

/-- The deliveries that have been made. -/
def sent (c : Concurrent) : List Delivery := c.deliveries.map (·.2)

/-- The deliveries that a job has made. -/
def sentBy (c : Concurrent) (t : Job) : List Delivery :=
  (c.deliveries.filter (·.1 == t)).map (·.2)

/-- How a job has ended: one outcome if it has, none if it has not. -/
def endsOf (c : Concurrent) (t : Job) : List Outcome := (c.ended.filter (·.1 == t)).map (·.2)

/-- Ends a job. The lock of its chat is passed on to the first job that waits for it, or is free. -/
def finish (c : Concurrent) (t : Job) (o : Outcome) : Concurrent :=
  let chat := t.incoming.chat
  let c := { c with ended := c.ended ++ [(t, o)] }
  match c.waiting.find? (·.incoming.chat == chat) with
  | some next => { c with waiting := c.waiting.erase next, line := c.line ++ [.granted next] }
  | none => { c with held := c.held.erase chat }

/-- Goes on with the acts of a job up to a delivery. -/
def proceed (c : Concurrent) (t : Job) : List Act → Concurrent
  | [] => c.finish t .handled
  | .deliver d :: rest => { c with line := c.line ++ [.deliver t d rest] }
  | a :: rest =>
    { c with
      bot := c.bot.settle t.incoming.chat a
      notices := c.notices ++ Bot.noticesOf a }.proceed t rest

/-- Begins a job that has the lock of its chat. -/
def beginJob (admins : Admins) (c : Concurrent) (t : Job) : Concurrent :=
  match plan admins c.bot t.incoming with
  | .error e => { c with begun := c.begun ++ [t] }.finish t (.crashed e)
  | .ok p => { c with bot := p.bot, begun := c.begun ++ [t] }.proceed t p.acts

/-- Takes a turn. -/
def takeTurn (admins : Admins) (messenger : Messenger) (c : Concurrent) : Turn → Concurrent
  | .come t =>
    let chat := t.incoming.chat
    if c.held.contains chat then { c with waiting := c.waiting ++ [t] }
    else { c with held := chat :: c.held }.beginJob admins t
  | .granted t => c.beginJob admins t
  | .deliver t d acts =>
    match messenger d with
    | some e =>
      { c with notices := c.notices ++ Bot.failureNotices t.incoming.chat e }.finish t
        (.undelivered e)
    | none => { c with deliveries := c.deliveries ++ [(t, d)] }.proceed t acts

/-- Takes the turn at a place of the line; `none` if there is none. -/
def stepAt (admins : Admins) (messenger : Messenger) (c : Concurrent) (index : Nat) :
    Option Concurrent :=
  (c.line[index]?).map fun turn =>
    { c with line := c.line.eraseIdx index }.takeTurn admins messenger turn

/-! ## All turns

Every turn begins a job, or does acts of a job that has begun, or sends a job that has come to wait.
-/

/-- The number of jobs that have not begun. -/
def outset (c : Concurrent) : Nat := c.line.countP Turn.isOutset + c.waiting.length

/-- The number of acts that are left for jobs that have begun. -/
def work (c : Concurrent) : Nat := (c.line.flatMap Turn.acts).length

/-- Ending a job changes nothing for those that have not begun. -/
theorem outset_finish (c : Concurrent) (t : Job) (o : Outcome) :
    (c.finish t o).outset = c.outset := by
  unfold finish outset
  simp only
  split
  · rename_i next h
    have hm : next ∈ c.waiting := List.mem_of_find?_eq_some h
    have hl := List.length_erase_of_mem hm
    have hp : 0 < c.waiting.length := List.length_pos_of_mem hm
    simp [List.countP_append, Turn.isOutset, hl]
    omega
  · rfl

theorem work_finish (c : Concurrent) (t : Job) (o : Outcome) : (c.finish t o).work = c.work := by
  unfold finish work
  simp only
  split <;> simp [Turn.acts]

theorem outset_proceed (c : Concurrent) (t : Job) (acts : List Act) :
    (c.proceed t acts).outset = c.outset := by
  induction acts generalizing c with
  | nil => exact outset_finish c t .handled
  | cons a rest ih =>
    cases a with
    | deliver d => simp [proceed, outset, List.countP_append, Turn.isOutset]
    | _ => exact ih _

/-- Going on with a job adds no more to the line than its acts. -/
theorem work_proceed_le (c : Concurrent) (t : Job) (acts : List Act) :
    (c.proceed t acts).work ≤ c.work + acts.length := by
  induction acts generalizing c with
  | nil => exact Nat.le_of_eq (work_finish c t .handled)
  | cons a rest ih =>
    cases a with
    | deliver d => simp [proceed, work, Turn.acts]
    | _ => exact Nat.le_succ_of_le (ih _)

theorem outset_beginJob (admins : Admins) (c : Concurrent) (t : Job) :
    (c.beginJob admins t).outset = c.outset := by
  unfold beginJob
  split
  · exact outset_finish _ _ _
  · exact outset_proceed _ _ _

/-- The order in which a line gets smaller: jobs that have not begun count most, then the acts that
are left, then the turns. -/
def Smaller (c' c : Concurrent) : Prop :=
  c'.outset < c.outset ∨
    c'.outset = c.outset ∧ (c'.work < c.work ∨ c'.work = c.work ∧ c'.line.length < c.line.length)

theorem smaller_takeTurn (admins : Admins) (messenger : Messenger) {c : Concurrent} {turn : Turn}
    {rest : List Turn} (h : c.line = turn :: rest) :
    Smaller ({ c with line := rest }.takeTurn admins messenger turn) c := by
  have ho : c.outset =
      ({ c with line := rest } : Concurrent).outset + if turn.isOutset then 1 else 0 := by
    simp only [outset, h, List.countP_cons]
    omega
  have hw : c.work = turn.acts.length + ({ c with line := rest } : Concurrent).work := by
    simp [work, h]
  have hl : c.line.length = rest.length + 1 := by simp [h]
  cases turn with
  | come t =>
    simp only [takeTurn]
    split
    · right
      simp only [Turn.isOutset, Turn.acts, List.length_nil, if_true] at ho hw
      refine ⟨?_, .inr ⟨?_, ?_⟩⟩
      · simp only [outset, List.length_append, List.length_singleton] at ho ⊢
        omega
      · rw [hw, Nat.zero_add]
        rfl
      · simp only [hl]
        omega
    · left
      rw [outset_beginJob, ho]
      exact Nat.lt_succ_self _
  | granted t =>
    left
    simp only [takeTurn]
    rw [outset_beginJob, ho]
    exact Nat.lt_succ_self _
  | deliver t d acts =>
    simp only [takeTurn]
    split
    · right
      rw [outset_finish, work_finish, hw]
      exact ⟨ho.symm, .inl (by simp only [work, Turn.acts, List.length_cons]; omega)⟩
    · right
      rw [outset_proceed, hw]
      have hp :=
        work_proceed_le { c with line := rest, deliveries := c.deliveries ++ [(t, d)] } t acts
      exact ⟨ho.symm, .inl (by
        simp only [work, Turn.acts, List.length_cons] at hp ⊢
        omega)⟩

/-- Takes turns in the order of the line until it is empty. -/
def run (admins : Admins) (messenger : Messenger) (c : Concurrent) : Concurrent :=
  match _h : c.line with
  | [] => c
  | turn :: rest => run admins messenger ({ c with line := rest }.takeTurn admins messenger turn)
termination_by (c.outset, c.work, c.line.length)
decreasing_by
  rcases smaller_takeTurn admins messenger _h with h1 | ⟨h1, h2 | ⟨h2, h3⟩⟩
  · exact Prod.Lex.left _ _ h1
  · rw [h1]
    exact Prod.Lex.right _ (Prod.Lex.left _ _ h2)
  · rw [h1, h2]
    exact Prod.Lex.right _ (Prod.Lex.right _ h3)

/-- Handles texts that come at the same time. -/
def handleTogether (admins : Admins) (messenger : Messenger) (b : Bot) (texts : List Incoming) :
    Concurrent :=
  (ofIncoming b texts).run admins messenger

/-- The outcome of the job of a number. -/
def outcomeOf? (c : Concurrent) (number : Nat) : Option Outcome :=
  (c.ended.find? (·.1.number == number)).map (·.2)

end Concurrent

end ChatRiddles
