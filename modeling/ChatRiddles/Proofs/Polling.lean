import ChatRiddles.Proofs.Checks
import ChatRiddles.Service.Poller
import Mathlib.Data.List.Induction
import Mathlib.Data.List.Nodup
import Mathlib.Data.List.Pairwise
/-!
# What a poller asks for and what it handles

A poller that is brought nothing but objects never stops. It handles, one after another, all values
that are updates, whenever it gets to them: how they come in fetches, where fetches fail and where
the poller has to wait makes no difference.

It asks for the updates after the one whose number it has read last, and it reads numbers only where
they are written plainly, as integers or truth values. So it asks past all that it has accepted if
the last plain number is the greatest of all, and only then.

Main definitions: `Poller.Took` (what taking values changes), `Poller.Follows` (how far a poller has
got with its updates), `Poller.AsksPast`. Main statements: `Poller.fetchAll_objects` (the state
after any fetches) and `Poller.asksPast_iff_lastNumber`.
-/

namespace ChatRiddles

/-- The update that a value is; `none` if it has not the shape of one. -/
def Update.ofRaw? (raw : Json) : Option Update := (Update.ofJson raw).toOption

namespace Fetch

/-- Whether a fetch fails. -/
def fails (f : Fetch) : Bool :=
  match f.brings with
  | .failed _ => true
  | .updates _ => false

/-- The updates that a fetch brings. -/
def updates (f : Fetch) : List Update := f.brings.raw.filterMap Update.ofRaw?

/-- All values that fetches bring, in order. -/
def rawOf (fetches : List Fetch) : List Json := fetches.flatMap (·.brings.raw)

/-- Fetches bring nothing but objects. -/
def OfObjects (fetches : List Fetch) : Prop := ∀ raw ∈ rawOf fetches, ∃ fields, raw = .object fields

/-- How a service answers that has been asked for updates from a number on: with updates of that
number or of greater ones, and none of them twice. -/
structure AnswersFrom (offset : Option Int) (f : Fetch) : Prop where
  reached : ∀ u ∈ f.updates, ∀ n ∈ offset, n ≤ u.id
  distinct : (f.updates.map (·.id)).Nodup

instance (offset : Option Int) (f : Fetch) : Decidable (f.AnswersFrom offset) :=
  decidable_of_iff ((∀ u ∈ f.updates, ∀ n ∈ offset, n ≤ u.id) ∧ (f.updates.map (·.id)).Nodup)
    ⟨fun h => ⟨h.1, h.2⟩, fun h => ⟨h.1, h.2⟩⟩

variable {fetches others : List Fetch} {f : Fetch}

/-- The items of fetches are those of the first and then those of the others. -/
theorem rawOf_append : rawOf (fetches ++ others) = rawOf fetches ++ rawOf others :=
  List.flatMap_append

theorem rawOf_singleton : rawOf [f] = f.brings.raw := List.flatMap_singleton _ _

/-- The first of fetches of objects are of objects. -/
theorem OfObjects.left (h : OfObjects (fetches ++ others)) : OfObjects fetches :=
  fun raw hm => h raw (by rw [rawOf_append]; exact List.mem_append_left _ hm)

theorem OfObjects.right (h : OfObjects (fetches ++ others)) : OfObjects others :=
  fun raw hm => h raw (by rw [rawOf_append]; exact List.mem_append_right _ hm)

theorem OfObjects.take (h : OfObjects fetches) (i : Nat) : OfObjects (fetches.take i) := by
  rw [← List.take_append_drop i fetches] at h
  exact h.left

end Fetch

/-- Updates in two parts are handled one part after the other. -/
theorem Bot.handleUpdates_append {admins : Admins} {course : Course} {b : Bot}
    (us vs : List Update) :
    b.handleUpdates admins course (us ++ vs) =
      let first := b.handleUpdates admins course us
      let others := first.bot.handleUpdates admins (course.after first.tried) vs
      ⟨others.bot, first.sent ++ others.sent, first.tried + others.tried,
        first.notices ++ others.notices, first.outcome ++ others.outcome⟩ := by
  induction us generalizing b course with
  | nil => simp [handleUpdates]
  | cons u rest ih =>
    simp only [List.cons_append, handleUpdates, ih, Course.after_after, List.append_assoc,
      Nat.add_assoc]

/-- A last update is handled after the others. -/
theorem Bot.handleUpdates_concat {admins : Admins} {course : Course} {b : Bot}
    (us : List Update) (u : Update) :
    b.handleUpdates admins course (us ++ [u]) =
      let first := b.handleUpdates admins course us
      let last := first.bot.handleUpdateIn admins (course.after first.tried) u
      ⟨last.bot, first.sent ++ last.sent, first.tried + last.tried, first.notices ++ last.notices,
        first.outcome ++ [last.outcome]⟩ := by
  simp only [handleUpdates_append, handleUpdates, List.append_nil, Nat.add_zero]

namespace Poller

variable {admins : Admins} {course : Course} {b : Bot} {p p' p'' : Poller} {u : Update}

/-! ## Taking values -/

/-- The number of an update as a poller reads it, which is where it is written plainly: as an
integer or as a truth value. -/
def plainNumber? : Json → Option Int
  | .object fields => numberOf? ((Json.fieldOf "update_id" fields).getD .null)
  | _ => none

/-- The last number that is written plainly. -/
def lastNumber? (raws : List Json) : Option Int := (raws.filterMap plainNumber?).getLast?

/-- The last number is in the second part, or else in the first. -/
theorem lastNumber?_append (raws others : List Json) :
    lastNumber? (raws ++ others) = (lastNumber? others).or (lastNumber? raws) := by
  rw [lastNumber?, List.filterMap_append, List.getLast?_append]
  rfl

/-- A poller has taken values: it is going to ask for the updates after the last one that is plainly
numbered, and has accepted those that are updates. It has handled none of them, and tried no
delivery. -/
structure Took (raws : List Json) (p p' : Poller) : Prop where
  offset : p'.offset = ((lastNumber? raws).map (· + 1)).or p.offset
  accepted : p'.accepted = p.accepted ++ raws.filterMap Update.ofRaw?
  bot : p'.bot = p.bot
  handled : p'.handled = p.handled
  sent : p'.sent = p.sent
  tried : p'.tried = p.tried
  asked : p'.asked = p.asked
  pauses : p'.pauses = p.pauses

namespace Took

variable {raws others : List Json}

theorem nil (p : Poller) : Took [] p p :=
  ⟨rfl, (List.append_nil _).symm, rfl, rfl, rfl, rfl, rfl, rfl⟩

/-- Taking items one part after another takes them all. -/
theorem append (h : Took raws p p') (h' : Took others p' p'') : Took (raws ++ others) p p'' where
  offset := by
    rw [h'.offset, h.offset, lastNumber?_append, Option.map_or, Option.or_assoc]
  accepted := by
    rw [h'.accepted, h.accepted, List.filterMap_append, List.append_assoc]
  bot := h'.bot.trans h.bot
  handled := h'.handled.trans h.handled
  sent := h'.sent.trans h.sent
  tried := h'.tried.trans h.tried
  asked := h'.asked.trans h.asked
  pauses := h'.pauses.trans h.pauses

end Took

/-- An object moves the offset past its number, if it has one. -/
theorem lastNumber?_object (fields : List (String × Json)) (offset : Option Int) :
    ((lastNumber? [.object fields]).map (· + 1)).or offset =
      ((numberOf? ((Json.fieldOf "update_id" fields).getD .null)).map (· + 1) <|> offset) := by
  have hlast : lastNumber? [.object fields] =
      numberOf? ((Json.fieldOf "update_id" fields).getD .null) := by
    rw [lastNumber?, List.filterMap_cons]
    show _ = plainNumber? (.object fields)
    split
    · rename_i hnone
      rw [hnone]
      rfl
    · rename_i n hn
      rw [hn]
      rfl
  rw [hlast]
  cases numberOf? ((Json.fieldOf "update_id" fields).getD .null) with
  | none => rfl
  | some n => rfl

/-- An object is taken, whether it is an update or not. -/
theorem accept_object (p : Poller) (fields : List (String × Json)) :
    ∃ p', p.accept (.object fields) = .ok p' ∧ Took [.object fields] p p' := by
  have hoffset := (lastNumber?_object fields p.offset).symm
  unfold accept
  cases hu : Update.ofJson (.object fields) with
  | ok u =>
    have hraw : Update.ofRaw? (.object fields) = some u := by rw [Update.ofRaw?, hu]; rfl
    exact ⟨_, rfl, hoffset, by simp [hraw], rfl, rfl, rfl, rfl, rfl, rfl⟩
  | error faults =>
    have hraw : Update.ofRaw? (.object fields) = none := by rw [Update.ofRaw?, hu]; rfl
    exact ⟨_, rfl, hoffset, by simp [hraw], rfl, rfl, rfl, rfl, rfl, rfl⟩

/-- Objects are taken one after another. -/
theorem acceptAll_objects (p : Poller) {raws : List Json}
    (h : ∀ raw ∈ raws, ∃ fields, raw = .object fields) :
    ∃ p', p.acceptAll raws = (p', none) ∧ Took raws p p' := by
  induction raws generalizing p with
  | nil => exact ⟨p, rfl, .nil p⟩
  | cons raw rest ih =>
    obtain ⟨fields, rfl⟩ := h raw List.mem_cons_self
    obtain ⟨p₁, haccept, htook⟩ := p.accept_object fields
    obtain ⟨p₂, hrest, htook'⟩ := ih p₁ fun raw hm => h raw (List.mem_cons_of_mem _ hm)
    refine ⟨p₂, ?_, htook.append htook'⟩
    rw [acceptAll, haccept]
    exact hrest

/-! ## Handling what has been accepted -/

/-- What a poller has done is what comes of handling. -/
structure HasDone {α : Type} (p : Poller) (h : Handled α) : Prop where
  bot : p.bot = h.bot
  sent : p.sent = h.sent
  tried : p.tried = h.tried

/-- How far a poller has got: it has done what handling the first of its updates one after another
does. -/
structure Follows (admins : Admins) (course : Course) (b : Bot) (p : Poller) : Prop where
  -- it has handled some of the updates that it has accepted
  handled : p.handled ≤ p.accepted.length
  done : p.HasDone (b.handleUpdates admins course (p.accepted.take p.handled))

/-- Two pollers have fetched and accepted the same. -/
structure SameIntake (p p' : Poller) : Prop where
  offset : p.offset = p'.offset
  accepted : p.accepted = p'.accepted
  asked : p.asked = p'.asked
  pauses : p.pauses = p'.pauses

theorem SameIntake.trans (h : p.SameIntake p') (h' : p'.SameIntake p'') : p.SameIntake p'' :=
  ⟨h.offset.trans h'.offset, h.accepted.trans h'.accepted, h.asked.trans h'.asked,
    h.pauses.trans h'.pauses⟩

/-- Handling an update changes nothing about the intake. -/
theorem handle_sameIntake (u : Update) : (p.handle admins course u).SameIntake p :=
  ⟨rfl, rfl, rfl, rfl⟩

/-- Handling updates leaves alone what has been fetched. -/
theorem settle_sameIntake : (p.settle admins course).SameIntake p := by
  unfold settle
  generalize p.accepted.drop p.handled = updates
  induction updates generalizing p with
  | nil => exact ⟨rfl, rfl, rfl, rfl⟩
  | cons u rest ih => exact ih.trans (handle_sameIntake u)

/-- One more update that is handled is one more that has been done. -/
theorem HasDone.handle {α : Type} {first : Handled α} (h : p.HasDone first) (u : Update)
    {outcome : α} :
    let last := first.bot.handleUpdateIn admins (course.after first.tried) u
    (p.handle admins course u).HasDone
      ⟨last.bot, first.sent ++ last.sent, first.tried + last.tried, first.notices ++ last.notices,
        outcome⟩ := by
  obtain ⟨hbot, hsent, htried⟩ := h
  have hlast : p.bot.handleUpdateIn admins (course.after p.tried) u =
      first.bot.handleUpdateIn admins (course.after first.tried) u := by
    rw [htried, hbot]
  unfold Poller.handle
  rw [hlast]
  exact ⟨rfl, congrArg (· ++ _) hsent, congrArg (· + _) htried⟩

namespace Follows

/-- A poller that handles its next update follows. -/
theorem handle (h : p.Follows admins course b) (hu : p.accepted[p.handled]? = some u) :
    (p.handle admins course u).Follows admins course b := by
  obtain ⟨hlt, -⟩ := List.getElem?_eq_some_iff.mp hu
  have htake : p.accepted.take (p.handled + 1) = p.accepted.take p.handled ++ [u] := by
    rw [List.take_add_one, hu]
    rfl
  refine ⟨hlt, ?_⟩
  show HasDone _ (b.handleUpdates admins course (p.accepted.take (p.handled + 1)))
  rw [htake, Bot.handleUpdates_concat]
  exact h.done.handle u

/-- Once a poller has handled what it has accepted, it has done what handling all of that one after
another does. -/
theorem settle (h : p.Follows admins course b) :
    (p.settle admins course).Follows admins course b ∧
      (p.settle admins course).handled = p.accepted.length := by
  unfold Poller.settle
  generalize hrest : p.accepted.drop p.handled = rest
  induction rest generalizing p with
  | nil => exact ⟨h, Nat.le_antisymm h.handled (List.drop_eq_nil_iff.mp hrest)⟩
  | cons u rest ih =>
    have hu : p.accepted[p.handled]? = some u := by
      rw [← List.head?_drop, hrest]
      rfl
    have hdrop : p.accepted.drop (p.handled + 1) = rest := by
      rw [← List.tail_drop, hrest]
      rfl
    exact ih (h.handle hu) hdrop

theorem took {raws : List Json} (h : p.Follows admins course b) (htook : Took raws p p') :
    p'.Follows admins course b := by
  have htake : p'.accepted.take p'.handled = p.accepted.take p.handled := by
    rw [htook.accepted, htook.handled, List.take_append_of_le_length h.handled]
  refine ⟨?_, ?_⟩
  · rw [htook.handled, htook.accepted, List.length_append]
    exact Nat.le_add_right_of_le h.handled
  · rw [htake]
    exact ⟨htook.bot.trans h.done.bot, htook.sent.trans h.done.sent,
      htook.tried.trans h.done.tried⟩

theorem congr (h : p.Follows admins course b) (haccepted : p'.accepted = p.accepted)
    (hhandled : p'.handled = p.handled) (hbot : p'.bot = p.bot) (hsent : p'.sent = p.sent)
    (htried : p'.tried = p.tried) :
    p'.Follows admins course b := by
  refine ⟨?_, ?_⟩
  · rw [haccepted, hhandled]
    exact h.handled
  · rw [haccepted, hhandled]
    exact ⟨hbot.trans h.done.bot, hsent.trans h.done.sent, htried.trans h.done.tried⟩

end Follows

/-! ## Fetches -/

/-- What a fetch changes. -/
structure Fetched (admins : Admins) (course : Course) (f : Fetch) (p p' : Poller) : Prop where
  offset : p'.offset = ((lastNumber? f.brings.raw).map (· + 1)).or p.offset
  accepted : p'.accepted = p.accepted ++ f.updates
  asked : p'.asked = p.asked ++ [p.offset]
  pauses : p'.pauses = p.pauses + if f.fails then 1 else 0
  follows : ∀ b, p.Follows admins course b → p'.Follows admins course b

/-- A fetch that brings nothing but objects goes well, or fails and is followed by a pause. -/
theorem fetch_objects (p : Poller) {f : Fetch}
    (h : ∀ raw ∈ f.brings.raw, ∃ fields, raw = .object fields) :
    ∃ p', p.fetch admins course f = (p', none) ∧ Fetched admins course f p p' := by
  obtain ⟨waits, brings⟩ := f
  -- first the poller asks, and handles what there is if it has to wait
  obtain ⟨p₁, hp₁, hintake, hfollows⟩ :
      ∃ p₁, (if waits then p.ask.settle admins course else p.ask) = p₁ ∧ p₁.SameIntake p.ask ∧
        ∀ b, p.Follows admins course b → p₁.Follows admins course b := by
    refine ⟨_, rfl, ?_⟩
    have hask : ∀ b, p.Follows admins course b → p.ask.Follows admins course b :=
      fun b h => h.congr rfl rfl rfl rfl rfl
    cases waits with
    | true => exact ⟨settle_sameIntake, fun b h => (hask b h).settle.1⟩
    | false => exact ⟨⟨rfl, rfl, rfl, rfl⟩, hask⟩
  unfold fetch
  simp only [hp₁]
  cases brings with
  | failed e =>
    have hsettle : ((p₁.pause e).settle admins course).SameIntake (p₁.pause e) := settle_sameIntake
    refine ⟨_, rfl, ?_, ?_, ?_, ?_, fun b h => ?_⟩
    · rw [hsettle.offset]
      exact hintake.offset
    · rw [hsettle.accepted]
      exact hintake.accepted.trans (List.append_nil _).symm
    · rw [hsettle.asked]
      exact hintake.asked
    · rw [hsettle.pauses]
      exact congrArg (· + 1) hintake.pauses
    · have hpause : (p₁.pause e).Follows admins course b :=
        (hfollows b h).congr rfl rfl rfl rfl rfl
      exact hpause.settle.1
  | updates raw =>
    obtain ⟨p₂, hp₂, htook⟩ := p₁.acceptAll_objects h
    refine ⟨p₂, hp₂, ?_, ?_, ?_, ?_, fun b h => (hfollows b h).took htook⟩
    · rw [htook.offset, hintake.offset]
      rfl
    · rw [htook.accepted, hintake.accepted]
      rfl
    · rw [htook.asked, hintake.asked]
      rfl
    · rw [htook.pauses, hintake.pauses]
      rfl

/-- The state of a poller after fetches that began with a bot. -/
structure After (admins : Admins) (course : Course) (b : Bot) (fetches : List Fetch)
    (p : Poller) : Prop where
  offset : p.offset = (lastNumber? (Fetch.rawOf fetches)).map (· + 1)
  accepted : p.accepted = (Fetch.rawOf fetches).filterMap Update.ofRaw?
  -- the fetches: each has asked for what comes after the last plain number before it
  asked : p.asked = (List.range fetches.length).map fun i =>
    (lastNumber? (Fetch.rawOf (fetches.take i))).map (· + 1)
  pauses : p.pauses = fetches.countP Fetch.fails
  follows : p.Follows admins course b

theorem After.start (b : Bot) : After admins course b [] (ofBot b) :=
  ⟨rfl, rfl, rfl, rfl, ⟨Nat.le_refl _, ⟨rfl, rfl, rfl⟩⟩⟩

/-- One more fetch. -/
theorem After.next {fetches : List Fetch} {f : Fetch} (h : After admins course b fetches p)
    (hf : Fetched admins course f p p') : After admins course b (fetches ++ [f]) p' where
  offset := by
    rw [hf.offset, h.offset, Fetch.rawOf_append, Fetch.rawOf_singleton, lastNumber?_append,
      Option.map_or]
  accepted := by
    rw [hf.accepted, h.accepted, Fetch.rawOf_append, Fetch.rawOf_singleton, List.filterMap_append]
    rfl
  asked := by
    -- the fetches before it have asked for what they have asked for
    have htake : ∀ i ∈ List.range fetches.length,
        (lastNumber? (Fetch.rawOf ((fetches ++ [f]).take i))).map (· + 1) =
          (lastNumber? (Fetch.rawOf (fetches.take i))).map (· + 1) := by
      intro i hi
      rw [List.take_append_of_le_length (Nat.le_of_lt (List.mem_range.mp hi))]
    rw [hf.asked, h.asked, h.offset, List.length_append, List.length_singleton, List.range_succ,
      List.map_append, List.map_congr_left htake, List.map_singleton, List.take_left]
  pauses := by
    rw [hf.pauses, h.pauses, List.countP_append, List.countP_singleton]
  follows := hf.follows b h.follows

/-- Fetches are made one part after another, if the first part comes to its end. -/
theorem fetchAll_append {fetches others : List Fetch}
    (h : p.fetchAll admins course fetches = (p', none)) :
    p.fetchAll admins course (fetches ++ others) = p'.fetchAll admins course others := by
  induction fetches generalizing p with
  | nil =>
    obtain rfl := (Prod.mk.inj h).1
    rfl
  | cons f rest ih =>
    rw [fetchAll] at h
    rw [List.cons_append, fetchAll]
    split at h
    · rename_i p₁ hp₁
      exact ih h
    · cases h

/-- Fetches that bring nothing but objects go well, however they are cut and wherever one fails. -/
theorem fetchAll_objects (admins : Admins) (course : Course) (b : Bot) {fetches : List Fetch}
    (h : Fetch.OfObjects fetches) :
    ∃ p, (ofBot b).fetchAll admins course fetches = (p, none) ∧
      After admins course b fetches p := by
  induction fetches using List.reverseRecOn with
  | nil => exact ⟨ofBot b, rfl, .start b⟩
  | append_singleton rest f ih =>
    obtain ⟨p, hp, hafter⟩ := ih h.left
    have hf : ∀ raw ∈ f.brings.raw, ∃ fields, raw = .object fields := by
      intro raw hm
      exact h.right raw (by rwa [Fetch.rawOf_singleton])
    obtain ⟨p', hp', hfetched⟩ := p.fetch_objects hf
    refine ⟨p', ?_, hafter.next hfetched⟩
    rw [fetchAll_append hp, fetchAll, hp']
    rfl

/-- A run is done with its fetches, and with all updates. -/
theorem runIn_objects (admins : Admins) (course : Course) (b : Bot) {fetches : List Fetch}
    (h : Fetch.OfObjects fetches) :
    ∃ p, (ofBot b).runIn admins course fetches = (p, none) ∧ After admins course b fetches p ∧
      p.handled = p.accepted.length := by
  obtain ⟨p, hp, hafter⟩ := fetchAll_objects admins course b h
  have hintake : (p.settle admins course).SameIntake p := settle_sameIntake
  obtain ⟨hfollows, hhandled⟩ := hafter.follows.settle
  refine ⟨p.settle admins course, by rw [runIn, hp], ?_, ?_⟩
  · exact ⟨hintake.offset.trans hafter.offset, hintake.accepted.trans hafter.accepted,
      hintake.asked.trans hafter.asked, hintake.pauses.trans hafter.pauses, hfollows⟩
  · rw [hintake.accepted]
    exact hhandled

/-! ## Asking past what has been accepted -/

/-- The poller before the fetch of a number, the first of which is number zero. -/
def before (admins : Admins) (course : Course) (b : Bot) (fetches : List Fetch) (i : Nat) :
    Poller :=
  ((ofBot b).fetchAll admins course (fetches.take i)).1

/-- A poller asks past what it has accepted: there is a number from which on it asks for updates,
and that is above the numbers of all updates it has accepted. -/
def AsksPast (p : Poller) : Prop := ∀ u ∈ p.accepted, ∃ n ∈ p.offset, u.id < n

instance (p : Poller) : Decidable p.AsksPast :=
  inferInstanceAs (Decidable (∀ u ∈ p.accepted, ∃ n ∈ p.offset, u.id < n))

/-- The poller before a fetch is the one after the fetches before it. -/
theorem before_after (admins : Admins) (course : Course) (b : Bot) {fetches : List Fetch}
    (h : Fetch.OfObjects fetches) (i : Nat) :
    After admins course b (fetches.take i) (before admins course b fetches i) := by
  obtain ⟨p, hp, hafter⟩ := fetchAll_objects admins course b (h.take i)
  rw [before, hp]
  exact hafter

/-- A fetch asks from the number on at which the poller has arrived before it. -/
theorem asked_eq_before {fetches : List Fetch} (h : Fetch.OfObjects fetches) {i : Nat}
    (hi : i < fetches.length) :
    ((ofBot b).runIn admins course fetches).1.asked[i]? =
      some (before admins course b fetches i).offset := by
  obtain ⟨p, hp, hafter, -⟩ := runIn_objects admins course b h
  rw [hp, hafter.asked, (before_after admins course b h i).offset, List.getElem?_map,
    List.getElem?_range hi]
  rfl

/-- A poller asks past what it has accepted exactly if the last number reaches all of it. -/
theorem After.asksPast_iff {fetches : List Fetch} (h : After admins course b fetches p) :
    p.AsksPast ↔ ∀ u ∈ p.accepted, ∃ n ∈ lastNumber? (Fetch.rawOf fetches), u.id ≤ n := by
  unfold AsksPast
  rw [h.offset]
  refine forall₂_congr fun u _ => ?_
  cases lastNumber? (Fetch.rawOf fetches) with
  | none => simp
  | some n =>
    constructor
    · rintro ⟨m, hm, hlt⟩
      cases hm
      exact ⟨n, rfl, Int.lt_add_one_iff.mp hlt⟩
    · rintro ⟨m, hm, hle⟩
      cases hm
      exact ⟨n + 1, rfl, Int.lt_add_one_iff.mpr hle⟩

/-- The updates of fetches in each of which the service has answered from the number on that it was
asked for, if that was past all that had been accepted. -/
theorem nodup_of_asksPast {fetches : List Fetch} (h : Fetch.OfObjects fetches)
    (hfetches : ∀ (i : Nat) (hi : i < fetches.length), (before admins course b fetches i).AsksPast ∧
      fetches[i].AnswersFrom (before admins course b fetches i).offset) :
    (((Fetch.rawOf fetches).filterMap Update.ofRaw?).map (·.id)).Nodup := by
  suffices htake : ∀ i, i ≤ fetches.length →
      (((Fetch.rawOf (fetches.take i)).filterMap Update.ofRaw?).map (·.id)).Nodup by
    have hall := htake fetches.length (Nat.le_refl _)
    rwa [List.take_length] at hall
  intro i hi
  induction i with
  | zero => exact List.nodup_nil
  | succ i ih =>
    obtain ⟨hpast, hanswers⟩ := hfetches i hi
    have hafter := before_after admins course b h i
    rw [← List.take_append_getElem hi, Fetch.rawOf_append, Fetch.rawOf_singleton,
      List.filterMap_append, List.map_append, List.nodup_append]
    refine ⟨ih (Nat.le_of_lt hi), hanswers.distinct, ?_⟩
    -- an update so far has a lower number than the service has been asked for
    intro m hm n hn heq
    obtain ⟨u, hu, rfl⟩ := List.mem_map.mp hm
    obtain ⟨v, hv, rfl⟩ := List.mem_map.mp hn
    rw [← hafter.accepted] at hu
    obtain ⟨offset, hoffset, hlt⟩ := hpast u hu
    have hle := hanswers.reached v hv offset hoffset
    omega

/-- In a run whose fetches bring nothing but objects, a fetch asks past all updates that have been
accepted before it if and only if the number that has last been written plainly is the greatest. If
every fetch does so, and the service answers it from the number on that it asks for, then no update
is accepted twice. -/
theorem asksPast_iff_lastNumber (admins : Admins) (course : Course) (b : Bot)
    {fetches : List Fetch} (h : Fetch.OfObjects fetches) :
    (∀ i, i < fetches.length →
      ((ofBot b).runIn admins course fetches).1.asked[i]? =
          some (before admins course b fetches i).offset ∧
        ((before admins course b fetches i).AsksPast ↔
          ∀ u ∈ (before admins course b fetches i).accepted,
            ∃ n ∈ lastNumber? (Fetch.rawOf (fetches.take i)), u.id ≤ n)) ∧
      ((∀ (i : Nat) (hi : i < fetches.length), (before admins course b fetches i).AsksPast ∧
          fetches[i].AnswersFrom (before admins course b fetches i).offset) →
        (((ofBot b).runIn admins course fetches).1.accepted.map (·.id)).Nodup) := by
  refine ⟨fun i hi => ⟨asked_eq_before h hi, (before_after admins course b h i).asksPast_iff⟩,
    fun hfetches => ?_⟩
  obtain ⟨p, hp, hafter, -⟩ := runIn_objects admins course b h
  rw [hp, hafter.accepted]
  exact nodup_of_asksPast h hfetches

/-- An update that holds nothing but its number. -/
def numbered (n : Json) : Json := .object [("update_id", n)]

theorem ofObjects_numbered {fetches : List Fetch} (numbers : List Json)
    (h : Fetch.rawOf fetches = numbers.map numbered) : Fetch.OfObjects fetches := by
  intro raw hm
  rw [h] at hm
  obtain ⟨n, -, rfl⟩ := List.mem_map.mp hm
  exact ⟨_, rfl⟩

/-- Updates come whose last number is the greatest, though they do not ascend; then a fetch fails,
and then one more update comes. Each is accepted once. -/
theorem asksPast_iff_lastNumber_ascending :
    let fetches : List Fetch :=
      [⟨false, .updates [numbered (.int 7), numbered (.bool true), numbered (.int 8)]⟩,
        ⟨true, .failed ⟨"down"⟩⟩, ⟨false, .updates [numbered (.int 9)]⟩]
    let run := (ofBot (Bot.start (.ofKnown []))).runIn [] (.always fun _ => none) fetches
    Fetch.OfObjects fetches ∧ run.1.asked = [none, some 9, some 9] ∧
      run.1.accepted.map (·.id) = [7, 1, 8, 9] ∧ (run.1.accepted.map (·.id)).Nodup := by
  intro fetches run
  have h : Fetch.OfObjects fetches :=
    ofObjects_numbered [.int 7, .bool true, .int 8, .int 9] rfl
  refine ⟨h, by decide +kernel, by decide +kernel, ?_⟩
  refine (asksPast_iff_lastNumber [] (.always fun _ => none) (Bot.start (.ofKnown []))
    h).2 ?_
  decide +kernel

/-- An update comes before one of a lower number. The next fetch asks for the update of the greater
number again, and the service that answers it brings that update a second time. Nor does a fetch ask
past an update whose number is written as a text. -/
theorem asks_again :
    let course : Course := .always fun _ => none
    let bot := Bot.start (.ofKnown [])
    let descending : List Fetch :=
      [⟨false, .updates [numbered (.int 8), numbered (.int 7)]⟩,
        ⟨false, .updates [numbered (.int 8)]⟩]
    let text : List Fetch :=
      [⟨false, .updates [numbered (.string "7")]⟩, ⟨false, .updates [numbered (.string "7")]⟩]
    (((ofBot bot).runIn [] course descending).1.asked = [none, some 8] ∧
        ((ofBot bot).runIn [] course descending).1.accepted.map (·.id) = [8, 7, 8] ∧
        ¬ (before [] course bot descending 1).AsksPast ∧
        ∀ (i : Nat) (hi : i < descending.length),
          descending[i].AnswersFrom (before [] course bot descending i).offset) ∧
      ((ofBot bot).runIn [] course text).1.asked = [none, none] ∧
        ((ofBot bot).runIn [] course text).1.accepted.map (·.id) = [7, 7] ∧
        ¬ (before [] course bot text 1).AsksPast := by
  intro course bot descending text
  refine ⟨⟨?_, ?_, ?_, ?_⟩, ?_, ?_, ?_⟩
  all_goals decide +kernel

end Poller

end ChatRiddles
