import ChatRiddles.Proofs.Polling
import Mathlib.Data.List.TakeWhile
/-!
# What stops a poller

A poller takes the values of a batch one after another. It goes on after a fetch that fails, after
an object that is no update, and after an update whose handling crashes. One thing stops it: a value
that is no object. It looks for the number of an update before it has checked that there is an
update, and only the check is guarded.

Then nothing after that value is taken, and no further fetch is made. All updates before it are
handled nevertheless. So a run is the run over what the poller reaches, and this brings nothing but
objects.

Main definitions: `Fetch.reached` (the fetches that a poller makes, with what it takes from them),
`Poller.obstacle?` (what stops it). Main statements: `Poller.runIn_eq_reached` and
`Poller.stops_iff_noObject`.
-/

namespace ChatRiddles

namespace Json

/-- A value is an object. -/
def isObject : Json → Bool
  | .object _ => true
  | _ => false

theorem isObject_iff {v : Json} : v.isObject = true ↔ ∃ fields, v = .object fields := by
  cases v with
  | object fields => exact ⟨fun _ => ⟨fields, rfl⟩, fun _ => rfl⟩
  | _ =>
    refine ⟨fun h => ?_, fun h => ?_⟩
    · cases h
    · obtain ⟨fields, hv⟩ := h
      cases hv

end Json

/-! ## What a poller reaches -/

namespace Fetch

variable {fetches : List Fetch} {f : Fetch}

/-- A fetch brings nothing but objects. -/
def isOfObjects (f : Fetch) : Bool := f.brings.raw.all Json.isObject

/-- What a poller takes of a fetch: the values up to the first that is no object. -/
def readable (f : Fetch) : Fetch :=
  match f.brings with
  | .updates raw => ⟨f.waits, .updates (raw.takeWhile Json.isObject)⟩
  | .failed _ => f

/-- The fetches that a poller makes, with what it takes from them. The first that brings something
else than objects is the last. -/
def reached : List Fetch → List Fetch
  | [] => []
  | f :: rest => if f.isOfObjects then f :: reached rest else [f.readable]

/-- The readable part of a fetch goes up to the first item that is no object. -/
theorem raw_readable (f : Fetch) :
    f.readable.brings.raw = f.brings.raw.takeWhile Json.isObject := by
  obtain ⟨waits, brings⟩ := f
  cases brings with
  | updates raw => rfl
  | failed e => rfl

/-- Fetches are of objects if all their items are. -/
theorem ofObjects_iff : OfObjects fetches ↔ ∀ raw ∈ rawOf fetches, raw.isObject = true :=
  forall₂_congr fun _ _ => Json.isObject_iff.symm

/-- What a poller reaches brings the values up to the first that is no object. -/
theorem rawOf_reached (fetches : List Fetch) :
    rawOf (reached fetches) = (rawOf fetches).takeWhile Json.isObject := by
  induction fetches with
  | nil => rfl
  | cons f rest ih =>
    have hcons : ∀ others, rawOf (f :: others) = f.brings.raw ++ rawOf others := fun _ => rfl
    rw [reached, hcons rest]
    by_cases hf : f.isOfObjects = true
    · have hall : ∀ raw ∈ f.brings.raw, raw.isObject = true := List.all_eq_true.mp hf
      rw [if_pos hf, hcons, ih, List.takeWhile_append_of_pos hall]
    · -- the value that stops the poller is among those of the first fetch
      have hshort : (f.brings.raw.takeWhile Json.isObject).length ≠ f.brings.raw.length := by
        intro hlength
        have htake : f.brings.raw.takeWhile Json.isObject = f.brings.raw :=
          (List.takeWhile_prefix _).eq_of_length hlength
        exact hf (List.all_eq_true.mpr (List.takeWhile_eq_self_iff.mp htake))
      rw [if_neg hf, rawOf_singleton, raw_readable, List.takeWhile_append, if_neg hshort]

theorem ofObjects_reached (fetches : List Fetch) : OfObjects (reached fetches) := by
  rw [ofObjects_iff, rawOf_reached]
  intro raw hraw
  exact List.mem_takeWhile_imp hraw

/-- A poller makes the fetches up to the first that brings something else than objects. -/
theorem length_reached (fetches : List Fetch) :
    (reached fetches).length =
      min fetches.length ((fetches.takeWhile isOfObjects).length + 1) := by
  induction fetches with
  | nil => rfl
  | cons f rest ih =>
    rw [reached, List.takeWhile_cons, List.length_cons]
    by_cases hf : f.isOfObjects = true
    · rw [if_pos hf, if_pos hf, List.length_cons, List.length_cons, ih]
      omega
    · rw [if_neg hf, if_neg hf, List.length_singleton, List.length_nil]
      omega

end Fetch

namespace Poller

variable {admins : Admins} {course : Course} {p : Poller}

/-- What stops a poller, if anything does: the first value that is no object. -/
def obstacle? (raws : List Json) : Option NoObject :=
  (raws.find? fun raw => !raw.isObject).map fun raw => ⟨raw.kindName⟩

/-- The first obstacle is in the first part, or else in the second. -/
theorem obstacle?_append (raws others : List Json) :
    obstacle? (raws ++ others) = (obstacle? raws).or (obstacle? others) := by
  rw [obstacle?, List.find?_append, Option.map_or]
  rfl

/-- There is no obstacle exactly if all items are objects. -/
theorem obstacle?_eq_none_iff {raws : List Json} :
    obstacle? raws = none ↔ ∀ raw ∈ raws, raw.isObject = true := by
  rw [obstacle?, Option.map_eq_none_iff, List.find?_eq_none]
  simp

/-! ## One value, one fetch, all fetches -/

/-- A value that is no object is not taken. -/
theorem accept_noObject {v : Json} (h : ¬ v.isObject = true) :
    p.accept v = .error ⟨v.kindName⟩ := by
  cases v with
  | object fields => exact absurd rfl h
  | _ => rfl

/-- From a batch the values up to the first that is no object are taken, and this one stops the
poller. -/
theorem acceptAll_eq_readable (p : Poller) (raws : List Json) :
    p.acceptAll raws = ((p.acceptAll (raws.takeWhile Json.isObject)).1, obstacle? raws) := by
  induction raws generalizing p with
  | nil => rfl
  | cons raw rest ih =>
    by_cases hraw : raw.isObject = true
    · obtain ⟨fields, rfl⟩ := Json.isObject_iff.mp hraw
      obtain ⟨p', hp', -⟩ := p.accept_object fields
      have hobstacle : obstacle? (.object fields :: rest) = obstacle? rest := rfl
      rw [List.takeWhile_cons_of_pos hraw, hobstacle]
      simp only [acceptAll, hp']
      exact ih p'
    · have hobstacle : obstacle? (raw :: rest) = some ⟨raw.kindName⟩ := by
        rw [obstacle?, List.find?_cons_of_pos (by simpa using hraw)]
        rfl
      rw [List.takeWhile_cons_of_neg hraw, hobstacle]
      simp only [acceptAll, accept_noObject hraw]

/-- A fetch does what its readable part does, and then meets the obstacle. -/
theorem fetch_eq_readable (p : Poller) (f : Fetch) :
    p.fetch admins course f =
      ((p.fetch admins course f.readable).1, obstacle? f.brings.raw) := by
  obtain ⟨waits, brings⟩ := f
  cases brings with
  | updates raw => exact acceptAll_eq_readable _ raw
  | failed e => rfl

/-- A run through fetches is the run through those that are reached. -/
theorem fetchAll_eq_reached (p : Poller) (fetches : List Fetch) :
    p.fetchAll admins course fetches =
      ((p.fetchAll admins course (Fetch.reached fetches)).1,
        obstacle? (Fetch.rawOf fetches)) := by
  induction fetches generalizing p with
  | nil => rfl
  | cons f rest ih =>
    have hraws : obstacle? (Fetch.rawOf (f :: rest)) =
        (obstacle? f.brings.raw).or (obstacle? (Fetch.rawOf rest)) :=
      obstacle?_append f.brings.raw (Fetch.rawOf rest)
    rw [Fetch.reached, hraws]
    by_cases hf : f.isOfObjects = true
    · have hnone : obstacle? f.brings.raw = none :=
        obstacle?_eq_none_iff.mpr (List.all_eq_true.mp hf)
      have hfetch : p.fetch admins course f = ((p.fetch admins course f).1, none) := by
        rw [← hnone, fetch_eq_readable]
      rw [if_pos hf, hnone, Option.none_or, fetchAll, fetchAll, hfetch]
      exact ih _
    · -- the fetch stops the poller: what it takes of the fetch goes well
      have hsome : obstacle? f.brings.raw ≠ none := fun hnone =>
        hf (List.all_eq_true.mpr (obstacle?_eq_none_iff.mp hnone))
      obtain ⟨e, he⟩ := Option.ne_none_iff_exists'.mp hsome
      have hreadable : ∀ raw ∈ f.readable.brings.raw, ∃ fields, raw = .object fields := by
        intro raw hraw
        rw [Fetch.raw_readable] at hraw
        exact Json.isObject_iff.mp (List.mem_takeWhile_imp hraw)
      obtain ⟨p', hp', -⟩ := @fetch_objects admins course p f.readable hreadable
      rw [if_neg hf, he, Option.some_or, fetchAll, fetch_eq_readable, he, hp', fetchAll, hp']
      rfl

theorem runIn_eq_reached (p : Poller) (fetches : List Fetch) :
    p.runIn admins course fetches =
      ((p.runIn admins course (Fetch.reached fetches)).1,
        obstacle? (Fetch.rawOf fetches)) := by
  rw [runIn, runIn, fetchAll_eq_reached]

/-- A run ends early if and only if it is brought a value that is no object, and then this value is
the reason. Whatever fetches fail, whatever deliveries fail and whatever crashes: the updates before
that value are accepted and handled, each once and in order, and a fetch is made for each there is
up to the one that brings that value. -/
theorem stops_iff_noObject (admins : Admins) (course : Course) (b : Bot) (fetches : List Fetch) :
    let run := (ofBot b).runIn admins course fetches
    let updates := ((Fetch.rawOf fetches).takeWhile Json.isObject).filterMap Update.ofRaw?
    let done := b.handleUpdates admins course updates
    (run.2 = none ↔ Fetch.OfObjects fetches) ∧ run.2 = obstacle? (Fetch.rawOf fetches) ∧
      run.1.accepted = updates ∧ run.1.handled = updates.length ∧
      run.1.bot = done.bot ∧ run.1.sent = done.sent ∧
      run.1.asked.length =
        min fetches.length ((fetches.takeWhile Fetch.isOfObjects).length + 1) ∧
      run.1.pauses = (Fetch.reached fetches).countP Fetch.fails := by
  intro run updates done
  obtain ⟨p, hp, hafter, hhandled⟩ :=
    runIn_objects admins course b (Fetch.ofObjects_reached fetches)
  have hrun : run = (p, obstacle? (Fetch.rawOf fetches)) := by
    show (ofBot b).runIn admins course fetches = _
    rw [runIn_eq_reached, hp]
  have haccepted : p.accepted = updates := by
    rw [hafter.accepted, Fetch.rawOf_reached]
  have hdone : p.HasDone done := by
    have hfollows := hafter.follows.done
    rwa [hhandled, List.take_length, haccepted] at hfollows
  have hasked : p.asked.length = (Fetch.reached fetches).length := by
    rw [hafter.asked, List.length_map, List.length_range]
  rw [hrun]
  refine ⟨?_, rfl, haccepted, ?_, hdone.bot, hdone.sent, ?_, hafter.pauses⟩
  · rw [obstacle?_eq_none_iff, Fetch.ofObjects_iff]
  · rw [hhandled, haccepted]
  · rw [hasked, Fetch.length_reached]

/-- A batch brings an update, a number and one more update, and the service would go on answering.
The number stops the poller: the second update is never accepted, and no second fetch is made. -/
theorem stops_at_number :
    let fetches : List Fetch :=
      [⟨false, .updates [numbered (.int 7), .int 5, numbered (.int 8)]⟩, ⟨false, .updates []⟩]
    let run := (ofBot (Bot.start (.ofKnown []))).runIn [] (.always fun _ => none) fetches
    ((Fetch.rawOf fetches).filterMap Update.ofRaw?).map (·.id) = [7, 8] ∧ run.2 = some ⟨"int"⟩ ∧
      run.1.accepted.map (·.id) = [7] ∧ run.1.asked = [none] := by
  decide +kernel

end Poller

end ChatRiddles
