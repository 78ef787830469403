import ChatRiddles.Proofs.Automaton
/-!
# Failed turns

A turn makes the deliveries of the edge that its text takes, one after another, and the first that
fails ends it. What has been delivered by then stays delivered. The session is written only after
the last delivery, so a failure leaves all sessions as they were, whether the edge moves on, stays
or wins the game; the riddles are only read. The text can then be sent again, and what comes of it
is what would have come of it the first time.

Main definition: `Course.FailsAt`. Main statements: `deliverAllIn_of_failsAt` and
`Play.failed_turn_again`.
-/

namespace ChatRiddles

/-! ## Where deliveries fail -/

/-- Of deliveries in a row, those before a place are made, and the one at the place fails. -/
structure Course.FailsAt (course : Course) (ds : List Delivery) (k : Nat) (e : DeliveryFailure) :
    Prop where
  made : ∀ i (h : i < ds.length), i < k → course i ds[i] = none
  fails : ∃ h : k < ds.length, course k ds[k] = some e

section Deliveries

variable {course : Course} {d : Delivery} {ds : List Delivery} {k : Nat} {e : DeliveryFailure}

/-- Behind a delivery that is made, the place is one nearer. -/
theorem Course.FailsAt.tail (h : course.FailsAt (d :: ds) (k + 1) e) :
    course.next.FailsAt ds k e := by
  obtain ⟨hk, he⟩ := h.fails
  refine ⟨fun i hi hik => ?_, Nat.lt_of_succ_lt_succ hk, he⟩
  exact h.made (i + 1) (Nat.succ_lt_succ hi) (Nat.succ_lt_succ hik)

/-- Deliveries are made up to the place where one fails. -/
theorem deliverAllIn_of_failsAt (h : course.FailsAt ds k e) :
    deliverAllIn course ds = (ds.take k, some e) := by
  induction ds generalizing course k with
  | nil =>
    obtain ⟨hk, -⟩ := h.fails
    exact absurd hk (Nat.not_lt_zero k)
  | cons d rest ih =>
    cases k with
    | zero =>
      obtain ⟨_, he⟩ := h.fails
      exact deliverAllIn_cons_of_some he
    | succ k =>
      have hd : course 0 d = none := h.made 0 (Nat.succ_pos _) (Nat.succ_pos k)
      rw [deliverAllIn_cons_of_none hd, ih h.tail]
      rfl

end Deliveries

namespace Play

variable {catalogue : Catalogue} {sessions : Sessions} {chat : Int} {text : String} {s : Session}
  {r : Riddle} {index : Nat} {edge : Definition.Edge} {course : Course} {k : Nat}
  {e : DeliveryFailure}

/-! ## Turns -/

/-- The move of a text that takes an edge. -/
theorem move_of_edge (hs : sessions.get? chat = some s) (hr : catalogue.get? s.riddle = some r)
    (hedge : Walk.chooseEdge r.definition s.state text = .ok (some (index, edge))) :
    move catalogue sessions chat text =
      .ok ⟨r, { s with state := edge.target s.state }, edge.actions.map (·.delivery chat)⟩ := by
  simp only [move, hs, hr, hedge]

/-- A turn in which a delivery fails leaves the sessions as they are. -/
theorem turnIn_of_failsAt {m : Move} (hm : move catalogue sessions chat text = .ok m)
    (hfails : course.FailsAt m.deliveries k e) :
    turnIn course catalogue sessions chat text =
      ⟨.undelivered e, sessions, m.deliveries.take k⟩ := by
  simp only [turnIn, hm, deliverAllIn_of_failsAt hfails]

/-- A turn in which every delivery is made settles its move. -/
theorem turnIn_reliable {m : Move} (hm : move catalogue sessions chat text = .ok m) :
    turnIn (.always .reliable) catalogue sessions chat text =
      ⟨.settled m, m.settle sessions chat, m.deliveries⟩ := by
  have hall : deliverAllIn (.always .reliable) m.deliveries = (m.deliveries, none) :=
    deliverAll_of_none fun _ _ => rfl
  simp only [turnIn, hm, hall]

/-- Take a chat that plays and a text that takes an edge, whatever the edge leads to. If a delivery
of its actions fails, at any place, then the turn ends with that failure, the deliveries before it
have been made, in order, and no session has changed. If the text is then sent again and everything
is delivered, what comes of it is what would have come of it the first time: all deliveries of the
edge from the first on, the move along the edge, and the session in the state that it leads to, or
none if that is accepting. -/
theorem failed_turn_again (hs : sessions.get? chat = some s)
    (hr : catalogue.get? s.riddle = some r)
    (hedge : Walk.chooseEdge r.definition s.state text = .ok (some (index, edge)))
    (hfails : course.FailsAt (edge.actions.map (·.delivery chat)) k e) :
    let ds := edge.actions.map (·.delivery chat)
    let next : Session := { s with state := edge.target s.state }
    let failed := turnIn course catalogue sessions chat text
    let again := turnIn (.always .reliable) catalogue failed.sessions chat text
    failed.result = .undelivered e ∧ failed.sent = ds.take k ∧ failed.sessions = sessions ∧
      again = turnIn (.always .reliable) catalogue sessions chat text ∧
      again.result = .settled ⟨r, next, ds⟩ ∧ again.sent = ds ∧
      again.sessions =
        if r.definition.isAccepting next.state then sessions.clear chat
        else sessions.set chat next := by
  intro ds next failed again
  have hmove : move catalogue sessions chat text = .ok ⟨r, next, ds⟩ := move_of_edge hs hr hedge
  have hfailed : failed = ⟨.undelivered e, sessions, ds.take k⟩ := turnIn_of_failsAt hmove hfails
  -- the second try finds the sessions of the first
  have hsessions : failed.sessions = sessions := by rw [hfailed]
  have hsame : again = turnIn (.always .reliable) catalogue sessions chat text := by
    show turnIn _ _ failed.sessions _ _ = _
    rw [hsessions]
  have hagain : again =
      ⟨.settled ⟨r, next, ds⟩, Move.settle ⟨r, next, ds⟩ sessions chat, ds⟩ := by
    rw [hsame]
    exact turnIn_reliable hmove
  refine ⟨?_, ?_, hsessions, hsame, ?_, ?_, ?_⟩
  · rw [hfailed]
  · rw [hfailed]
  · rw [hagain]
  · rw [hagain]
  · rw [hagain]
    rfl

/-- A riddle whose edge knocks twice with the same text, tells another chat about it and wins. -/
def knocker : Riddle :=
  ⟨"k", "", "", 7, ⟨"a", ["b"],
    [⟨"a", [⟨.text "knock", [.message "Knock", .message "Knock", .sendTo 9 "Who is there?"],
      some "b"⟩]⟩, ⟨"b", []⟩]⟩⟩

/-- The second of two equal deliveries fails. -/
theorem failed_turn_again_second_knock :
    let catalogue : Catalogue := ⟨[knocker], by decide⟩
    let sessions : Sessions := ChatMap.empty.set 1 ⟨"k", "a"⟩
    let course : Course := fun n _ => if n = 1 then some (.failed ⟨"transport down"⟩) else none
    let failed := turnIn course catalogue sessions 1 "knock"
    let again := turnIn (.always .reliable) catalogue failed.sessions 1 "knock"
    course.FailsAt [⟨1, "Knock"⟩, ⟨1, "Knock"⟩, ⟨9, "Who is there?"⟩] 1
        (.failed ⟨"transport down"⟩) ∧
      failed.result = .undelivered (.failed ⟨"transport down"⟩) ∧ failed.sent = [⟨1, "Knock"⟩] ∧
      failed.sessions.get? 1 = some ⟨"k", "a"⟩ ∧
      again.sent = [⟨1, "Knock"⟩, ⟨1, "Knock"⟩, ⟨9, "Who is there?"⟩] ∧
      again.sessions.get? 1 = none := by
  intro catalogue sessions course failed again
  have hfails : course.FailsAt [⟨1, "Knock"⟩, ⟨1, "Knock"⟩, ⟨9, "Who is there?"⟩] 1
      (.failed ⟨"transport down"⟩) := ⟨by decide, by decide⟩
  have hedge : Walk.chooseEdge knocker.definition "a" "knock" =
      .ok (some (0, ⟨.text "knock",
        [.message "Knock", .message "Knock", .sendTo 9 "Who is there?"], some "b"⟩)) := rfl
  obtain ⟨hresult, hsent, hsessions, -, -, hagain, hleft⟩ :=
    @failed_turn_again catalogue sessions 1 "knock" ⟨"k", "a"⟩ knocker 0 _ course 1
      (.failed ⟨"transport down"⟩) rfl rfl hedge hfails
  refine ⟨hfails, hresult, hsent, ?_, hagain, ?_⟩
  · rw [hsessions]
    rfl
  · rw [hleft]
    rfl

end Play

end ChatRiddles
