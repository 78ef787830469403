import ChatRiddles.Riddle.Document
/-!
# Deliveries

A delivery takes a text to a chat. A `Messenger` makes deliveries and may fail, with a
`DeliveryError` or otherwise; whether it fails depends on the delivery alone. In a course of
deliveries it also depends on how many have been tried before. Deliveries in a row are made until
one fails.
-/

namespace ChatRiddles

/-- A text for a chat. -/
structure Delivery where
  chat : Int
  text : String
  deriving DecidableEq, Repr

/-- The error of a delivery, for which those who deliver provide. -/
structure DeliveryError where
  message : String
  deriving DecidableEq, Repr

/-- How a delivery fails: with an error of its own kind, or with any other error. -/
inductive DeliveryFailure where
  | failed (e : DeliveryError)
  | broke (message : String)
  deriving DecidableEq, Repr

/-- How deliveries end: `none` if they are made. -/
abbrev Messenger := Delivery → Option DeliveryFailure

/-- How the deliveries of a text end, by the number of deliveries before them. -/
abbrev Course := Nat → Messenger

/-- The course in which all deliveries end as one messenger has it. -/
def Course.always (messenger : Messenger) : Course := fun _ => messenger

/-- The course after a delivery. -/
def Course.next (course : Course) : Course := fun n => course (n + 1)

/-- The course after a number of deliveries. -/
def Course.after (course : Course) (n : Nat) : Course := fun k => course (n + k)

@[simp] theorem Course.always_zero (messenger : Messenger) :
    Course.always messenger 0 = messenger := rfl

@[simp] theorem Course.next_always (messenger : Messenger) :
    (Course.always messenger).next = Course.always messenger := rfl

@[simp] theorem Course.after_zero (course : Course) : course.after 0 = course := by
  funext k
  exact congrArg course (Nat.zero_add k)

/-- Going past deliveries twice goes past all of them. -/
theorem Course.after_after (course : Course) (m n : Nat) :
    (course.after m).after n = course.after (m + n) := by
  funext k
  exact congrArg course (Nat.add_assoc m n k).symm

/-- The delivery of an action in a chat. -/
def Action.delivery (chat : Int) : Action → Delivery
  | .message text => ⟨chat, text⟩
  | .sendTo other text => ⟨other, text⟩

/-- The deliveries of a course that are made until one fails, and how that one failed. -/
def deliverAllIn (course : Course) : List Delivery → List Delivery × Option DeliveryFailure
  | [] => ([], none)
  | d :: rest =>
    match course 0 d with
    | some e => ([], some e)
    | none =>
      let (made, failure) := deliverAllIn course.next rest
      (d :: made, failure)

/-- The deliveries that are made until one fails, and how that one failed. -/
def deliverAll (messenger : Messenger) (ds : List Delivery) :
    List Delivery × Option DeliveryFailure :=
  deliverAllIn (.always messenger) ds

/-- A delivery that is made is followed by the rest. -/
theorem deliverAllIn_cons_of_none {course : Course} {d : Delivery} {rest : List Delivery}
    (h : course 0 d = none) :
    deliverAllIn course (d :: rest) =
      (d :: (deliverAllIn course.next rest).1, (deliverAllIn course.next rest).2) := by
  simp only [deliverAllIn, h]

/-- Nothing follows a delivery that fails. -/
theorem deliverAllIn_cons_of_some {course : Course} {d : Delivery} {rest : List Delivery}
    {e : DeliveryFailure} (h : course 0 d = some e) :
    deliverAllIn course (d :: rest) = ([], some e) := by
  simp only [deliverAllIn, h]

/-- A messenger that makes all deliveries makes these. -/
theorem deliverAll_of_none {messenger : Messenger} {ds : List Delivery}
    (h : ∀ d ∈ ds, messenger d = none) : deliverAll messenger ds = (ds, none) := by
  unfold deliverAll
  induction ds with
  | nil => rfl
  | cons d rest ih =>
    have hd : Course.always messenger 0 d = none := h d (by simp)
    have hr := ih fun d' hd' => h d' (by simp [hd'])
    rw [deliverAllIn_cons_of_none hd, Course.next_always, hr]

/-- The texts among deliveries, of one chat if it is given. -/
def textsOf (sent : List Delivery) (chat : Option Int) : List String :=
  (sent.filter fun d => chat.all (· == d.chat)).map (·.text)

end ChatRiddles
