/-!
# One value for each chat

A map from chats to values, as a `ChatRegistry` keeps one: at most one value for each chat. Main
statements: what is found in a chat after a value is set or cleared there or in another chat.
-/

namespace ChatRiddles

/-- A value for each of some chats. -/
structure ChatMap (α : Type) where
  entries : List (Int × α)
  distinct : (entries.map (·.1)).Nodup

namespace ChatMap

variable {α : Type}

/-- No values. -/
def empty : ChatMap α := ⟨[], List.nodup_nil⟩

/-- The value of a chat. -/
def get? (m : ChatMap α) (chat : Int) : Option α := m.entries.lookup chat

/-- Whether a chat has a value. -/
def contains (m : ChatMap α) (chat : Int) : Bool := (m.get? chat).isSome

/-- The map without the value of a chat. -/
def clear (m : ChatMap α) (chat : Int) : ChatMap α where
  entries := m.entries.filter (·.1 != chat)
  distinct := m.distinct.sublist (List.filter_sublist.map _)

/-- The map in which a chat has a value, instead of any other it had. -/
def set (m : ChatMap α) (chat : Int) (value : α) : ChatMap α where
  entries := (chat, value) :: (m.clear chat).entries
  distinct := by
    refine List.nodup_cons.mpr ⟨fun h => ?_, (m.clear chat).distinct⟩
    obtain ⟨e, he, hc⟩ := List.mem_map.mp h
    have := (List.mem_filter.mp he).2
    simp only [bne_iff_ne] at this
    exact this hc

/-- The number of chats that have a value. -/
def size (m : ChatMap α) : Nat := m.entries.length

theorem lookup_filter_ne (entries : List (Int × α)) (chat other : Int) :
    (entries.filter (·.1 != chat)).lookup other =
      if other = chat then none else entries.lookup other := by
  induction entries with
  | nil => simp
  | cons e rest ih =>
    obtain ⟨c, v⟩ := e
    by_cases hc : c = chat
    · subst hc
      have hf : ((c, v) :: rest).filter (·.1 != c) = rest.filter (·.1 != c) := by simp
      rw [hf, ih]
      by_cases ho : other = c
      · rw [if_pos ho, if_pos ho]
      · have : (other == c) = false := by simpa using ho
        simp [ho, List.lookup_cons, this]
    · by_cases ho : other = c
      · subst ho
        simp [hc]
      · have : (other == c) = false := by simpa using ho
        simp [hc, List.lookup_cons, this, ih]

/-- Clearing a chat takes away its value, and no other. -/
@[simp] theorem get?_clear (m : ChatMap α) (chat other : Int) :
    (m.clear chat).get? other = if other = chat then none else m.get? other :=
  lookup_filter_ne m.entries chat other

/-- Setting the value of a chat changes no other. -/
@[simp] theorem get?_set (m : ChatMap α) (chat other : Int) (value : α) :
    (m.set chat value).get? other = if other = chat then some value else m.get? other := by
  unfold set get?
  by_cases h : other = chat
  · simp [h]
  · have : (other == chat) = false := by simpa using h
    simp only [List.lookup_cons, this, h, if_false]
    exact (get?_clear m chat other).trans (if_neg h)

@[simp] theorem get?_empty (chat : Int) : (empty : ChatMap α).get? chat = none := rfl

end ChatMap

end ChatRiddles
