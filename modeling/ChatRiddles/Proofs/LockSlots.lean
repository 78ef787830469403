import Mathlib.Data.List.Induction
import ChatRiddles.Chat.LockTable
import ChatRiddles.Proofs.LockObjects
/-!
# Locks in slots

Slots take the locks of chats and drop them, and locks are acquired and released through slots. With
locks as objects, a slot refers to a lock, and the lock of a chat is gone with the last reference to
it. A table of slots with chats, and of chats that are held, does the same: every call gets the same
answer, and afterwards the chats tell the locks again.

Main definitions: `LockObjects.call`, `LockObjects.Alike`, `LockObjects.after` and
`LockTable.after`. Main statements: `LockObjects.Tells.call` for one call,
`LockObjects.tells_after` for all.
-/

namespace ChatRiddles

/-- Does what is called for, with locks that are objects. -/
def LockObjects.call (l : LockObjects String) : LockCall → LockAnswer × LockObjects String
  | .take slot chat => (.done, (l.drop slot).refer slot chat)
  | .drop slot => (.done, l.drop slot)
  | .acquire slot =>
    if (l.object? slot).isNone then (.empty, l)
    else if l.isHeld slot then (.busy, l)
    else (.acquired, l.acquire slot)
  | .release slot =>
    if (l.object? slot).isNone then (.empty, l)
    else if l.isHeld slot then (.done, l.release slot)
    else (.refused LockTable.notHeldMessage, l)

/-- Objects and the table have done something alike. -/
structure LockObjects.Alike (x : LockAnswer × LockObjects String) (y : LockAnswer × LockTable) :
    Prop where
  answer : x.1 = y.1
  -- the locks are those of the slots and chats in the table
  tells : x.2.Tells y.2.slots y.2.held

/-- The locks after some calls. -/
def LockObjects.after (calls : List LockCall) : LockObjects String :=
  calls.foldl (fun l c => (l.call c).2) .empty

/-- The table after some calls. -/
def LockTable.after (calls : List LockCall) : LockTable :=
  calls.foldl (fun t c => (t.call c).2) .empty

theorem LockObjects.after_concat (calls : List LockCall) (c : LockCall) :
    after (calls ++ [c]) = ((after calls).call c).2 :=
  List.foldl_concat _ _ _ _

theorem LockTable.after_concat (calls : List LockCall) (c : LockCall) :
    after (calls ++ [c]) = ((after calls).call c).2 :=
  List.foldl_concat _ _ _ _

/-! ## What a table does -/

namespace LockTable

variable {t : LockTable} {slot slot' : String} {chat chat' : Int}

/-- A slot that is dropped is emptied, and no other. -/
theorem mem_slots_drop :
    (slot, chat) ∈ (t.drop slot').slots ↔ slot ≠ slot' ∧ (slot, chat) ∈ t.slots := by
  rw [drop, List.mem_filter, bne_iff_ne, and_comm]

/-- Where a lock is dropped, those that are left in another slot stay held. -/
theorem mem_held_drop :
    chat ∈ (t.drop slot').held ↔
      chat ∈ t.held ∧ ∃ slot, slot ≠ slot' ∧ (slot, chat) ∈ t.slots := by
  have hany : ((t.drop slot').slots.any (·.2 == chat)) = true ↔
      ∃ slot, slot ≠ slot' ∧ (slot, chat) ∈ t.slots := by
    rw [List.any_eq_true]
    constructor
    · rintro ⟨⟨slot, chat'⟩, hslot, hchat⟩
      obtain rfl : chat' = chat := beq_iff_eq.mp hchat
      exact ⟨slot, mem_slots_drop.mp hslot⟩
    · rintro ⟨slot, hslot⟩
      exact ⟨(slot, chat), mem_slots_drop.mpr hslot, beq_self_eq_true chat⟩
  rw [← hany]
  exact List.mem_filter

/-- A slot that takes a lock is emptied before. -/
theorem mem_slots_take :
    (slot, chat) ∈ (t.take slot' chat').slots ↔
      slot = slot' ∧ chat = chat' ∨ slot ≠ slot' ∧ (slot, chat) ∈ t.slots := by
  show (slot, chat) ∈ (t.drop slot').slots ++ [(slot', chat')] ↔ _
  rw [List.mem_append, mem_slots_drop, List.mem_singleton, Prod.mk.injEq, or_comm]

/-- The chat of a slot is the one that stands beside it. -/
theorem chat?_eq_some_iff (hslots : (t.slots.map (·.1)).Nodup) :
    t.chat? slot = some chat ↔ (slot, chat) ∈ t.slots := by
  rw [chat?, List.lookup_eq_some_iff]
  constructor
  · rintro ⟨before, after, heq, -⟩
    rw [heq]
    exact List.mem_append_right _ List.mem_cons_self
  · intro hmem
    obtain ⟨before, after, heq⟩ := List.append_of_mem hmem
    refine ⟨before, after, heq, ?_⟩
    intro entry hentry
    rw [heq, List.map_append, List.map_cons] at hslots
    -- the slots in front of this one have other names
    have hnot := (List.nodup_middle.mp hslots).notMem
    rw [bne_iff_ne]
    rintro rfl
    exact hnot (List.mem_append_left _ (List.mem_map.mpr ⟨entry, hentry, rfl⟩))

/-- The slots of a chat are those beside which it stands. -/
theorem mem_slotsOf : slot ∈ t.slotsOf chat ↔ (slot, chat) ∈ t.slots := by
  rw [slotsOf, List.mem_map]
  constructor
  · rintro ⟨⟨slot, chat'⟩, hmem, rfl⟩
    obtain ⟨hslot, hchat⟩ := List.mem_filter.mp hmem
    obtain rfl : chat' = chat := beq_iff_eq.mp hchat
    exact hslot
  · intro hslot
    exact ⟨(slot, chat), List.mem_filter.mpr ⟨hslot, beq_self_eq_true chat⟩, rfl⟩

theorem nodup_eraseDups (chats : List Int) : chats.eraseDups.Nodup := by
  cases chats with
  | nil => exact List.nodup_nil
  | cons chat rest =>
    rw [List.eraseDups_cons, List.nodup_cons]
    constructor
    · rw [List.mem_eraseDups, List.mem_filter, beq_self_eq_true]
      exact fun h => Bool.false_ne_true h.2
    · exact nodup_eraseDups (rest.filter fun other => !other == chat)
termination_by chats.length
decreasing_by exact Nat.lt_succ_of_le (List.length_filter_le _ _)

theorem nodup_chats (t : LockTable) : t.chats.Nodup := nodup_eraseDups _

/-- The chats with locks are those beside slots. -/
theorem mem_chats : chat ∈ t.chats ↔ ∃ slot, (slot, chat) ∈ t.slots := by
  rw [chats, List.mem_eraseDups, List.mem_map]
  constructor
  · rintro ⟨⟨slot, chat⟩, hslot, rfl⟩
    exact ⟨slot, hslot⟩
  · rintro ⟨slot, hslot⟩
    exact ⟨(slot, chat), hslot, rfl⟩

/-- In an empty slot there is nothing to acquire or to release. -/
theorem call_of_empty (h : t.chat? slot = none) :
    t.call (.acquire slot) = (.empty, t) ∧ t.call (.release slot) = (.empty, t) := by
  constructor
  · rw [call, h]
  · rw [call, h]

/-- A lock that is held is busy, and can be released. -/
theorem call_of_held (h : t.chat? slot = some chat) (hheld : t.isHeld chat = true) :
    t.call (.acquire slot) = (.busy, t) ∧
      t.call (.release slot) = (.done, { t with held := t.held.filter (· != chat) }) := by
  constructor
  · simp only [call, h, acquire?, hheld, if_true]
  · simp only [call, h, release?, hheld, if_true]

/-- A lock that is free can be acquired, and its release is refused. -/
theorem call_of_free (h : t.chat? slot = some chat) (hfree : t.isHeld chat = false) :
    t.call (.acquire slot) = (.acquired, { t with held := chat :: t.held }) ∧
      t.call (.release slot) = (.refused notHeldMessage, t) := by
  constructor
  · simp only [call, h, acquire?, hfree, Bool.false_eq_true, if_false]
  · simp only [call, h, release?, hfree, Bool.false_eq_true, if_false]

end LockTable

/-! ## What objects do -/

namespace LockObjects

variable {l : LockObjects String} {slot : String}

theorem call_of_empty (h : l.object? slot = none) :
    l.call (.acquire slot) = (.empty, l) ∧ l.call (.release slot) = (.empty, l) := by
  constructor
  · rw [call, h]
    rfl
  · rw [call, h]
    rfl

/-- A lock object that is held is busy, and can be released. -/
theorem call_of_held (h : l.isHeld slot = true) :
    l.call (.acquire slot) = (.busy, l) ∧ l.call (.release slot) = (.done, l.release slot) := by
  have hsome : ¬ (l.object? slot).isNone = true := by
    intro hnone
    rw [isHeld, Option.isNone_iff_eq_none.mp hnone] at h
    cases h
  constructor
  · rw [call, if_neg hsome, if_pos h]
  · rw [call, if_neg hsome, if_pos h]

/-- A lock object that is free can be acquired, and its release is refused. -/
theorem call_of_free (hsome : (l.object? slot).isSome = true) (h : l.isHeld slot = false) :
    l.call (.acquire slot) = (.acquired, l.acquire slot) ∧
      l.call (.release slot) = (.refused LockTable.notHeldMessage, l) := by
  have hsome : ¬ (l.object? slot).isNone = true := by
    rw [Option.isNone_iff_eq_none, ← ne_eq, Option.ne_none_iff_isSome]
    exact hsome
  have hfree : ¬ l.isHeld slot = true := Bool.eq_false_iff.mp h
  constructor
  · rw [call, if_neg hsome, if_neg hfree]
  · rw [call, if_neg hsome, if_neg hfree]

end LockObjects

namespace LockObjects.Tells

variable {l : LockObjects String} {t : LockTable} {slots : List (String × Int)}
  {held held' : List Int} {slot : String} {chat : Int}

/-- Only the locks of chats with slots matter. -/
theorem of_held (h : l.Tells slots held)
    (hheld : ∀ slot chat, (slot, chat) ∈ slots → (chat ∈ held ↔ chat ∈ held')) :
    l.Tells slots held' := by
  refine ⟨h.sound, h.slots, ?_, h.used⟩
  intro r hr
  rw [h.held r hr]
  exact hheld r.holder r.chat (h.slots.mem_iff.mp (List.mem_map_of_mem hr))

/-- Nothing is in two slots. -/
theorem nodup_slots (h : l.Tells slots held) : (slots.map (·.1)).Nodup :=
  h.holders.nodup_iff.mp h.sound.holders

/-- A slot has no lock exactly if it has no chat. -/
theorem object?_eq_none_iff (h : l.Tells t.slots held) :
    l.object? slot = none ↔ t.chat? slot = none := by
  rw [← Option.not_isSome_iff_eq_none, h.isSome_object?_iff]
  rw [Option.eq_none_iff_forall_ne_some, List.mem_map]
  constructor
  · intro hnot chat hchat
    exact hnot ⟨_, (LockTable.chat?_eq_some_iff h.nodup_slots).mp hchat, rfl⟩
  · rintro hnone ⟨⟨slot, chat⟩, hslot, rfl⟩
    exact hnone chat ((LockTable.chat?_eq_some_iff h.nodup_slots).mpr hslot)

theorem dropSlot (h : l.Tells t.slots t.held) (slot : String) :
    (l.drop slot).Tells (t.drop slot).slots (t.drop slot).held := by
  refine (h.drop slot).of_held ?_
  intro other chat hslot
  -- a lock that another slot has is as it was
  rw [LockTable.mem_held_drop]
  exact (and_iff_left ⟨other, LockTable.mem_slots_drop.mp hslot⟩).symm

/-- Both systems have a slot take a lock alike. -/
theorem take (h : l.Tells t.slots t.held) (slot : String) (chat : Int) :
    ((l.drop slot).refer slot chat).Tells (t.take slot chat).slots (t.take slot chat).held := by
  have hnew : slot ∉ (t.drop slot).slots.map (·.1) := by
    intro hmem
    obtain ⟨⟨other, chat'⟩, hslot, rfl⟩ := List.mem_map.mp hmem
    exact (LockTable.mem_slots_drop.mp hslot).1 rfl
  have hheld : ∀ chat ∈ (t.drop slot).held, chat ∈ (t.drop slot).slots.map (·.2) := by
    intro chat' hchat
    obtain ⟨-, other, hother⟩ := LockTable.mem_held_drop.mp hchat
    exact List.mem_map.mpr ⟨(other, chat'), LockTable.mem_slots_drop.mpr hother, rfl⟩
  -- the table has the slot at its end, where the references have it in front
  have hrefer := (h.dropSlot slot).refer hnew hheld chat
  exact hrefer.perm (List.perm_append_singleton _ _).symm

/-- There are as many locks as chats with slots in the table. -/
theorem size_eq_size (h : l.Tells t.slots held) : l.size = t.size := by
  have hperm : (t.slots.map (·.2)).dedup.Perm t.chats := by
    rw [List.perm_ext_iff_of_nodup (List.nodup_dedup _) t.nodup_chats]
    intro chat
    rw [List.mem_dedup, LockTable.chats, List.mem_eraseDups]
  rw [h.size_eq, hperm.length_eq]
  rfl

theorem mem_slots_of_chat? (h : l.Tells t.slots held) (hchat : t.chat? slot = some chat) :
    (slot, chat) ∈ t.slots :=
  (LockTable.chat?_eq_some_iff h.nodup_slots).mp hchat

theorem isSome_object? (h : l.Tells t.slots held) (hchat : t.chat? slot = some chat) :
    (l.object? slot).isSome = true :=
  h.isSome_object?_iff.mpr (List.mem_map_of_mem (h.mem_slots_of_chat? hchat))

/-- Both systems tell alike whether the lock in a slot is held. -/
theorem isHeld_eq (h : l.Tells t.slots t.held) (hchat : t.chat? slot = some chat) :
    l.isHeld slot = t.isHeld chat := by
  rw [Bool.eq_iff_iff, h.isHeld_iff (h.mem_slots_of_chat? hchat)]
  exact List.contains_iff_mem.symm

/-- A lock is acquired or released through a slot alike: the slot has none, or one that is held, or
one that is free. -/
theorem call_through (h : l.Tells t.slots t.held) (slot : String) :
    Alike (l.call (.acquire slot)) (t.call (.acquire slot)) ∧
      Alike (l.call (.release slot)) (t.call (.release slot)) := by
  cases hchat : t.chat? slot with
  | none =>
    obtain ⟨hacquire, hrelease⟩ := LockTable.call_of_empty hchat
    obtain ⟨hacquire', hrelease'⟩ :=
      LockObjects.call_of_empty (h.object?_eq_none_iff.mpr hchat)
    rw [hacquire, hacquire', hrelease, hrelease']
    exact ⟨⟨rfl, h⟩, ⟨rfl, h⟩⟩
  | some chat =>
    have hslot := h.mem_slots_of_chat? hchat
    cases hheld : t.isHeld chat with
    | true =>
      obtain ⟨hacquire, hrelease⟩ := LockTable.call_of_held hchat hheld
      obtain ⟨hacquire', hrelease'⟩ := LockObjects.call_of_held ((h.isHeld_eq hchat).trans hheld)
      rw [hacquire, hacquire', hrelease, hrelease']
      exact ⟨⟨rfl, h⟩, ⟨rfl, h.release hslot⟩⟩
    | false =>
      obtain ⟨hacquire, hrelease⟩ := LockTable.call_of_free hchat hheld
      obtain ⟨hacquire', hrelease'⟩ :=
        LockObjects.call_of_free (h.isSome_object? hchat) ((h.isHeld_eq hchat).trans hheld)
      rw [hacquire, hacquire', hrelease, hrelease']
      exact ⟨⟨rfl, h.acquire hslot⟩, ⟨rfl, h⟩⟩

/-- Where chats tell the locks, objects and the table do what is called for alike. -/
theorem call (h : l.Tells t.slots t.held) (c : LockCall) : Alike (l.call c) (t.call c) := by
  cases c with
  | take slot chat => exact ⟨rfl, h.take slot chat⟩
  | drop slot => exact ⟨rfl, h.dropSlot slot⟩
  | acquire slot => exact (h.call_through slot).1
  | release slot => exact (h.call_through slot).2

end LockObjects.Tells

/-- After any calls, chats tell the locks. -/
theorem LockObjects.tells_after (calls : List LockCall) :
    (after calls).Tells (LockTable.after calls).slots (LockTable.after calls).held := by
  induction calls using List.reverseRecOn with
  | nil => exact tells_empty
  | append_singleton calls c ih =>
    rw [after_concat, LockTable.after_concat]
    exact (ih.call c).tells

end ChatRiddles
