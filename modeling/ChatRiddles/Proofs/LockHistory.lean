import Mathlib.Data.Finset.Card
import ChatRiddles.Proofs.LockSlots
/-!
# What calls tell of locks

What a slot holds and whether its lock is held can be told from the calls that have been made. A
slot holds a lock of the chat for which it has last taken one, if it has not been emptied since. The
lock of a chat is held if it has been acquired since the chat last went from no slot to one slot and
not released after that: with the last slot of a chat its lock is gone, held or not, and the lock
that is taken next is free.

Main definitions: `LockHistory.Since`, `LockHistory.Holds` and `LockHistory.Acquired`. Main
statement: `LockHistory.locks_count_references`.
-/

namespace ChatRiddles

/-! ## What calls tell -/

namespace LockHistory

/-- Something happens with a call, and nothing with a later call undoes it. What a call does depends
on the calls before it. -/
def Since (happens undone : List LockCall → LockCall → Prop) (calls : List LockCall) : Prop :=
  ∃ k c, calls[k]? = some c ∧ happens (calls.take k) c ∧
    ∀ m c', k < m → calls[m]? = some c' → ¬ undone (calls.take m) c'

/-- The call changes what is in a slot. -/
def Changes (slot : String) (c : LockCall) : Prop := c = .drop slot ∨ ∃ chat, c = .take slot chat

/-- A slot holds a lock that it has taken for a chat. -/
def Holds (calls : List LockCall) (slot : String) (chat : Int) : Prop :=
  Since (fun _ c => c = .take slot chat) (fun _ c => Changes slot c) calls

/-- With the call, a chat goes from no slot to one slot. -/
def Opens (chat : Int) (before : List LockCall) (c : LockCall) : Prop :=
  ∃ slot, c = .take slot chat ∧ ∀ other, Holds before other chat → other = slot

/-- With the call, the lock of a chat is acquired through one of its slots. -/
def Acquires (chat : Int) (before : List LockCall) (c : LockCall) : Prop :=
  ∃ slot, c = .acquire slot ∧ Holds before slot chat ∧
    ((LockObjects.after before).call c).1 = .acquired

/-- With the call, the lock of a chat is released through one of its slots. -/
def Releases (chat : Int) (before : List LockCall) (c : LockCall) : Prop :=
  ∃ slot, c = .release slot ∧ Holds before slot chat

/-- The lock of a chat has been acquired since the chat last went from no slot to one slot, and not
released after that. -/
def Acquired (calls : List LockCall) (chat : Int) : Prop :=
  Since (Acquires chat) (fun before c => Opens chat before c ∨ Releases chat before c) calls

variable {happens undone : List LockCall → LockCall → Prop} {calls : List LockCall} {c : LockCall}
  {slot slot' other : String} {chat chat' : Int}

/-- Before the first call nothing has happened. -/
theorem not_since_nil : ¬ Since happens undone [] := by
  rintro ⟨k, c, hk, -⟩
  rw [List.getElem?_nil] at hk
  cases hk

/-- The last call makes something happen, or leaves what has happened before. -/
theorem since_concat :
    Since happens undone (calls ++ [c]) ↔
      happens calls c ∨ Since happens undone calls ∧ ¬ undone calls c := by
  have hlast : (calls ++ [c])[calls.length]? = some c := List.getElem?_concat_length
  have hbefore : (calls ++ [c]).take calls.length = calls := List.take_left
  constructor
  · rintro ⟨k, c', hk, hhappens, hkept⟩
    have hlt := (List.getElem?_eq_some_iff.mp hk).1
    rw [List.length_append, List.length_singleton, Nat.lt_succ_iff_lt_or_eq] at hlt
    rcases hlt with hlt | rfl
    · -- it has happened before, and the last call comes later
      right
      rw [List.getElem?_append_left hlt] at hk
      rw [List.take_append_of_le_length hlt.le] at hhappens
      refine ⟨⟨k, c', hk, hhappens, ?_⟩, ?_⟩
      · intro m c'' hm hm'
        have hlt' := (List.getElem?_eq_some_iff.mp hm').1
        have hnot := hkept m c'' hm ((List.getElem?_append_left hlt').trans hm')
        rwa [List.take_append_of_le_length hlt'.le] at hnot
      · have hnot := hkept _ c hlt hlast
        rwa [hbefore] at hnot
    · -- it happens with the last call, whatever has been before
      left
      rw [hlast] at hk
      rw [hbefore, ← Option.some.inj hk] at hhappens
      exact hhappens
  · rintro (hhappens | ⟨⟨k, c', hk, hhappens, hkept⟩, hnot⟩)
    · refine ⟨calls.length, c, hlast, ?_, ?_⟩
      · rw [hbefore]
        exact hhappens
      · intro m c' hm hm'
        have hlt := (List.getElem?_eq_some_iff.mp hm').1
        rw [List.length_append, List.length_singleton] at hlt
        omega
    · have hlt := (List.getElem?_eq_some_iff.mp hk).1
      refine ⟨k, c', (List.getElem?_append_left hlt).trans hk, ?_, ?_⟩
      · rwa [List.take_append_of_le_length hlt.le]
      · intro m c'' hm hm'
        have hlt' := (List.getElem?_eq_some_iff.mp hm').1
        rw [List.length_append, List.length_singleton, Nat.lt_succ_iff_lt_or_eq] at hlt'
        rcases hlt' with hlt' | rfl
        · rw [List.getElem?_append_left hlt'] at hm'
          rw [List.take_append_of_le_length hlt'.le]
          exact hkept m c'' hm hm'
        · rw [hlast] at hm'
          rw [hbefore, ← Option.some.inj hm']
          exact hnot

/-- After a slot has taken a lock, it holds that one; the others hold what they have held. -/
theorem holds_take :
    Holds (calls ++ [.take slot' chat']) slot chat ↔
      slot = slot' ∧ chat = chat' ∨ slot ≠ slot' ∧ Holds calls slot chat := by
  rw [Holds, since_concat, ← Holds]
  simp only [Changes, LockCall.take.injEq, reduceCtorEq, false_or, exists_and_left, exists_eq',
    and_true]
  constructor
  · rintro (⟨rfl, rfl⟩ | ⟨hholds, hne⟩)
    · exact .inl ⟨rfl, rfl⟩
    · exact .inr ⟨Ne.symm hne, hholds⟩
  · rintro (⟨rfl, rfl⟩ | ⟨hne, hholds⟩)
    · exact .inl ⟨rfl, rfl⟩
    · exact .inr ⟨hholds, hne.symm⟩

/-- A slot that has been dropped holds nothing. -/
theorem holds_drop :
    Holds (calls ++ [.drop slot']) slot chat ↔ slot ≠ slot' ∧ Holds calls slot chat := by
  rw [Holds, since_concat, ← Holds]
  simp [Changes, and_comm, eq_comm]

/-- Acquiring a lock does not change what slots hold. -/
theorem holds_acquire : Holds (calls ++ [.acquire slot']) slot chat ↔ Holds calls slot chat := by
  rw [Holds, since_concat, ← Holds]
  simp [Changes]

theorem holds_release : Holds (calls ++ [.release slot']) slot chat ↔ Holds calls slot chat := by
  rw [Holds, since_concat, ← Holds]
  simp [Changes]

/-- A lock that has been acquired stays so while a slot takes one, unless the chat goes from no slot
to one slot with it. -/
theorem acquired_take :
    Acquired (calls ++ [.take slot chat']) chat ↔
      Acquired calls chat ∧ (chat = chat' → ∃ other, other ≠ slot ∧ Holds calls other chat) := by
  have hacquires : ¬ Acquires chat calls (.take slot chat') := by
    rintro ⟨_, heq, -⟩
    cases heq
  have hreleases : ¬ Releases chat calls (.take slot chat') := by
    rintro ⟨_, heq, -⟩
    cases heq
  have hopens : ¬ Opens chat calls (.take slot chat') ↔
      (chat = chat' → ∃ other, other ≠ slot ∧ Holds calls other chat) := by
    constructor
    · rintro hnot rfl
      by_contra hnone
      push Not at hnone
      refine hnot ⟨slot, rfl, ?_⟩
      intro other hholds
      by_contra hne
      exact hnone other hne hholds
    · rintro hother ⟨_, heq, honly⟩
      obtain ⟨rfl, rfl⟩ := LockCall.take.inj heq
      obtain ⟨other, hne, hholds⟩ := hother rfl
      exact hne (honly other hholds)
  rw [Acquired, since_concat, ← Acquired, not_or, hopens]
  simp only [hacquires, hreleases, false_or, not_false_eq_true, and_true]

theorem acquired_drop : Acquired (calls ++ [.drop slot]) chat ↔ Acquired calls chat := by
  rw [Acquired, since_concat, ← Acquired]
  simp [Acquires, Opens, Releases]

/-- A lock is acquired by a call that says so, or has been acquired before. -/
theorem acquired_acquire :
    Acquired (calls ++ [.acquire slot]) chat ↔
      Holds calls slot chat ∧ ((LockObjects.after calls).call (.acquire slot)).1 = .acquired ∨
        Acquired calls chat := by
  rw [Acquired, since_concat, ← Acquired]
  simp [Acquires, Opens, Releases]

/-- A lock is acquired after a release if it was, and if the slot does not hold it. -/
theorem acquired_release :
    Acquired (calls ++ [.release slot]) chat ↔ Acquired calls chat ∧ ¬ Holds calls slot chat := by
  rw [Acquired, since_concat, ← Acquired]
  simp [Acquires, Opens, Releases]

/-! ## What calls tell and what is there -/

/-- After some calls the table is what the calls tell. -/
structure Recorded (calls : List LockCall) : Prop where
  slots : ∀ slot chat, (slot, chat) ∈ (LockTable.after calls).slots ↔ Holds calls slot chat
  -- the locks of chats with slots are held if they have been acquired
  held : ∀ chat, chat ∈ (LockTable.after calls).held ↔
    (∃ slot, Holds calls slot chat) ∧ Acquired calls chat

namespace Recorded

theorem nil : Recorded [] where
  slots := by
    intro slot chat
    exact iff_of_false List.not_mem_nil not_since_nil
  held := by
    intro chat
    refine iff_of_false List.not_mem_nil ?_
    rintro ⟨-, hacquired⟩
    exact not_since_nil hacquired

/-- The chat of a slot is the one whose lock it holds. -/
theorem chat?_eq_some_iff (h : Recorded calls) :
    (LockTable.after calls).chat? slot = some chat ↔ Holds calls slot chat :=
  (LockTable.chat?_eq_some_iff (LockObjects.tells_after calls).nodup_slots).trans
    (h.slots slot chat)

/-- A slot holds one lock. -/
theorem holds_iff_eq (h : Recorded calls)
    (hchat : (LockTable.after calls).chat? slot = some chat) :
    Holds calls slot chat' ↔ chat' = chat := by
  rw [← h.chat?_eq_some_iff, hchat, Option.some_inj, eq_comm]

theorem not_holds (h : Recorded calls) (hchat : (LockTable.after calls).chat? slot = none) :
    ¬ Holds calls slot chat := by
  rw [← h.chat?_eq_some_iff, hchat]
  exact (Option.some_ne_none chat).symm

/-- The lock of a chat with a slot is held if it has been acquired. -/
theorem isHeld_iff (h : Recorded calls) (hslot : Holds calls slot chat) :
    (LockTable.after calls).isHeld chat = true ↔ Acquired calls chat := by
  rw [LockTable.isHeld, List.contains_iff_mem, h.held chat]
  exact and_iff_right ⟨slot, hslot⟩

/-- Where a slot is emptied, a lock stays held if it is in another slot. -/
theorem mem_held_drop (h : Recorded calls) :
    chat ∈ ((LockTable.after calls).drop slot).held ↔
      Acquired calls chat ∧ ∃ other, other ≠ slot ∧ Holds calls other chat := by
  rw [LockTable.mem_held_drop, h.held chat]
  simp only [h.slots]
  constructor
  · rintro ⟨⟨-, hacquired⟩, hother⟩
    exact ⟨hacquired, hother⟩
  · rintro ⟨hacquired, other, hother⟩
    exact ⟨⟨⟨other, hother.2⟩, hacquired⟩, other, hother⟩

theorem take (h : Recorded calls) (slot : String) (chat : Int) :
    Recorded (calls ++ [.take slot chat]) where
  slots := by
    intro other chat'
    rw [LockTable.after_concat, holds_take, ← h.slots other chat']
    exact LockTable.mem_slots_take
  held := by
    intro chat'
    rw [LockTable.after_concat, acquired_take]
    refine h.mem_held_drop.trans ?_
    simp only [holds_take]
    constructor
    · rintro ⟨hacquired, other, hother⟩
      exact ⟨⟨other, .inr hother⟩, hacquired, fun _ => ⟨other, hother⟩⟩
    · rintro ⟨⟨other, ⟨-, heq⟩ | hother⟩, hacquired, hleft⟩
      · -- the slot itself does not count, but the chat has another
        exact ⟨hacquired, hleft heq⟩
      · exact ⟨hacquired, other, hother⟩

theorem drop (h : Recorded calls) (slot : String) : Recorded (calls ++ [.drop slot]) where
  slots := by
    intro other chat
    rw [LockTable.after_concat, holds_drop, ← h.slots other chat]
    exact LockTable.mem_slots_drop
  held := by
    intro chat
    rw [LockTable.after_concat, acquired_drop, and_comm]
    simp only [holds_drop]
    exact h.mem_held_drop

/-- With a call that changes no slot, what the calls tell of the slots stays. -/
theorem of_held {c : LockCall} (h : Recorded calls) (held : List Int)
    (htable : ((LockTable.after calls).call c).2 = ⟨(LockTable.after calls).slots, held⟩)
    (hholds : ∀ slot chat, Holds (calls ++ [c]) slot chat ↔ Holds calls slot chat)
    (hheld : ∀ chat, chat ∈ held ↔
      (∃ slot, Holds calls slot chat) ∧ Acquired (calls ++ [c]) chat) :
    Recorded (calls ++ [c]) where
  slots := by
    intro slot chat
    rw [LockTable.after_concat, htable, hholds]
    exact h.slots slot chat
  held := by
    intro chat
    rw [LockTable.after_concat, htable]
    simp only [hholds]
    exact hheld chat

/-- With a call that changes nothing, the calls must tell nothing new of the chats with slots. -/
theorem of_unchanged {c : LockCall} (h : Recorded calls)
    (htable : ((LockTable.after calls).call c).2 = LockTable.after calls)
    (hholds : ∀ slot chat, Holds (calls ++ [c]) slot chat ↔ Holds calls slot chat)
    (hacquired : ∀ slot chat, Holds calls slot chat →
      (Acquired (calls ++ [c]) chat ↔ Acquired calls chat)) :
    Recorded (calls ++ [c]) := by
  refine h.of_held (LockTable.after calls).held htable hholds ?_
  intro chat
  rw [h.held chat]
  refine and_congr_right ?_
  rintro ⟨slot, hslot⟩
  exact (hacquired slot chat hslot).symm

theorem acquire (h : Recorded calls) (slot : String) : Recorded (calls ++ [.acquire slot]) := by
  have hanswer := ((LockObjects.tells_after calls).call (.acquire slot)).answer
  cases hchat : (LockTable.after calls).chat? slot with
  | none =>
    have hcall := (LockTable.call_of_empty hchat).1
    refine h.of_unchanged (congrArg Prod.snd hcall) (fun _ _ => holds_acquire) ?_
    intro _ chat' _
    rw [acquired_acquire]
    simp only [h.not_holds hchat, false_and, false_or]
  | some chat =>
    cases hheld : (LockTable.after calls).isHeld chat with
    | true =>
      have hcall := (LockTable.call_of_held hchat hheld).1
      refine h.of_unchanged (congrArg Prod.snd hcall) (fun _ _ => holds_acquire) ?_
      intro _ chat' _
      rw [acquired_acquire, hanswer, hcall]
      simp only [reduceCtorEq, and_false, false_or]
    | false =>
      have hcall := (LockTable.call_of_free hchat hheld).1
      refine h.of_held _ (congrArg Prod.snd hcall) (fun _ _ => holds_acquire) ?_
      intro chat'
      rw [acquired_acquire, hanswer, hcall, List.mem_cons, h.held chat', h.holds_iff_eq hchat]
      constructor
      · rintro (rfl | ⟨hsome, hacquired⟩)
        · exact ⟨⟨slot, h.chat?_eq_some_iff.mp hchat⟩, .inl ⟨rfl, rfl⟩⟩
        · exact ⟨hsome, .inr hacquired⟩
      · rintro ⟨hsome, ⟨heq, -⟩ | hacquired⟩
        · exact .inl heq
        · exact .inr ⟨hsome, hacquired⟩

theorem release (h : Recorded calls) (slot : String) : Recorded (calls ++ [.release slot]) := by
  cases hchat : (LockTable.after calls).chat? slot with
  | none =>
    have hcall := (LockTable.call_of_empty hchat).2
    refine h.of_unchanged (congrArg Prod.snd hcall) (fun _ _ => holds_release) ?_
    intro _ chat' _
    rw [acquired_release]
    exact and_iff_left (h.not_holds hchat)
  | some chat =>
    cases hheld : (LockTable.after calls).isHeld chat with
    | true =>
      have hcall := (LockTable.call_of_held hchat hheld).2
      refine h.of_held _ (congrArg Prod.snd hcall) (fun _ _ => holds_release) ?_
      intro chat'
      rw [acquired_release, List.mem_filter, h.held chat', h.holds_iff_eq hchat, bne_iff_ne,
        ne_eq, and_assoc]
    | false =>
      have hcall := (LockTable.call_of_free hchat hheld).2
      refine h.of_unchanged (congrArg Prod.snd hcall) (fun _ _ => holds_release) ?_
      intro other chat' hother
      rw [acquired_release, h.holds_iff_eq hchat]
      -- the lock in the slot is free, so it has not been acquired
      refine and_iff_left_of_imp ?_
      rintro hacquired rfl
      rw [(h.isHeld_iff hother).mpr hacquired] at hheld
      cases hheld

theorem concat (h : Recorded calls) (c : LockCall) : Recorded (calls ++ [c]) := by
  cases c with
  | take slot chat => exact h.take slot chat
  | drop slot => exact h.drop slot
  | acquire slot => exact h.acquire slot
  | release slot => exact h.release slot

end Recorded

/-- What the calls tell is there after any calls. -/
theorem recorded (calls : List LockCall) : Recorded calls := by
  induction calls using List.reverseRecOn with
  | nil => exact Recorded.nil
  | append_singleton calls c ih => exact ih.concat c

namespace Recorded

/-- A slot with a lock holds that of some chat. -/
theorem exists_holds (h : Recorded calls) {object : Nat}
    (hobject : (LockObjects.after calls).object? slot = some object) :
    ∃ chat, Holds calls slot chat := by
  cases hchat : (LockTable.after calls).chat? slot with
  | none =>
    rw [(LockObjects.tells_after calls).object?_eq_none_iff.mpr hchat] at hobject
    cases hobject
  | some chat => exact ⟨chat, h.chat?_eq_some_iff.mp hchat⟩

/-- Whether the lock in a slot is held is told by the table. -/
theorem isHeld_eq (h : Recorded calls) (hslot : Holds calls slot chat) :
    (LockObjects.after calls).isHeld slot = (LockTable.after calls).isHeld chat :=
  (LockObjects.tells_after calls).isHeld_eq (h.chat?_eq_some_iff.mpr hslot)

/-- Two slots hold one lock if they have taken it for one chat. -/
theorem same_object_iff (h : Recorded calls) :
    (∃ object, (LockObjects.after calls).object? slot = some object ∧
        (LockObjects.after calls).object? slot' = some object) ↔
      ∃ chat, Holds calls slot chat ∧ Holds calls slot' chat := by
  have htells := LockObjects.tells_after calls
  constructor
  · rintro ⟨object, hobject, hobject'⟩
    obtain ⟨chat, hslot⟩ := h.exists_holds hobject
    obtain ⟨chat', hslot'⟩ := h.exists_holds hobject'
    have hchat : chat = chat' := by
      apply (htells.object?_eq_iff ((h.slots _ _).mpr hslot) ((h.slots _ _).mpr hslot')).mp
      rw [hobject, hobject']
    rw [← hchat] at hslot'
    exact ⟨chat, hslot, hslot'⟩
  · rintro ⟨chat, hslot, hslot'⟩
    have hsame := htells.object?_eq_iff ((h.slots _ _).mpr hslot) ((h.slots _ _).mpr hslot')
    have hsome := htells.isSome_object? (h.chat?_eq_some_iff.mpr hslot)
    obtain ⟨object, hobject⟩ := Option.isSome_iff_exists.mp hsome
    exact ⟨object, hobject, (hsame.mpr rfl).symm.trans hobject⟩

/-- The lock in a slot is held if it has been acquired. -/
theorem isHeld_iff_acquired (h : Recorded calls) :
    (LockObjects.after calls).isHeld slot = true ↔
      ∃ chat, Holds calls slot chat ∧ Acquired calls chat := by
  constructor
  · intro hheld
    cases hobject : (LockObjects.after calls).object? slot with
    | none =>
      rw [LockObjects.isHeld, hobject] at hheld
      cases hheld
    | some object =>
      obtain ⟨chat, hslot⟩ := h.exists_holds hobject
      rw [h.isHeld_eq hslot] at hheld
      exact ⟨chat, hslot, (h.isHeld_iff hslot).mp hheld⟩
  · rintro ⟨chat, hslot, hacquired⟩
    rw [h.isHeld_eq hslot]
    exact (h.isHeld_iff hslot).mpr hacquired

/-- The chats with locks are those whose locks are held in slots. -/
theorem mem_chats_iff (h : Recorded calls) :
    chat ∈ (LockTable.after calls).chats.toFinset ↔ ∃ slot, Holds calls slot chat := by
  rw [List.mem_toFinset, LockTable.mem_chats]
  simp only [h.slots]

end Recorded

/-- Whatever calls have been made, objects and the table answer the next alike. Two slots hold one
lock if and only if both have taken it for one chat and neither has dropped it since. There are as
many locks as chats with slots. A lock is held if and only if, since its chat last went from no slot
to one slot, it has been acquired through a slot of the chat and not released after that. It can be
acquired if and only if it is not held. The release of a lock that is not held is refused and
changes nothing. -/
theorem locks_count_references (calls : List LockCall) :
    let l := LockObjects.after calls
    let t := LockTable.after calls
    (∀ c, (l.call c).1 = (t.call c).1) ∧
      (∀ slot chat, t.chat? slot = some chat ↔ Holds calls slot chat) ∧
      (∀ slot chat, slot ∈ t.slotsOf chat ↔ Holds calls slot chat) ∧
      (∀ slot slot', (∃ object, l.object? slot = some object ∧ l.object? slot' = some object) ↔
        ∃ chat, Holds calls slot chat ∧ Holds calls slot' chat) ∧
      (∃ chats : Finset Int, (∀ chat, chat ∈ chats ↔ ∃ slot, Holds calls slot chat) ∧
        l.size = chats.card ∧ t.size = chats.card) ∧
      (∀ slot, l.isHeld slot = true ↔ ∃ chat, Holds calls slot chat ∧ Acquired calls chat) ∧
      ∀ slot chat, Holds calls slot chat →
        l.isHeld slot = t.isHeld chat ∧
        ((l.call (.acquire slot)).1 = .acquired ↔ l.isHeld slot = false) ∧
        (l.isHeld slot = false →
          l.call (.release slot) = (.refused LockTable.notHeldMessage, l) ∧
            t.call (.release slot) = (.refused LockTable.notHeldMessage, t)) := by
  intro l t
  have h := recorded calls
  have htells : l.Tells t.slots t.held := LockObjects.tells_after calls
  have hsize : t.size = t.chats.toFinset.card := (List.toFinset_card_of_nodup t.nodup_chats).symm
  refine ⟨fun c => (htells.call c).answer, ?_, ?_, ?_, ?_, ?_, ?_⟩
  · exact fun _ _ => h.chat?_eq_some_iff
  · exact fun slot chat => LockTable.mem_slotsOf.trans (h.slots slot chat)
  · exact fun _ _ => h.same_object_iff
  · exact ⟨_, fun _ => h.mem_chats_iff, htells.size_eq_size.trans hsize, hsize⟩
  · exact fun _ => h.isHeld_iff_acquired
  · intro slot chat hslot
    have hchat : t.chat? slot = some chat := h.chat?_eq_some_iff.mpr hslot
    have hsome := htells.isSome_object? hchat
    have hsame : l.isHeld slot = t.isHeld chat := h.isHeld_eq hslot
    refine ⟨hsame, ?_, ?_⟩
    · cases hheld : l.isHeld slot with
      | true =>
        rw [(LockObjects.call_of_held hheld).1]
        simp only [reduceCtorEq]
      | false =>
        rw [(LockObjects.call_of_free hsome hheld).1]
        exact iff_of_true rfl rfl
    · intro hfree
      rw [(LockObjects.call_of_free hsome hfree).2,
        (LockTable.call_of_free hchat (hsame.symm.trans hfree)).2]
      exact ⟨rfl, rfl⟩

/-- With the only slot of a chat its lock is gone, though it is held: the lock that is taken into
the same slot next is free, and its release is refused. -/
theorem locks_count_references_retaken :
    let calls : List LockCall := [.take "a" 1, .acquire "a", .take "a" 1]
    Holds calls "a" 1 ∧ (LockObjects.after calls).isHeld "a" = false ∧
      (LockObjects.after calls).call (.release "a") =
        (.refused LockTable.notHeldMessage, LockObjects.after calls) := by
  intro calls
  have hslot : Holds ([.take "a" 1, .acquire "a"] ++ [.take "a" 1]) "a" 1 :=
    holds_take.mpr (.inl ⟨rfl, rfl⟩)
  have hfree : (LockObjects.after calls).isHeld "a" = false := by decide
  obtain ⟨-, -, -, -, -, -, hslots⟩ := locks_count_references calls
  obtain ⟨-, -, hrelease⟩ := hslots "a" 1 hslot
  exact ⟨hslot, hfree, (hrelease hfree).1⟩

/-- While another slot of the chat is left, the lock is there and stays held. -/
example :
    let l := LockObjects.after [.take "a" 1, .take "b" 1, .acquire "a", .drop "a"]
    l.isHeld "b" = true ∧ l.size = 1 := by decide

end LockHistory

end ChatRiddles
