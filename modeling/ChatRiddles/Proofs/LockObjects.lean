import Mathlib.Data.List.Dedup
import Mathlib.Data.List.Nodup
/-!
# Locks as objects

A lock is an object of its own: two locks of one chat would not exclude each other. A table tells
the lock of a chat. It does not keep a lock alive: as soon as nobody refers to a lock, it is gone
from the table, and whoever asks for the lock of its chat later gets a new one.

While somebody refers to the lock of a chat, everybody who asks for it gets that one. So two
references are to one lock if and only if they have been got for one chat, and there are as many
locks as chats for which somebody has got one.

Main definitions: `LockObjects`, `LockObjects.Sound`. Main statements: `Sound.refer`, `Sound.drop`,
`Sound.object_eq_iff`, `Sound.size_eq`.
-/

namespace ChatRiddles

/-- A reference to a lock. -/
structure Reference (σ : Type) where
  holder : σ
  chat : Int
  object : Nat

/-- Locks, which are told apart by numbers. -/
structure LockObjects (σ : Type) where
  made : Nat
  table : List (Int × Nat)
  references : List (Reference σ)
  held : List Nat

namespace LockObjects

variable {σ : Type}

/-- No locks. -/
def empty : LockObjects σ := ⟨0, [], [], []⟩

/-- The number of locks in the table. -/
def size (l : LockObjects σ) : Nat := l.table.length

/-- The lock to which somebody refers. -/
def object? [DecidableEq σ] (l : LockObjects σ) (who : σ) : Option Nat :=
  (l.references.find? (·.holder == who)).map (·.object)

/-- Somebody asks for the lock of a chat. If there is none, one is made. -/
def refer (l : LockObjects σ) (who : σ) (chat : Int) : LockObjects σ :=
  match l.table.lookup chat with
  | some object => { l with references := ⟨who, chat, object⟩ :: l.references }
  | none =>
    { l with
      made := l.made + 1
      table := (chat, l.made) :: l.table
      references := ⟨who, chat, l.made⟩ :: l.references }

/-- Somebody does not refer to a lock any more. A lock without references is gone. -/
def drop [DecidableEq σ] (l : LockObjects σ) (who : σ) : LockObjects σ :=
  let references := l.references.filter (·.holder != who)
  { l with
    references
    table := l.table.filter fun entry => references.any (·.object == entry.2)
    held := l.held.filter fun object => references.any (·.object == object) }

/-- Whether the lock to which somebody refers is held. -/
def isHeld [DecidableEq σ] (l : LockObjects σ) (who : σ) : Bool :=
  (l.object? who).any l.held.contains

/-- The lock to which somebody refers is acquired. -/
def acquire [DecidableEq σ] (l : LockObjects σ) (who : σ) : LockObjects σ :=
  { l with held := (l.object? who).toList ++ l.held }

/-- The lock to which somebody refers is released. -/
def release [DecidableEq σ] (l : LockObjects σ) (who : σ) : LockObjects σ :=
  { l with held := l.held.filter fun object => l.object? who != some object }

/-! ## One lock for each chat -/

/-- The table tells the locks to which somebody refers, one for each chat. -/
structure Sound (l : LockObjects σ) : Prop where
  holders : (l.references.map (·.holder)).Nodup
  chats : (l.table.map (·.1)).Nodup
  objects : (l.table.map (·.2)).Nodup
  made : ∀ entry ∈ l.table, entry.2 < l.made
  referred : ∀ r ∈ l.references, (r.chat, r.object) ∈ l.table
  used : ∀ entry ∈ l.table, ∃ r ∈ l.references, r.object = entry.2

variable {l : LockObjects σ} {who : σ} {chat : Int} {r r' : Reference σ}

namespace Sound

theorem empty : (empty : LockObjects σ).Sound where
  holders := List.nodup_nil
  chats := List.nodup_nil
  objects := List.nodup_nil
  made := fun _ h => absurd h List.not_mem_nil
  referred := fun _ h => absurd h List.not_mem_nil
  used := fun _ h => absurd h List.not_mem_nil

/-- References are to one lock if and only if they are for one chat. -/
theorem object_eq_iff (h : l.Sound) (hr : r ∈ l.references) (hr' : r' ∈ l.references) :
    r.object = r'.object ↔ r.chat = r'.chat := by
  have hentry := h.referred r hr
  have hentry' := h.referred r' hr'
  constructor
  · intro hobject
    exact congrArg Prod.fst (List.inj_on_of_nodup_map h.objects hentry hentry' hobject)
  · intro hchat
    exact congrArg Prod.snd (List.inj_on_of_nodup_map h.chats hentry hentry' hchat)

/-- Whoever refers to a lock refers to no other. -/
theorem object?_eq [DecidableEq σ] (h : l.Sound) (hr : r ∈ l.references) :
    l.object? r.holder = some r.object := by
  cases hfind : l.references.find? (·.holder == r.holder) with
  | none => exact absurd (beq_self_eq_true r.holder) (List.find?_eq_none.mp hfind r hr)
  | some r' =>
    have hmem := List.mem_of_find?_eq_some hfind
    have hholder : r'.holder = r.holder := by simpa using List.find?_some hfind
    rw [object?, hfind, List.inj_on_of_nodup_map h.holders hmem hr hholder]
    rfl

/-- The chats of the table are those for which somebody has got a lock. -/
theorem mem_chats_iff (h : l.Sound) :
    chat ∈ l.table.map (·.1) ↔ chat ∈ l.references.map (·.chat) := by
  constructor
  · intro hmem
    obtain ⟨entry, hentry, rfl⟩ := List.mem_map.mp hmem
    obtain ⟨r, hr, hobject⟩ := h.used entry hentry
    have hsame : (r.chat, r.object) = entry :=
      List.inj_on_of_nodup_map h.objects (h.referred r hr) hentry hobject
    rw [← hsame]
    exact List.mem_map_of_mem hr
  · intro hmem
    obtain ⟨r, hr, rfl⟩ := List.mem_map.mp hmem
    exact List.mem_map_of_mem (h.referred r hr)

/-- There are as many locks as chats for which somebody has got one. -/
theorem size_eq (h : l.Sound) : l.size = (l.references.map (·.chat)).dedup.length := by
  have hperm : (l.table.map (·.1)).Perm (l.references.map (·.chat)).dedup := by
    rw [List.perm_ext_iff_of_nodup h.chats (List.nodup_dedup _)]
    intro chat
    rw [List.mem_dedup]
    exact h.mem_chats_iff
  rw [size, ← hperm.length_eq, List.length_map]

end Sound

/-- The lock of a chat is found in the table. -/
theorem mem_table_of_lookup {object : Nat} (h : l.table.lookup chat = some object) :
    (chat, object) ∈ l.table := by
  obtain ⟨before, after, heq, -⟩ := List.lookup_eq_some_iff.mp h
  rw [heq]
  exact List.mem_append_right _ List.mem_cons_self

/-- Whoever asks for the lock of a chat gets the one that others have got, or one that nobody has
had yet. -/
theorem references_refer (h : l.Sound) (who : σ) (chat : Int) :
    ∃ object, (l.refer who chat).references = ⟨who, chat, object⟩ :: l.references ∧
      ((∃ r ∈ l.references, r.chat = chat ∧ r.object = object) ∨
        (∀ r ∈ l.references, r.chat ≠ chat) ∧ object = l.made) := by
  cases hlookup : l.table.lookup chat with
  | some object =>
    have hentry := mem_table_of_lookup hlookup
    obtain ⟨r, hr, hobject⟩ := h.used _ hentry
    have hsame : (r.chat, r.object) = (chat, object) :=
      List.inj_on_of_nodup_map h.objects (h.referred r hr) hentry hobject
    refine ⟨object, by rw [refer, hlookup], .inl ⟨r, hr, congrArg Prod.fst hsame, hobject⟩⟩
  | none =>
    refine ⟨l.made, by rw [refer, hlookup], .inr ⟨fun r hr hchat => ?_, rfl⟩⟩
    have hne := List.lookup_eq_none_iff.mp hlookup _ (h.referred r hr)
    simp [hchat] at hne

/-- A reference by somebody new keeps the table sound. -/
theorem Sound.refer (h : l.Sound) (hnew : who ∉ l.references.map (·.holder)) (chat : Int) :
    (l.refer who chat).Sound := by
  cases hlookup : l.table.lookup chat with
  | some object =>
    have hentry := mem_table_of_lookup hlookup
    have hrefer : l.refer who chat =
        { l with references := ⟨who, chat, object⟩ :: l.references } := by
      rw [LockObjects.refer, hlookup]
    rw [hrefer]
    refine ⟨List.nodup_cons.mpr ⟨hnew, h.holders⟩, h.chats, h.objects, h.made, ?_, ?_⟩
    · exact List.forall_mem_cons.mpr ⟨hentry, h.referred⟩
    · intro entry hentry
      obtain ⟨r, hr, hobject⟩ := h.used entry hentry
      exact ⟨r, List.mem_cons_of_mem _ hr, hobject⟩
  | none =>
    have hrefer : l.refer who chat =
        { l with
          made := l.made + 1
          table := (chat, l.made) :: l.table
          references := ⟨who, chat, l.made⟩ :: l.references } := by
      rw [LockObjects.refer, hlookup]
    have hchat : chat ∉ l.table.map (·.1) := by
      intro hmem
      obtain ⟨entry, hentry, rfl⟩ := List.mem_map.mp hmem
      have hne := List.lookup_eq_none_iff.mp hlookup _ hentry
      simp at hne
    have hobject : l.made ∉ l.table.map (·.2) := by
      intro hmem
      obtain ⟨entry, hentry, heq⟩ := List.mem_map.mp hmem
      have hlt := h.made entry hentry
      omega
    rw [hrefer]
    refine ⟨List.nodup_cons.mpr ⟨hnew, h.holders⟩, List.nodup_cons.mpr ⟨hchat, h.chats⟩,
      List.nodup_cons.mpr ⟨hobject, h.objects⟩, ?_, ?_, ?_⟩
    · rw [List.forall_mem_cons]
      exact ⟨Nat.lt_succ_self _, fun entry hentry => Nat.lt_succ_of_lt (h.made entry hentry)⟩
    · rw [List.forall_mem_cons]
      exact ⟨List.mem_cons_self, fun r hr => List.mem_cons_of_mem _ (h.referred r hr)⟩
    · rw [List.forall_mem_cons]
      refine ⟨⟨_, List.mem_cons_self, rfl⟩, fun entry hentry => ?_⟩
      obtain ⟨r, hr, hobject⟩ := h.used entry hentry
      exact ⟨r, List.mem_cons_of_mem _ hr, hobject⟩

theorem Sound.drop [DecidableEq σ] (h : l.Sound) (who : σ) : (l.drop who).Sound := by
  refine ⟨h.holders.sublist (List.filter_sublist.map _), h.chats.sublist
    (List.filter_sublist.map _), h.objects.sublist (List.filter_sublist.map _), ?_, ?_, ?_⟩
  · exact fun entry hentry => h.made entry (List.mem_of_mem_filter hentry)
  · intro r hr
    refine List.mem_filter.mpr ⟨h.referred r (List.mem_of_mem_filter hr), ?_⟩
    exact List.any_eq_true.mpr ⟨r, hr, beq_self_eq_true _⟩
  · intro entry hentry
    obtain ⟨r, hr, hobject⟩ := List.any_eq_true.mp (List.mem_filter.mp hentry).2
    exact ⟨r, hr, beq_iff_eq.mp hobject⟩

/-! ## Locks as chats

Where every chat has one lock, the chat can stand for the lock. -/

/-- The locks are those of chats: somebody refers to a lock if he has a slot for its chat, and a
lock is held if its chat is. -/
structure Tells (l : LockObjects σ) (slots : List (σ × Int)) (held : List Int) : Prop where
  -- the table tells the locks to which somebody refers
  sound : l.Sound
  slots : (l.references.map fun r => (r.holder, r.chat)).Perm slots
  held : ∀ r ∈ l.references, (r.object ∈ l.held ↔ r.chat ∈ held)
  used : ∀ object ∈ l.held, ∃ r ∈ l.references, r.object = object

variable {slots slots' : List (σ × Int)} {held : List Int} {who' : σ} {chat' : Int}

theorem tells_empty : (empty : LockObjects σ).Tells [] [] where
  sound := Sound.empty
  slots := .nil
  held := fun _ h => absurd h List.not_mem_nil
  used := fun _ h => absurd h List.not_mem_nil

namespace Tells

/-- The order of the slots does not matter. -/
theorem perm (h : l.Tells slots held) (hslots : slots.Perm slots') : l.Tells slots' held :=
  ⟨h.sound, h.slots.trans hslots, h.held, h.used⟩

/-- Those who refer to locks are the slots. -/
theorem holders (h : l.Tells slots held) :
    (l.references.map (·.holder)).Perm (slots.map (·.1)) := by
  have hmap := h.slots.map Prod.fst
  rw [List.map_map] at hmap
  exact hmap

theorem exists_reference (h : l.Tells slots held) (hslot : (who, chat) ∈ slots) :
    ∃ r ∈ l.references, r.holder = who ∧ r.chat = chat := by
  obtain ⟨r, hr, heq⟩ := List.mem_map.mp (h.slots.mem_iff.mpr hslot)
  exact ⟨r, hr, congrArg Prod.fst heq, congrArg Prod.snd heq⟩

/-- There are as many locks as chats with slots. -/
theorem size_eq (h : l.Tells slots held) : l.size = (slots.map (·.2)).dedup.length := by
  have hchats := (h.slots.map Prod.snd).dedup
  rw [List.map_map] at hchats
  rw [h.sound.size_eq]
  exact hchats.length_eq

/-- Whoever gets a lock waits for those who have it, and for nobody else. -/
theorem refer (h : l.Tells slots held) (hnew : who ∉ slots.map (·.1))
    (hheld : ∀ chat ∈ held, chat ∈ slots.map (·.2)) (chat : Int) :
    (l.refer who chat).Tells ((who, chat) :: slots) held := by
  have hwho : who ∉ l.references.map (·.holder) := fun hmem => hnew (h.holders.mem_iff.mp hmem)
  obtain ⟨object, hreferences, hobject⟩ := references_refer h.sound who chat
  have hsame : (l.refer who chat).held = l.held := by
    unfold LockObjects.refer
    split
    · rfl
    · rfl
  refine ⟨h.sound.refer hwho chat, ?_, ?_, ?_⟩
  · rw [hreferences]
    exact h.slots.cons _
  · rw [hreferences, hsame, List.forall_mem_cons]
    refine ⟨?_, h.held⟩
    rcases hobject with ⟨r, hr, rfl, rfl⟩ | ⟨hnone, rfl⟩
    · exact h.held r hr
    · -- a new lock is not held, and neither is a chat without slots
      constructor
      · intro hmem
        obtain ⟨r, hr, hmade⟩ := h.used _ hmem
        have hlt : r.object < l.made := h.sound.made _ (h.sound.referred r hr)
        exact absurd hmade (Nat.ne_of_lt hlt)
      · intro hmem
        obtain ⟨slot, hslot, heq⟩ := List.mem_map.mp (hheld chat hmem)
        obtain ⟨r, hr, -, hchat⟩ := h.exists_reference hslot
        exact absurd (hchat.trans heq) (hnone r hr)
  · rw [hreferences, hsame]
    intro o ho
    obtain ⟨r, hr, heq⟩ := h.used o ho
    exact ⟨r, List.mem_cons_of_mem _ hr, heq⟩

variable [DecidableEq σ]

/-- Whoever has a slot refers to a lock, and nobody else does. -/
theorem isSome_object?_iff (h : l.Tells slots held) :
    (l.object? who).isSome = true ↔ who ∈ slots.map (·.1) := by
  rw [object?, Option.isSome_map, List.find?_isSome, ← h.holders.mem_iff, List.mem_map]
  simp

/-- Two slots have one lock if and only if they are for one chat. -/
theorem object?_eq_iff (h : l.Tells slots held) (hslot : (who, chat) ∈ slots)
    (hslot' : (who', chat') ∈ slots) : l.object? who = l.object? who' ↔ chat = chat' := by
  obtain ⟨r, hr, rfl, rfl⟩ := h.exists_reference hslot
  obtain ⟨r', hr', rfl, rfl⟩ := h.exists_reference hslot'
  rw [h.sound.object?_eq hr, h.sound.object?_eq hr', Option.some_inj]
  exact h.sound.object_eq_iff hr hr'

/-- A slot has a lock that is held if and only if its chat is. -/
theorem isHeld_iff (h : l.Tells slots held) (hslot : (who, chat) ∈ slots) :
    l.isHeld who = true ↔ chat ∈ held := by
  obtain ⟨r, hr, rfl, rfl⟩ := h.exists_reference hslot
  rw [isHeld, h.sound.object?_eq hr, Option.any_some, List.contains_iff_mem]
  exact h.held r hr

/-- Acquiring a lock tells that its chat is held. -/
theorem acquire (h : l.Tells slots held) (hslot : (who, chat) ∈ slots) :
    (l.acquire who).Tells slots (chat :: held) := by
  obtain ⟨r, hr, rfl, rfl⟩ := h.exists_reference hslot
  have hacquire : l.acquire r.holder = { l with held := r.object :: l.held } := by
    rw [LockObjects.acquire, h.sound.object?_eq hr]
    rfl
  rw [hacquire]
  refine ⟨⟨h.sound.holders, h.sound.chats, h.sound.objects, h.sound.made, h.sound.referred,
    h.sound.used⟩, h.slots, fun r' hr' => ?_, ?_⟩
  · rw [List.mem_cons, List.mem_cons, h.held r' hr', h.sound.object_eq_iff hr' hr]
  · exact List.forall_mem_cons.mpr ⟨⟨r, hr, rfl⟩, h.used⟩

/-- Releasing a lock tells that its chat is held no longer. -/
theorem release (h : l.Tells slots held) (hslot : (who, chat) ∈ slots) :
    (l.release who).Tells slots (held.filter (· != chat)) := by
  obtain ⟨r, hr, rfl, rfl⟩ := h.exists_reference hslot
  have hrelease : l.release r.holder = { l with held := l.held.filter (· != r.object) } := by
    rw [LockObjects.release, h.sound.object?_eq hr]
    congr 2
    funext object
    rw [Bool.eq_iff_iff, bne_iff_ne, bne_iff_ne, ne_eq, ne_eq, Option.some_inj, eq_comm]
  rw [hrelease]
  refine ⟨⟨h.sound.holders, h.sound.chats, h.sound.objects, h.sound.made, h.sound.referred,
    h.sound.used⟩, h.slots, fun r' hr' => ?_, ?_⟩
  · rw [List.mem_filter, List.mem_filter, h.held r' hr', bne_iff_ne, bne_iff_ne, ne_eq, ne_eq,
      h.sound.object_eq_iff hr' hr]
  · exact fun object hobject => h.used object (List.mem_of_mem_filter hobject)

/-- Dropping a reference empties its slot. -/
theorem drop (h : l.Tells slots held) (who : σ) :
    (l.drop who).Tells (slots.filter (·.1 != who)) held := by
  refine ⟨h.sound.drop who, ?_, ?_, ?_⟩
  · have hfilter := h.slots.filter (·.1 != who)
    rw [List.filter_map] at hfilter
    exact hfilter
  · intro r hr
    have hany : ((l.drop who).references.any fun r' => r'.object == r.object) = true :=
      List.any_eq_true.mpr ⟨r, hr, beq_self_eq_true _⟩
    have hsame : r.object ∈ (l.drop who).held ↔ r.object ∈ l.held :=
      List.mem_filter.trans (and_iff_left hany)
    rw [hsame]
    exact h.held r (List.mem_of_mem_filter hr)
  · intro object hobject
    obtain ⟨r, hr, heq⟩ := List.any_eq_true.mp (List.mem_filter.mp hobject).2
    exact ⟨r, hr, beq_iff_eq.mp heq⟩

end Tells

end LockObjects

end ChatRiddles
