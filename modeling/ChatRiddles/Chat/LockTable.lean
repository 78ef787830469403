/-!
# The locks of chats

`ChatLocks` gives every chat one lock while somebody refers to it. References are kept in slots; the
lock of a chat disappears with its last slot, and a lock that is taken later for the chat is a new
one, which nobody holds.
-/

namespace ChatRiddles

/-- What is done with the locks of chats through slots. -/
inductive LockCall where
  | take (slot : String) (chat : Int)
  | drop (slot : String)
  | acquire (slot : String)
  | release (slot : String)

/-- What a call ends with. -/
inductive LockAnswer where
  | done
  | acquired
  | busy
  | refused (message : String)
  | empty
  deriving DecidableEq

/-- The slots with the chats whose locks they refer to, and the chats whose locks are held. -/
structure LockTable where
  slots : List (String × Int)
  held : List Int

namespace LockTable

/-- No slots. -/
def empty : LockTable := ⟨[], []⟩

/-- The chat whose lock a slot refers to. -/
def chat? (t : LockTable) (slot : String) : Option Int := t.slots.lookup slot

/-- The slots that refer to the lock of a chat. -/
def slotsOf (t : LockTable) (chat : Int) : List String :=
  (t.slots.filter (·.2 == chat)).map (·.1)

/-- The chats that have a lock. -/
def chats (t : LockTable) : List Int := (t.slots.map (·.2)).eraseDups

/-- The number of locks. -/
def size (t : LockTable) : Nat := t.chats.length

/-- Whether the lock of a chat is held. -/
def isHeld (t : LockTable) (chat : Int) : Bool := t.held.contains chat

/-- Empties a slot. A lock that no slot refers to any more is gone. -/
def drop (t : LockTable) (slot : String) : LockTable :=
  let slots := t.slots.filter (·.1 != slot)
  { slots, held := t.held.filter fun chat => slots.any (·.2 == chat) }

/-- Lets a slot refer to the lock of a chat, and to no other. -/
def take (t : LockTable) (slot : String) (chat : Int) : LockTable :=
  let t := t.drop slot
  { t with slots := t.slots ++ [(slot, chat)] }

/-- Acquires a lock; `none` if it is held. -/
def acquire? (t : LockTable) (chat : Int) : Option LockTable :=
  if t.isHeld chat then none else some { t with held := chat :: t.held }

/-- Releases a lock; `none` if it is not held. -/
def release? (t : LockTable) (chat : Int) : Option LockTable :=
  if t.isHeld chat then some { t with held := t.held.filter (· != chat) } else none

/-- The wording for the release of a lock that is not held. -/
def notHeldMessage : String := "Lock is not acquired."

/-- Does what is called for. Without a lock in the slot, nothing is acquired or released. -/
def call (t : LockTable) : LockCall → LockAnswer × LockTable
  | .take slot chat => (.done, t.take slot chat)
  | .drop slot => (.done, t.drop slot)
  | .acquire slot =>
    match t.chat? slot with
    | none => (.empty, t)
    | some chat =>
      match t.acquire? chat with
      | some t => (.acquired, t)
      | none => (.busy, t)
  | .release slot =>
    match t.chat? slot with
    | none => (.empty, t)
    | some chat =>
      match t.release? chat with
      | some t => (.done, t)
      | none => (.refused notHeldMessage, t)

end LockTable

end ChatRiddles
