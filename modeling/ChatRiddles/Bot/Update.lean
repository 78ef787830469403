import ChatRiddles.Shape.Check
/-!
# Updates

What happens in chats arrives as updates. The models `Update`, `Message`, `Chat` and `User` read
them: an update may hold a message, a message a text and a sender; of everything else only a few
fields are kept. The sender stands in the field `from`, or in `from_user` if there is no such field.
-/

namespace ChatRiddles

open Shape

/-- A user. -/
structure User where
  id : Int
  isBot : Bool
  firstName : String
  -- the name under which the user is found
  username : Option String
  deriving DecidableEq, Repr

/-- A chat. -/
structure Chat where
  id : Int
  kind : String
  deriving DecidableEq, Repr

/-- A message. -/
structure Message where
  id : Int
  chat : Chat
  sender : Option User
  text : Option String
  deriving DecidableEq, Repr

/-- An update. -/
structure Update where
  id : Int
  message : Option Message
  deriving DecidableEq, Repr

/-- A text that is to be handled: its chat, the number of its sender if there is one, and the
text. -/
structure Incoming where
  chat : Int
  user : Option Int
  text : String
  deriving DecidableEq, Repr

/-- The text that an update asks to handle. -/
def Update.incoming? (u : Update) : Option Incoming := do
  let message ← u.message
  let text ← message.text
  return ⟨message.chat.id, message.sender.map (·.id), text⟩

/-! ## Reading -/

/-- Reads a user. -/
def User.ofJson : Json → Checked User :=
  object "User" fun fields =>
    (join (required "id" integer fields)
      (join (withDefault "is_bot" false truthValue fields)
        (join (withDefault "first_name" "" text fields)
          (withDefault "username" none (nullable text) fields)))).map
      fun (id, isBot, firstName, username) => { id, isBot, firstName, username }

/-- Reads a chat. -/
def Chat.ofJson : Json → Checked Chat :=
  object "Chat" fun fields =>
    (join (required "id" integer fields) (withDefault "type" "private" text fields)).map
      fun (id, kind) => { id, kind }

/-- The field in which the sender stands. -/
def senderField (fields : List (String × Json)) : String :=
  if (Json.fieldOf "from" fields).isSome then "from" else "from_user"

/-- Reads a message. -/
def Message.ofJson : Json → Checked Message :=
  object "Message" fun fields =>
    (join (required "message_id" integer fields)
      (join (required "chat" Chat.ofJson fields)
        (join (withDefault (senderField fields) none (nullable User.ofJson) fields)
          (withDefault "text" none (nullable Shape.text) fields)))).map
      fun (id, chat, sender, text) => { id, chat, sender, text }

/-- Reads an update. -/
def Update.ofJson : Json → Checked Update :=
  object "Update" fun fields =>
    (join (required "update_id" integer fields)
      (withDefault "message" none (nullable Message.ofJson) fields)).map
      fun (id, message) => { id, message }

end ChatRiddles
