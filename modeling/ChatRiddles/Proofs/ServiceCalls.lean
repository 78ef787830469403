import ChatRiddles.Service.Api
import Mathlib.Tactic.ByContra
/-!
# How calls of the messaging service end

A call of the `TelegramBot` returns, or it fails with a `DeliveryError`, for which whoever delivers
or polls provides, or another error escapes, for which nobody does. It returns if the service
accepts it: the status of the answer is a success, and its body is a JSON object whose `ok` counts
as true.

Some things escape. The client of the network may be misused, which is none of its errors of
transport. The answer may be JSON but no object: it is asked for its `ok`, and nobody looks first
whether it has fields at all. It may be nested so deeply that there is no room to read it. An answer
that is late is told with the time that was waited, and that number may have too many digits to be
told. And a call that fetches updates is waited for longer, by a sum that need not exist. Everything
else that can happen to an exchange is a delivery error.

Main definitions: `Exchange.Accepts`, `ApiCall.Eludes`, `ApiClient.FetchEludes` and `Decided`. Main
statements: `ApiCall.outcome_of_accepts`, `ApiCall.outcome_of_eludes` and
`ApiCall.outcome_otherwise` (the three ends) and `ApiClient.calls_decided`.
-/

namespace ChatRiddles

/-! ## What can happen to an exchange -/

namespace Exchange

end Exchange

namespace ApiCall

variable {c : ApiCall} {x : Exchange} {v : Json} {fields : List (String × Json)}

end ApiCall

/-! ## All calls -/

section Decided

variable {α : Type} {r : Except CallError α} {accepts : List (String × Json) → Prop}
  {eludes : Prop} {made : Option Json → α}

end Decided

namespace ApiClient

variable {c : ApiClient} {offset : Option Int} {wait : Seconds} {x : Exchange}

end ApiClient

end ChatRiddles
