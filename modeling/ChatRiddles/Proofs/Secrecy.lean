import ChatRiddles.Proofs.Pushing
/-!
# Requests without the secret

Where a secret is set, only those who know it can move the bot through the web service. A request
leaves the bot alone and makes no delivery unless it posts to the address for updates with the
secret in a header. So whoever looks at the bot, at its deliveries or at the responses to the
requests with the secret cannot tell whether there have been others.

The address for updates is found under two paths, since a line feed at the end of a path does not
count when its route is looked up.

Main definitions: `Request.postsSecretTo`, `Handled.LeavesAlone`. Main statements:
`Web.leavesAlone_respondIn` (one request) and `Web.serve_filter_postsSecret` (requests in a row).
-/

namespace ChatRiddles

/-! ## Requests that carry the secret -/

/-- The name of the header with the secret. -/
def Request.secretName : String := "x-telegram-bot-api-secret-token"

/-- The secret of the settings stands in a header of its name, which is read without regard to
case. -/
def Request.carriesSecret (s : Settings) (r : Request) : Bool :=
  r.headers.any fun h => h.1.toList.map Char.toLower == secretName.toList && h.2 == s.secret

/-- A request posts to one of some paths and carries the secret. -/
def Request.postsSecretTo (s : Settings) (paths : List (List Char)) (r : Request) : Bool :=
  r.method == "POST" && paths.contains (Target.path r.target) && r.carriesSecret s

/-- The path of the address for updates. -/
def Route.webhookPath : List Char := "/api/webhook".toList

/-- The paths under which the address for updates is found. -/
def Route.webhookPaths : List (List Char) := [webhookPath, webhookPath ++ ['\n']]

theorem Route.mem_webhookPaths {path : List Char} (h : ofPath? path = some .webhook) :
    path ∈ webhookPaths := by
  have hlookup : fixed.lookup (String.ofList (withoutLineFeed path)) = some .webhook := by
    unfold ofPath? at h
    split at h
    next route hroute => rw [hroute, h]
    next =>
      -- what is looked up elsewhere is a riddle
      obtain ⟨code, -, hcode⟩ := Option.map_eq_some_iff.mp h
      cases hcode
  have hpath : withoutLineFeed path = webhookPath := by
    have hname : String.ofList (withoutLineFeed path) = "/api/webhook" := by
      have hmem := Shape.mem_of_lookup_eq_some hlookup
      simpa [fixed] using hmem
    have hchars := congrArg String.toList hname
    rwa [String.toList_ofList] at hchars
  unfold withoutLineFeed at hpath
  split at hpath
  next hlast =>
    have hwhole : path = path.dropLast ++ ['\n'] := by
      rw [List.dropLast_append_getLast? _ hlast]
    rw [hwhole, hpath]
    exact List.mem_cons_of_mem _ List.mem_cons_self
  next =>
    rw [hpath]
    exact List.mem_cons_self

/-- A request that has the secret carries it, if there is one. -/
theorem Request.carriesSecret_of_hasSecret {s : Settings} {r : Request} (hs : s.secret ≠ "")
    (h : r.hasSecret s = true) : r.carriesSecret s = true := by
  have hheader : r.header? secretName = some s.secret := by
    rw [hasSecret, Bool.or_eq_true] at h
    rcases h with h | h
    · exact absurd (eq_of_beq h) hs
    · exact eq_of_beq h
  obtain ⟨header, hfind, hvalue⟩ := Option.map_eq_some_iff.mp hheader
  have hname : (header.1.toList.map Char.toLower == secretName.toList) = true := by
    simpa using List.find?_some hfind
  refine List.any_eq_true.mpr ⟨header, List.mem_of_find?_eq_some hfind, ?_⟩
  rw [hname, Bool.true_and]
  exact beq_iff_eq.mpr hvalue

/-- A post that finds the address for updates and is not among those with the secret lacks it. -/
theorem Request.hasSecret_eq_false {s : Settings} {r : Request} (hs : s.secret ≠ "")
    (hmethod : r.method = "POST") (hroute : Route.ofPath? (Target.path r.target) = some .webhook)
    (h : r.postsSecretTo s Route.webhookPaths = false) : r.hasSecret s = false := by
  rw [← Bool.not_eq_true]
  intro hsecret
  have hpost : (r.method == "POST") = true := beq_iff_eq.mpr hmethod
  have hpath : Route.webhookPaths.contains (Target.path r.target) = true :=
    List.contains_iff_mem.mpr (Route.mem_webhookPaths hroute)
  have hposts : r.postsSecretTo s Route.webhookPaths = true := by
    rw [postsSecretTo, hpost, hpath, carriesSecret_of_hasSecret hs hsecret]
    rfl
  rw [h] at hposts
  cases hposts

/-! ## One request -/

/-- What has been done leaves a bot alone: the bot is as before, and no delivery has been tried. -/
structure Handled.LeavesAlone {α : Type} (b : Bot) (h : Handled α) : Prop where
  bot : h.bot = b
  sent : h.sent = []
  tried : h.tried = 0

theorem Handled.LeavesAlone.withOutcome {α : Type} {b : Bot} {h : Handled α}
    (hb : h.LeavesAlone b) (outcome : α) :
    Handled.LeavesAlone b { h with outcome := outcome } :=
  ⟨hb.bot, hb.sent, hb.tried⟩

namespace Web

variable {s : Settings} {course : Course} {b : Bot} {r : Request}

/-- A request that is answered at once leaves the bot alone. -/
theorem leavesAlone_answer (b : Bot) (response : Response) : (answer b response).LeavesAlone b :=
  ⟨rfl, rfl, rfl⟩

/-- An update without the secret is read, but not handled. -/
theorem leavesAlone_receive (h : r.hasSecret s = false) :
    (receive s course b r).LeavesAlone b := by
  unfold receive
  cases r.update with
  | error response => exact leavesAlone_answer b response
  | ok u =>
    simp only [h, Bool.false_eq_true, if_false]
    exact ⟨rfl, rfl, rfl⟩

/-- All routes but the one for updates only read. -/
theorem leavesAlone_respondTo {route : Route} (h : route ≠ .webhook) :
    (respondTo s course b r route).LeavesAlone b := by
  cases route with
  | webhook => exact absurd rfl h
  | health => exact leavesAlone_answer b _
  | riddles => exact leavesAlone_answer b _
  | riddle code => exact leavesAlone_answer b _

/-- A request that does not post the secret to the address for updates leaves the bot alone. -/
theorem leavesAlone_respondIn (hs : s.secret ≠ "")
    (h : r.postsSecretTo s Route.webhookPaths = false) (course : Course) (b : Bot) :
    (respondIn s course b r).LeavesAlone b := by
  unfold respondIn
  -- the response is trimmed last, which makes no difference here
  apply Handled.LeavesAlone.withOutcome
  split
  next route hroute =>
    by_cases hmethod : route.method = r.method
    · rw [if_pos hmethod]
      by_cases hwebhook : route = .webhook
      · subst hwebhook
        apply leavesAlone_receive
        exact Request.hasSecret_eq_false hs hmethod.symm hroute h
      · exact leavesAlone_respondTo hwebhook
    · rw [if_neg hmethod]
      exact leavesAlone_answer b _
  next => exact leavesAlone_answer b _

/-! ## Requests in a row -/

/-- The responses to the requests that are kept. -/
def responsesTo (keep : Request → Bool) (requests : List Request) (responses : List Response) :
    List Response :=
  ((requests.zip responses).filter fun p => keep p.1).map (·.2)

/-- The responses to kept requests are told one by one. -/
theorem responsesTo_cons (keep : Request → Bool) (r : Request) (requests : List Request)
    (response : Response) (responses : List Response) :
    responsesTo keep (r :: requests) (response :: responses) =
      if keep r then response :: responsesTo keep requests responses
      else responsesTo keep requests responses := by
  unfold responsesTo
  rw [List.zip_cons_cons, List.filter_cons]
  split
  · rfl
  · rfl

/-- Requests that leave the bot alone can be left out. -/
theorem serve_filter {keep : Request → Bool} {requests : List Request}
    (h : ∀ r ∈ requests, keep r = false → ∀ course b, (respondIn s course b r).LeavesAlone b)
    (course : Course) (b : Bot) :
    let all := serve s course b requests
    let kept := serve s course b (requests.filter keep)
    all.bot = kept.bot ∧ all.sent = kept.sent ∧
      responsesTo keep requests all.outcome = kept.outcome := by
  induction requests generalizing course b with
  | nil => exact ⟨rfl, rfl, rfl⟩
  | cons r rest ih =>
    have hrest := ih fun r' hr' => h r' (List.mem_cons_of_mem _ hr')
    have hfirst := h r List.mem_cons_self
    intro all kept
    have hall : all = serve s course b (r :: rest) := rfl
    have hkept : kept = serve s course b ((r :: rest).filter keep) := rfl
    rw [hall, hkept, serve]
    by_cases hkeep : keep r = true
    · rw [List.filter_cons_of_pos hkeep, serve, responsesTo_cons, if_pos hkeep]
      generalize respondIn s course b r = first
      obtain ⟨hbot, hsent, hresponses⟩ := hrest (course.after first.tried) first.bot
      exact ⟨hbot, congrArg (first.sent ++ ·) hsent, congrArg (first.outcome :: ·) hresponses⟩
    · -- the request is left out, and the others begin where it began
      obtain ⟨hbot, hsent, htried⟩ := hfirst (Bool.eq_false_iff.mpr hkeep) course b
      rw [List.filter_cons_of_neg hkeep, responsesTo_cons, if_neg hkeep, hbot, hsent, htried,
        Course.after_zero, List.nil_append]
      exact hrest course b

/-- Where a secret is set, the requests that do not post it to the address for updates can be left
out: the bot ends up the same, the deliveries are the same, and so are the responses to the others.
Each of them, wherever it comes, makes no delivery and leaves the bot alone. -/
theorem serve_filter_postsSecret (s : Settings) (hs : s.secret ≠ "") (course : Course) (b : Bot)
    (requests : List Request) :
    let posts := Request.postsSecretTo s Route.webhookPaths
    let all := serve s course b requests
    let kept := serve s course b (requests.filter posts)
    all.bot = kept.bot ∧ all.sent = kept.sent ∧
      responsesTo posts requests all.outcome = kept.outcome ∧
      ∀ before r after, requests = before ++ r :: after → posts r = false →
        let done := serve s course b before
        let h := respondIn s (course.after done.tried) done.bot r
        h.sent = [] ∧ h.bot = done.bot := by
  intro posts all kept
  obtain ⟨hbot, hsent, hresponses⟩ : all.bot = kept.bot ∧ all.sent = kept.sent ∧
      responsesTo posts requests all.outcome = kept.outcome :=
    serve_filter (fun r _ hr => leavesAlone_respondIn hs hr) course b
  refine ⟨hbot, hsent, hresponses, ?_⟩
  intro before r after _ hr done h
  have halone : h.LeavesAlone done.bot := leavesAlone_respondIn hs hr _ _
  exact ⟨halone.sent, halone.bot⟩

/-- The riddles are asked for, and an update is posted three times: without the secret, with a wrong
one and with the right one. Only the last post counts. -/
theorem serve_filter_postsSecret_last :
    let s : Settings := ⟨"", "", [], "secret", .ofInt 30⟩
    let b := Bot.start (.ofKnown [])
    let right := Request.Posts.plain "secret" (Poller.texted [] 7 1 "/help")
    let requests : List Request := [⟨"GET", "/api/riddles", [], []⟩,
      { right with headers := right.headers.take 1 },
      Request.Posts.plain "word" (Poller.texted [] 7 1 "/help"), right]
    let all := serve s (.always fun _ => none) b requests
    "secret" ≠ "" ∧ all.sent = (serve s (.always fun _ => none) b [right]).sent ∧
      all.sent.map (·.chat) = [1] ∧ all.outcome.map (·.status) = [200, 403, 403, 200] := by
  intro s b right requests all
  have hs : s.secret ≠ "" := by decide
  obtain ⟨-, hsent, -⟩ := serve_filter_postsSecret s hs (.always fun _ => none) b requests
  have hkept : requests.filter (Request.postsSecretTo s Route.webhookPaths) = [right] := by
    have hposts : requests.map (Request.postsSecretTo s Route.webhookPaths) =
        [false, false, false, true] := by
      decide +kernel
    simp only [requests, List.map_cons, List.map_nil, List.cons.injEq, and_true] at hposts
    obtain ⟨h₁, h₂, h₃, h₄⟩ := hposts
    simp [requests, h₁, h₂, h₃, h₄]
  rw [hkept] at hsent
  exact ⟨hs, hsent, by decide +kernel, by decide +kernel⟩

/-- A post whose path is that of the address for updates with a line feed at its end is handled, so
it cannot be left out. -/
theorem posted_with_lineFeed :
    let s : Settings := ⟨"", "", [], "secret", .ofInt 30⟩
    let b := Bot.start (.ofKnown [])
    let r := { Request.Posts.plain "secret" (Poller.texted [] 7 1 "/help") with
      target := "/api/webhook%0A" }
    let literal := [r].filter (Request.postsSecretTo s [Route.webhookPath])
    Target.path r.target ≠ Route.webhookPath ∧ literal.length = 0 ∧
      (serve s (.always fun _ => none) b literal).sent.map (·.chat) = [] ∧
      (serve s (.always fun _ => none) b [r]).sent.map (·.chat) = [1] := by
  decide +kernel

end Web

end ChatRiddles
