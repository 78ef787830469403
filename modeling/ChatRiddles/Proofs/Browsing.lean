import ChatRiddles.Proofs.EncodedTargets
import ChatRiddles.Proofs.Playable
import ChatRiddles.Proofs.Registrations
import ChatRiddles.Proofs.ShortIntegers
import ChatRiddles.Service.Web
/-!
# Riddles on the web

In every run, the list of riddles tells about each riddle that has been registered and not removed
since, in the order in which they have been registered. What is found behind the code of one of
them, percent-encoded, is the riddle with a definition that compiles to its own, if and only if the
code is a piece of a path: it is not empty and holds no slash, and, for a client that resolves
paths, it does not lead elsewhere in a tree of folders.

An answer holds no integer of more than 4300 digits, so it cannot tell about a riddle that has one.
A riddle that is created in a dialogue has none, unless it is the number of an administrator.

Main definitions: `Catalogue.deedsOf` (what has been done in a history), `Web.Lists`, `Web.Shows`,
`Web.Answerable`. Main statement: `Web.shown_iff_isPiece`.
-/

namespace ChatRiddles

open Number Text

/-! ## The history of a catalogue -/

namespace Catalogue

variable {c c' : Catalogue} {deeds : List Deed}

/-- What has been done between two states of a catalogue, as it shows: the codes that are gone, and
the riddles whose codes are new. -/
def deedsTo (c c' : Catalogue) : List Deed :=
  (c.codes.filter fun code => !c'.contains code).map .removed ++
    (c'.riddles.filter fun r => !c.contains r.code).map .registered

/-- What has been done in a history of a catalogue. -/
def deedsOf : List Catalogue → List Deed
  | c :: c' :: rest => c.deedsTo c' ++ deedsOf (c' :: rest)
  | _ => []

/-- The deeds of a longer history are those of the shorter one and those of its last step. -/
theorem deedsOf_concat (history : List Catalogue) (c c' : Catalogue) :
    deedsOf (history ++ [c] ++ [c']) = deedsOf (history ++ [c]) ++ c.deedsTo c' := by
  induction history with
  | nil => exact List.append_nil _
  | cons first rest ih =>
    cases rest with
    | nil =>
      show first.deedsTo c ++ (c.deedsTo c' ++ []) = first.deedsTo c ++ [] ++ c.deedsTo c'
      rw [List.append_nil, List.append_nil]
    | cons second rest =>
      show first.deedsTo second ++ deedsOf (second :: rest ++ [c] ++ [c']) =
        first.deedsTo second ++ deedsOf (second :: rest ++ [c]) ++ c.deedsTo c'
      rw [ih, List.append_assoc]

/-- No code is gone if every code that was taken is still taken. -/
theorem filter_gone_eq_nil (h : ∀ code ∈ c.codes, code ∈ c'.codes) :
    (c.codes.filter fun code => !c'.contains code) = [] := by
  rw [List.filter_eq_nil_iff]
  intro code hcode
  have hcontains : c'.contains code = true := List.contains_iff_mem.mpr (h code hcode)
  simp [hcontains]

/-- No riddle is new if its code was taken. -/
theorem filter_new_eq_nil {riddles : List Riddle} (h : ∀ r ∈ riddles, r.code ∈ c.codes) :
    (riddles.filter fun r => !c.contains r.code) = [] := by
  rw [List.filter_eq_nil_iff]
  intro r hr
  have hcontains : c.contains r.code = true := List.contains_iff_mem.mpr (h r hr)
  simp [hcontains]

/-- If a code is removed, it is gone if it was taken, and no other is. -/
theorem filter_gone_erase (code : String) :
    (c.codes.filter fun other => !(c.erase code).contains other) =
      if code ∈ c.codes then [code] else [] := by
  have hgone : ∀ other ∈ c.codes, (!(c.erase code).contains other) = (other == code) := by
    intro other hother
    obtain ⟨r, hr⟩ := mem_codes_iff.mp hother
    by_cases h : other = code
    · have hfree : (c.erase code).get? other = none := by rw [get?_erase, if_pos h]
      have hcontains : (c.erase code).contains other = false := by
        rw [← Bool.not_eq_true]
        intro hc
        exact get?_eq_none_iff.mp hfree (List.contains_iff_mem.mp hc)
      rw [hcontains, beq_iff_eq.mpr h]
      rfl
    · have hkept : (c.erase code).get? other = some r := by rw [get?_erase, if_neg h, hr]
      rw [contains_iff.mpr ⟨r, hkept⟩, beq_eq_false_iff_ne.mpr h]
      rfl
  have hdistinct : c.codes.Nodup := c.distinct
  rw [List.filter_congr hgone, List.filter_beq, hdistinct.count]
  split
  · rfl
  · rfl

/-- What shows of a change is what has been done. -/
theorem standing_deedsTo (h : c.Change c') (hs : standing deeds = c.riddles) :
    standing (deeds ++ c.deedsTo c') = c'.riddles := by
  unfold deedsTo
  cases h with
  | same =>
    rw [filter_gone_eq_nil fun _ h => h, filter_new_eq_nil fun _ h => List.mem_map_of_mem h]
    simpa using hs
  | erased code =>
    have hnew : ∀ r ∈ (c.erase code).riddles, r.code ∈ c.codes := fun r hr =>
      List.mem_map_of_mem (List.mem_of_mem_filter hr)
    rw [filter_gone_erase, filter_new_eq_nil hnew, List.map_nil, List.append_nil]
    by_cases hcode : code ∈ c.codes
    · rw [if_pos hcode, List.map_singleton, standing_concat_removed, hs]
      rfl
    · rw [if_neg hcode, List.map_nil, List.append_nil, hs]
      -- there is no riddle to remove
      symm
      refine List.filter_eq_self.mpr fun r hr => bne_iff_ne.mpr fun heq => hcode ?_
      rw [← heq]
      exact List.mem_map_of_mem hr
  | registered r free document compiled =>
    have hkept : ∀ code ∈ c.codes, code ∈ (c.append r free).codes := by
      intro code hcode
      rw [codes, append, List.map_append]
      exact List.mem_append_left _ hcode
    have hnew : ((c.append r free).riddles.filter fun r' => !c.contains r'.code) = [r] := by
      rw [append, List.filter_append, filter_new_eq_nil fun _ h => List.mem_map_of_mem h]
      simp [free]
    rw [filter_gone_eq_nil hkept, hnew, List.map_nil, List.nil_append, List.map_singleton,
      standing_concat_registered, hs]
    rfl

end Catalogue

namespace Concurrent

variable {admins : Admins} {c : Concurrent} {past : List Concurrent} {source : CodeSource}

/-- The history of the catalogue in a run. -/
def catalogues (states : List Concurrent) : List Catalogue := states.map (·.bot.catalogue)

/-- In every run, the riddles are those that have been registered and not removed since. -/
theorem standing_of_run (h : Run admins (idle (Bot.start source)) past c) :
    Catalogue.standing (Catalogue.deedsOf (catalogues (past ++ [c]))) =
      c.bot.catalogue.riddles := by
  induction h with
  | start => rfl
  | @next past c c' before what happens ih =>
    have hstates : catalogues (past ++ [c] ++ [c']) =
        catalogues past ++ [c.bot.catalogue] ++ [c'.bot.catalogue] := by
      simp [catalogues]
    have hbefore : catalogues (past ++ [c]) = catalogues past ++ [c.bot.catalogue] := by
      simp [catalogues]
    rw [hbefore] at ih
    rw [hstates, Catalogue.deedsOf_concat]
    exact Catalogue.standing_deedsTo (change_of_happen happens) ih

/-- In every run, the definitions of the riddles have been compiled. -/
theorem compiled_of_run (h : Run admins (idle (Bot.start source)) past c) {r : Riddle}
    (hr : r ∈ c.bot.catalogue.riddles) :
    ∃ document, Definition.ofDocument document = .ok r.definition := by
  induction h with
  | start => cases hr
  | next before what happens ih =>
    have hget := Catalogue.get?_of_mem hr
    rcases (change_of_happen happens).get?_eq_some hget with hold | ⟨-, hnew⟩
    · exact ih (List.mem_of_find?_eq_some hold)
    · exact hnew

/-- A riddle that has been created in a dialogue belongs to an administrator, and its definition has
been read from a text. -/
theorem ofText_of_createdIn (h : Run admins (idle (Bot.start source)) past c)
    {code? : Option String} {r : Riddle} (hr : CreatedIn admins (past ++ [c]) code? r) :
    r.creator ∈ admins ∧ ∃ text, Definition.ofText text = .ok r.definition := by
  obtain ⟨x, y, hxy, hcreates⟩ := hr
  obtain ⟨before, what, hrun, hhappens⟩ := h.step_of_infix hxy
  obtain ⟨text, _, _, user, definition, g, hadmin, hread, hg, rfl⟩ :=
    hcreates.register (adminStep_of_happen hhappens)
  obtain ⟨-, -, hriddle⟩ := Catalogue.eq_append_of_register hg
  rw [hriddle]
  exact ⟨hadmin, text, hread⟩

end Concurrent

/-! ## The list and the riddles in it -/

namespace Route

/-- Without a line feed at its end, a path in the folder is still one. -/
theorem exists_withoutLineFeed (cs : List Char) :
    ∃ ds, withoutLineFeed (Target.riddleFolder ++ cs) = Target.riddleFolder ++ ds := by
  unfold withoutLineFeed
  split
  next hlast =>
    have hne : cs ≠ [] := by
      rintro rfl
      exact absurd hlast (by decide)
    exact ⟨cs.dropLast, List.dropLast_append_of_ne_nil hne⟩
  next => exact ⟨cs, rfl⟩

/-- No path in the folder is one of the fixed ones. -/
theorem lookup_fixed_riddleFolder (cs : List Char) :
    fixed.lookup (String.ofList (Target.riddleFolder ++ cs)) = none := by
  rw [List.lookup_eq_none_iff]
  intro entry hentry
  rw [bne_iff_ne]
  intro heq
  have hprefix : Target.riddleFolder <+: entry.1.toList := by
    rw [← heq, String.toList_ofList]
    exact List.prefix_append _ _
  have hnone : ∀ entry ∈ fixed, ¬ Target.riddleFolder <+: entry.1.toList := by decide
  exact hnone entry hentry hprefix

/-- Below the folder of riddles stands a code if it is not empty and has no slash in it. -/
theorem codeIn?_riddleFolder (cs : List Char) :
    codeIn? (Target.riddleFolder ++ cs) =
      if cs ≠ [] ∧ '/' ∉ cs then some (String.ofList cs) else none := by
  have hfolder : "/api/riddles/".toList = Target.riddleFolder := rfl
  have hstart : Target.riddleFolder.isPrefixOf (Target.riddleFolder ++ cs) = true :=
    List.isPrefixOf_iff_prefix.mpr (List.prefix_append _ _)
  simp only [codeIn?, hfolder, hstart, List.drop_left, Bool.true_and]
  by_cases hempty : cs = []
  · simp [hempty]
  · by_cases hslash : '/' ∈ cs
    · simp [hslash]
    · simp [hempty, hslash]

/-- Everything in the folder of the riddles that is a piece of a path leads to a riddle, and nothing
else in it leads anywhere. -/
theorem ofPath?_riddleFolder (cs : List Char) :
    ofPath? (Target.riddleFolder ++ cs) =
      if cs ≠ [] ∧ '/' ∉ cs then some (.riddle (String.ofList cs)) else none := by
  obtain ⟨ds, hds⟩ := exists_withoutLineFeed cs
  rw [ofPath?, hds, lookup_fixed_riddleFolder]
  show (codeIn? (Target.riddleFolder ++ cs)).map Route.riddle = _
  rw [codeIn?_riddleFolder]
  split
  · rfl
  · rfl

end Route

namespace Web

/-- A value tells the code, the name, the description and the creator of a riddle. -/
structure Tells (v : Json) (r : Riddle) : Prop where
  code : v.field? "code" = some (.string r.code)
  name : v.field? "name" = some (.string r.name)
  description : v.field? "description" = some (.string r.description)
  creator : v.field? "creator" = some (.int r.creator)

/-- A response is a list that tells about riddles, in order. -/
def Lists (response : Response) (riddles : List Riddle) : Prop :=
  response.status = 200 ∧
    ∃ items, response.content = .json (.array items) ∧ List.Forall₂ Tells items riddles

/-- A response tells about a riddle and has a definition that compiles to its own. -/
def Shows (response : Response) (r : Riddle) : Prop :=
  response.status = 200 ∧ ∃ v definition, response.content = .json v ∧ Tells v r ∧
    v.field? "definition" = some definition ∧ Definition.ofJson definition = .ok r.definition

/-- The target of the list of riddles. -/
def listTarget : String := "/api/riddles"

/-- The target of the riddle of a code. -/
def targetOf (code : String) : String :=
  String.ofList (Target.riddleFolder ++ Percent.encode code.toList)

/-- A code is a piece of a path: neither is it empty, nor does it end in the middle. -/
def IsPiece (code : String) : Prop := code ≠ "" ∧ '/' ∉ code.toList

/-- A code leads elsewhere in a tree of folders. -/
def LeadsElsewhere (code : String) : Prop := code = "." ∨ code = ".."

/-- The number of the creator of a riddle fits into an answer. -/
def CreatorFits (r : Riddle) : Prop := (naturalText r.creator.natAbs).length ≤ maxDigits

/-- All that is told about a riddle fits into an answer. -/
structure Answerable (r : Riddle) : Prop where
  creator : CreatorFits r
  chats : r.definition.toDocument.ChatsFit maxDigits

variable {s : Settings} {course : Course} {b : Bot} {r : Riddle} {route : Route}
variable {headers : List (String × String)} {body : List UInt8} {target : String}

/-- A request is answered by the route of its path, if the method is that of the route. -/
theorem respondIn_of_route (h : Route.ofPath? (Target.path target) = some route)
    (hmethod : route.method = "GET") :
    (respondIn s course b ⟨"GET", target, headers, body⟩).outcome =
      (respondTo s course b ⟨"GET", target, headers, body⟩ route).outcome := by
  simp only [respondIn, h, if_pos hmethod]
  rfl

/-- Where nothing is found, the status is no success. -/
theorem status_of_no_route (h : Route.ofPath? (Target.path target) = none) :
    (respondIn s course b ⟨"GET", target, headers, body⟩).outcome.status ≠ 200 := by
  have houtcome : (respondIn s course b ⟨"GET", target, headers, body⟩).outcome =
      if ((Route.otherPath? (Target.path target)).bind Route.ofPath?).isSome then Response.moved
      else Response.notFound := by
    simp only [respondIn, h]
    rfl
  rw [houtcome]
  split
  · decide
  · decide

/-- An answer succeeds with a value that it can hold, and with no other. -/
theorem ofJson_succeeds_iff {v : Json} :
    (Response.ofJson 200 v).status = 200 ↔ v.isUnanswerable = false := by
  have hbroken : Response.broken.status ≠ 200 := by decide
  unfold Response.ofJson
  cases v.isUnanswerable with
  | true => exact ⟨fun h => absurd h hbroken, fun h => (nomatch h)⟩
  | false => exact ⟨fun _ => rfl, fun _ => rfl⟩

/-- An answer that succeeds holds its value. -/
theorem content_ofJson {v : Json} (h : (Response.ofJson 200 v).status = 200) :
    (Response.ofJson 200 v).content = .json v := by
  rw [Response.ofJson, if_neg (Bool.eq_false_iff.mp (ofJson_succeeds_iff.mp h))]

theorem isUnanswerable_summary_iff :
    (Json.object (summary r)).isUnanswerable = false ↔ CreatorFits r := by
  unfold CreatorFits
  rw [← Json.isUnanswerable_int_iff, summary, Json.isUnanswerable_object_iff]
  simp only [List.forall_mem_cons]
  exact ⟨fun h => h.2.2.2.1, fun h => ⟨rfl, rfl, rfl, h, fun _ hf => absurd hf List.not_mem_nil⟩⟩

theorem isUnanswerable_details_iff : (details r).isUnanswerable = false ↔ Answerable r := by
  rw [details, Json.isUnanswerable_object_iff, List.forall_mem_append, List.forall_mem_singleton,
    ← Json.isUnanswerable_object_iff, isUnanswerable_summary_iff,
    Document.isUnanswerable_toJson_iff]
  exact ⟨fun h => ⟨h.1, h.2⟩, fun h => ⟨h.creator, h.chats⟩⟩

/-- The list of riddles is answered with all riddles in order, if their creators fit into it. -/
theorem lists_riddles_iff :
    Lists (respondIn s course b ⟨"GET", listTarget, headers, body⟩).outcome b.catalogue.riddles ↔
      ∀ r ∈ b.catalogue.riddles, CreatorFits r := by
  have hroute : Route.ofPath? (Target.path listTarget) = some .riddles := by decide +kernel
  have hfits : (Json.array (b.catalogue.riddles.map fun r => .object (summary r))).isUnanswerable =
      false ↔ ∀ r ∈ b.catalogue.riddles, CreatorFits r := by
    rw [Json.isUnanswerable_array_iff, List.forall_mem_map]
    simp only [isUnanswerable_summary_iff]
  rw [respondIn_of_route hroute rfl, ← hfits, ← ofJson_succeeds_iff]
  refine ⟨fun h => h.1, fun h => ⟨h, _, content_ofJson h, ?_⟩⟩
  rw [List.forall₂_map_left_iff, List.forall₂_same]
  exact fun r _ => ⟨rfl, rfl, rfl, rfl⟩

/-- The details of a riddle whose definition has been compiled show it, if they fit into an
answer. -/
theorem shows_details_iff {document : Document}
    (h : Definition.ofDocument document = .ok r.definition) :
    Shows (.ofJson 200 (details r)) r ↔ Answerable r := by
  have hdocument : r.definition.toDocument = document := Definition.toDocument_of_ofDocument h
  have hread : Document.ofJson r.definition.toDocument.toJson = .ok r.definition.toDocument :=
    Document.ofJson_eq_ok_iff.mpr (Document.describedBy_toJson _)
  have hcompiled : Definition.ofJson r.definition.toDocument.toJson = .ok r.definition := by
    rw [Definition.ofJson, Definition.ofJsonIn_of_document .value hread, hdocument]
    exact h
  rw [← isUnanswerable_details_iff, ← ofJson_succeeds_iff]
  exact ⟨fun h => h.1, fun h => ⟨h, details r, _, content_ofJson h, ⟨rfl, rfl, rfl, rfl⟩, rfl,
    hcompiled⟩⟩

/-- A riddle is shown behind its code if and only if the code is a piece of a path, and the riddle
fits into an answer. -/
theorem shows_iff_isPiece (hr : r ∈ b.catalogue.riddles) {document : Document}
    (hcompiled : Definition.ofDocument document = .ok r.definition) :
    Shows (respondIn s course b ⟨"GET", targetOf r.code, headers, body⟩).outcome r ↔
      IsPiece r.code ∧ Answerable r := by
  have hpath : Target.path (targetOf r.code) = Target.riddleFolder ++ r.code.toList :=
    Target.path_encoded _
  have hroute := Route.ofPath?_riddleFolder r.code.toList
  rw [← hpath] at hroute
  by_cases hpiece : r.code.toList ≠ [] ∧ '/' ∉ r.code.toList
  · rw [if_pos hpiece, String.ofList_toList] at hroute
    have hne : r.code ≠ "" := fun h => hpiece.1 (by rw [h]; rfl)
    have hfound : b.catalogue.get? r.code = some r := Catalogue.get?_of_mem hr
    rw [respondIn_of_route hroute rfl]
    simp only [respondTo, hfound]
    rw [← shows_details_iff hcompiled]
    exact (and_iff_right ⟨hne, hpiece.2⟩).symm
  · rw [if_neg hpiece] at hroute
    refine ⟨fun h => absurd h.1 (status_of_no_route hroute), fun h => absurd ⟨?_, h.1.2⟩ hpiece⟩
    exact fun hnil => h.1.1 (String.toList_injective hnil)

/-- The list shows no riddle. -/
theorem not_shows_riddles {request : Request} :
    ¬ Shows (respondTo s course b request .riddles).outcome r := by
  rintro ⟨hstatus, v, definition, hv, -, hfield, -⟩
  have hcontent : (respondTo s course b request .riddles).outcome.content =
      .json (.array (b.catalogue.riddles.map fun r => .object (summary r))) :=
    content_ofJson hstatus
  rw [hcontent] at hv
  injection hv with hv
  rw [← hv] at hfield
  cases hfield

/-- A client that resolves paths is shown it unless the code leads elsewhere. -/
theorem shows_sent_iff (hr : r ∈ b.catalogue.riddles) {document : Document}
    (hcompiled : Definition.ofDocument document = .ok r.definition) :
    Shows (respondIn s course b ⟨"GET", Target.sent (targetOf r.code), headers, body⟩).outcome r ↔
      IsPiece r.code ∧ ¬ LeadsElsewhere r.code ∧ Answerable r := by
  by_cases hdot : r.code = "."
  · -- the list is found
    have hroute : Route.ofPath? (Target.path (Target.sent (targetOf "."))) = some .riddles := by
      decide +kernel
    rw [hdot, respondIn_of_route hroute rfl]
    refine ⟨fun h => absurd h not_shows_riddles, fun h => absurd (.inl rfl) h.2.1⟩
  by_cases hdots : r.code = ".."
  · have hroute : Route.ofPath? (Target.path (Target.sent (targetOf ".."))) = none := by
      decide +kernel
    rw [hdots]
    exact ⟨fun h => absurd h.1 (status_of_no_route hroute), fun h => absurd (.inr rfl) h.2.1⟩
  have hsent : Target.sent (targetOf r.code) = targetOf r.code := by
    apply Target.sent_encoded
    · exact fun h => hdot (String.toList_injective h)
    · exact fun h => hdots (String.toList_injective h)
  have hhere : ¬ LeadsElsewhere r.code := fun helse => helse.elim hdot hdots
  rw [hsent, shows_iff_isPiece hr hcompiled, and_iff_right hhere]

/-- In every run, the list of riddles tells about the riddles that have been registered and not
removed since, in the order in which they have been registered. Behind the code of one of them,
percent-encoded, the riddle is shown with a definition that compiles to its own, if and only if the
code is a piece of a path. A client that resolves paths is shown the same list, and the riddles
whose codes do not lead elsewhere.

An answer cannot hold an integer of more than 4300 digits, so riddles that have one are not told
about. The creator of a riddle that has been created in a dialogue is an administrator, and no
integer but the creator's number can be that long in it. -/
theorem shown_iff_isPiece {admins : Admins} {source : CodeSource} {past : List Concurrent}
    {c : Concurrent} (h : Concurrent.Run admins (Concurrent.idle (Bot.start source)) past c)
    (s : Settings) (course : Course) (headers : List (String × String)) (body : List UInt8) :
    let riddles := Catalogue.standing (Catalogue.deedsOf (Concurrent.catalogues (past ++ [c])))
    let get (target : String) := (respondIn s course c.bot ⟨"GET", target, headers, body⟩).outcome
    ((Lists (get listTarget) riddles ↔ ∀ r ∈ riddles, CreatorFits r) ∧
        ∀ r ∈ riddles, Shows (get (targetOf r.code)) r ↔ IsPiece r.code ∧ Answerable r) ∧
      ((Lists (get (Target.sent listTarget)) riddles ↔ ∀ r ∈ riddles, CreatorFits r) ∧
        ∀ r ∈ riddles, Shows (get (Target.sent (targetOf r.code))) r ↔
          IsPiece r.code ∧ ¬ LeadsElsewhere r.code ∧ Answerable r) ∧
      ∀ code? r, Concurrent.CreatedIn admins (past ++ [c]) code? r →
        r.creator ∈ admins ∧ (Answerable r ↔ CreatorFits r) := by
  intro riddles get
  have hriddles : riddles = c.bot.catalogue.riddles := Concurrent.standing_of_run h
  have hsent : Target.sent listTarget = listTarget := by decide +kernel
  rw [hriddles, hsent]
  refine ⟨⟨lists_riddles_iff, fun r hr => ?_⟩, ⟨lists_riddles_iff, fun r hr => ?_⟩,
    fun code? r hr => ?_⟩
  · obtain ⟨document, hcompiled⟩ := Concurrent.compiled_of_run h hr
    exact shows_iff_isPiece hr hcompiled
  · obtain ⟨document, hcompiled⟩ := Concurrent.compiled_of_run h hr
    exact shows_sent_iff hr hcompiled
  · obtain ⟨hadmin, text, hread⟩ := Concurrent.ofText_of_createdIn h hr
    exact ⟨hadmin, fun h => h.creator, fun h => ⟨h, Definition.chatsFit_of_ofText hread⟩⟩

/-- A riddle is created under the code `k`, and shown behind its code. -/
theorem shown_iff_isPiece_typed :
    let s : Settings := ⟨"", "", [5], "", .ofInt 30⟩
    ∃ past c r, Concurrent.Run [5] (Concurrent.idle (Bot.start (.ofKnown []))) past c ∧
      r ∈ Catalogue.standing (Catalogue.deedsOf (Concurrent.catalogues (past ++ [c]))) ∧
      r.code = "k" ∧
      Shows (respondIn s (.always fun _ => none) c.bot
        ⟨"GET", Target.sent (targetOf "k"), [], []⟩).outcome r := by
  intro s
  have hcheck : Concurrent.checkDialogue "k" (fun _ => true) = true := by decide +kernel
  obtain ⟨past, c, r, hrun, hcreated, hr, hcode, -⟩ := Concurrent.exists_of_checkDialogue hcheck
  have hmem := List.mem_of_find?_eq_some hr
  rw [← Concurrent.standing_of_run hrun] at hmem
  obtain ⟨-, ⟨-, hshown⟩, hanswerable⟩ :=
    shown_iff_isPiece hrun s (.always fun _ => none) [] []
  obtain ⟨hadmin, hfits⟩ := hanswerable _ r hcreated
  have hcreator : CreatorFits r := by
    rw [CreatorFits, List.mem_singleton.mp hadmin]
    decide
  have hpiece : IsPiece r.code ∧ ¬ LeadsElsewhere r.code := by
    rw [hcode]
    unfold IsPiece LeadsElsewhere
    decide
  have hshows := (hshown r hmem).mpr ⟨hpiece.1, hpiece.2, hfits.mpr hcreator⟩
  rw [hcode] at hshows
  exact ⟨past, c, r, hrun, hmem, hcode, hshows⟩

/-- A riddle is created under the code `a/b`. It is in the list, but nothing is found behind its
code. -/
theorem listed_not_shown :
    let s : Settings := ⟨"", "", [5], "", .ofInt 30⟩
    ∃ past c r, Concurrent.Run [5] (Concurrent.idle (Bot.start (.ofKnown []))) past c ∧
      let get (target : String) :=
        (respondIn s (.always fun _ => none) c.bot ⟨"GET", Target.sent target, [], []⟩).outcome
      Lists (get listTarget) c.bot.catalogue.riddles ∧ r ∈ c.bot.catalogue.riddles ∧
        r.code = "a/b" ∧ get (targetOf "a/b") = Response.notFound := by
  intro s
  have hcheck : Concurrent.checkDialogue "a/b" (fun c =>
      decide (c.bot.catalogue.riddles.map (·.creator) = [5])) = true := by
    decide +kernel
  obtain ⟨past, c, r, hrun, -, hr, hcode, hp⟩ := Concurrent.exists_of_checkDialogue hcheck
  have hcreators : ∀ r ∈ c.bot.catalogue.riddles, CreatorFits r := by
    intro r hr
    have hcreator : r.creator ∈ [(5 : Int)] := of_decide_eq_true hp ▸ List.mem_map_of_mem hr
    rw [CreatorFits, List.mem_singleton.mp hcreator]
    decide
  have hsent : Target.sent listTarget = listTarget := by decide +kernel
  have hroute : Route.ofPath? (Target.path (Target.sent (targetOf "a/b"))) = none := by
    decide +kernel
  have hother : (Route.otherPath? (Target.path (Target.sent (targetOf "a/b")))).bind
      Route.ofPath? = none := by
    decide +kernel
  have hnone : (respondIn s (.always fun _ => none) c.bot
      ⟨"GET", Target.sent (targetOf "a/b"), [], []⟩).outcome = Response.notFound := by
    simp only [respondIn, hroute, hother]
    rfl
  have hlists : Lists (respondIn s (.always fun _ => none) c.bot
      ⟨"GET", Target.sent listTarget, [], []⟩).outcome c.bot.catalogue.riddles := by
    rw [hsent]
    exact lists_riddles_iff.mpr hcreators
  exact ⟨past, c, r, hrun, hlists, List.mem_of_find?_eq_some hr, hcode, hnone⟩

end Web

end ChatRiddles
