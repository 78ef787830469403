import ChatRiddles.Proofs.Runs
/-!
# The catalogue is an ordered store

A catalogue is changed by calls: a riddle is to be registered, under a code or under one that is
drawn, or the riddle of a code is to be removed. A call that is refused does nothing.

What a catalogue holds is told by what has been done to it: the riddles that stand are those that
have been registered and not removed since, in the order in which they have been registered. A
riddle that is registered again after it has been removed comes last.

Main definitions: `Catalogue.Deed`, `Catalogue.standing`, `Store.call`. Main statements:
`Store.riddles_call` (one call), `Store.riddles_calls` (calls in a row) and
`Store.orderly_of_calls`.
-/

namespace ChatRiddles

/-! ## The riddles that stand -/

namespace Catalogue

/-- What has been done to a catalogue. -/
inductive Deed where
  | registered (r : Riddle)
  | removed (code : String)

/-- Whether a deed removes the riddle of a code. -/
def Deed.removes (code : String) : Deed → Bool
  | .registered _ => false
  | .removed other => other == code

/-- The riddles that stand after deeds: those that have been registered and not removed since, in
the order in which they have been registered. -/
def standing : List Deed → List Riddle
  | [] => []
  | .registered r :: later =>
    if later.any (Deed.removes r.code) then standing later else r :: standing later
  | .removed _ :: later => standing later

variable {c : Catalogue} {deeds : List Deed} {r : Riddle} {code : String} {d : Draft}

/-- A riddle that is registered comes last. -/
theorem standing_concat_registered :
    standing (deeds ++ [Deed.registered r]) = standing deeds ++ [r] := by
  induction deeds with
  | nil => rfl
  | cons deed later ih =>
    cases deed with
    | removed other => exact ih
    | registered first =>
      have hremoved : (later ++ [Deed.registered r]).any (Deed.removes first.code) =
          later.any (Deed.removes first.code) := by
        simp [Deed.removes]
      rw [List.cons_append, standing, standing, hremoved, ih]
      split
      · rfl
      · rfl

/-- The riddle of a code that is removed is gone, and the others stay in their order. -/
theorem standing_concat_removed :
    standing (deeds ++ [Deed.removed code]) = (standing deeds).filter (·.code != code) := by
  induction deeds with
  | nil => rfl
  | cons deed later ih =>
    cases deed with
    | removed other => exact ih
    | registered first =>
      have hremoved : (later ++ [Deed.removed code]).any (Deed.removes first.code) =
          (later.any (Deed.removes first.code) || code == first.code) := by
        simp [Deed.removes]
      rw [List.cons_append, standing, standing, hremoved, ih]
      by_cases hbefore : later.any (Deed.removes first.code) = true
      · rw [hbefore, Bool.true_or, if_pos rfl, if_pos rfl]
      · rw [Bool.eq_false_iff.mpr hbefore, Bool.false_or, if_neg Bool.false_ne_true]
        -- the riddle has stood up to here, so the code decides whether it stays
        by_cases hcode : code = first.code
        · rw [hcode, beq_self_eq_true, if_pos rfl, List.filter_cons_of_neg]
          simp
        · have hother : (code == first.code) = false := beq_eq_false_iff_ne.mpr hcode
          rw [hother, if_neg Bool.false_ne_true, List.filter_cons_of_pos]
          simpa using fun h => hcode h.symm

end Catalogue

/-! ## Codes that are drawn -/

namespace CodeSource

/-- The known codes that have not been drawn yet. -/
def script (s : CodeSource) : List String := s.known.drop s.drawn

variable {s : CodeSource} {taken : List String} {code : String} {before after : List String}

/-- Draws consume the script from its beginning. -/
theorem script_afterDraws (h : s.script = before ++ after) :
    (s.afterDraws before.length).script = after := by
  show s.known.drop (s.drawn + before.length) = after
  have hscript : s.known.drop s.drawn = before ++ after := h
  rw [← List.drop_drop, hscript, List.drop_left]

/-- The next codes are those of the script. -/
theorem upcoming_of_script {n : Nat} (h : s.script[n]? = some code) : s.upcoming n = code := by
  rw [script, List.getElem?_drop] at h
  simp only [upcoming, draw, afterDraws, h, Option.getD_some]

/-- Codes are drawn up to the first one that is not taken. -/
theorem drawWithin_of_upcoming {n tries : Nat} (hbefore : ∀ i < n, s.upcoming i ∈ taken)
    (hfree : s.upcoming n ∉ taken) (htries : n < tries) :
    drawWithin taken tries s = some (s.upcoming n, s.afterDraws (n + 1)) := by
  induction n generalizing s tries with
  | zero =>
    obtain ⟨tries, rfl⟩ : ∃ k, tries = k + 1 := Nat.exists_eq_add_one.mpr htries
    show (if taken.contains (s.upcoming 0) then _ else _) = _
    rw [if_neg fun h => hfree (List.contains_iff_mem.mp h)]
    rfl
  | succ n ih =>
    obtain ⟨tries, rfl⟩ : ∃ k, tries = k + 1 := Nat.exists_eq_add_one.mpr (Nat.zero_lt_of_lt htries)
    -- the first code is taken, and the others are those after one draw
    have hbefore' : ∀ i < n, (s.afterDraws 1).upcoming i ∈ taken := by
      intro i hi
      rw [← upcoming_succ]
      exact hbefore (i + 1) (Nat.succ_lt_succ hi)
    have hfree' : (s.afterDraws 1).upcoming n ∉ taken := by
      rwa [← upcoming_succ]
    have hsum : (s.afterDraws 1).afterDraws (n + 1) = s.afterDraws (n + 1 + 1) := by
      simp only [afterDraws, mk.injEq, true_and]
      omega
    have hrest := ih hbefore' hfree' (Nat.lt_of_succ_lt_succ htries)
    rw [← upcoming_succ, hsum] at hrest
    show (if taken.contains (s.upcoming 0) then drawWithin taken tries (s.afterDraws 1) else _) = _
    rw [if_pos (List.contains_iff_mem.mpr (hbefore 0 (Nat.succ_pos n))), hrest]

/-- The first code of the source that is free is drawn, and those before it are passed over. -/
theorem drawUntil_of_upcoming {n : Nat} (hbefore : ∀ i < n, s.upcoming i ∈ taken)
    (hfree : s.upcoming n ∉ taken) :
    s.drawUntil taken = (s.upcoming n, s.afterDraws (n + 1)) := by
  obtain ⟨m, hm, hfree'⟩ := s.exists_upcoming_not_mem taken
  have hle : n ≤ m := Nat.le_of_not_lt fun hlt => hfree' (hbefore m hlt)
  have hdraws := drawWithin_of_upcoming hbefore hfree (Nat.lt_succ_of_le (Nat.le_trans hle hm))
  simp only [drawUntil, hdraws, Option.get_some]

/-- Where the script has a code that is not taken, the first one is drawn. -/
theorem drawUntil_of_script (h : s.script = before ++ code :: after)
    (hbefore : ∀ x ∈ before, x ∈ taken) (hcode : code ∉ taken) :
    s.drawUntil taken = (code, s.afterDraws (before.length + 1)) := by
  have hlast : s.upcoming before.length = code := by
    refine upcoming_of_script ?_
    rw [h, List.getElem?_append_right (Nat.le_refl _), Nat.sub_self]
    rfl
  have htaken : ∀ i < before.length, s.upcoming i ∈ taken := by
    intro i hi
    have hnext : s.upcoming i = before[i] := by
      refine upcoming_of_script ?_
      rw [h, List.getElem?_append_left hi, List.getElem?_eq_getElem hi]
    rw [hnext]
    exact hbefore _ (List.getElem_mem hi)
  rw [← hlast] at hcode
  rw [drawUntil_of_upcoming htaken hcode, hlast]

end CodeSource

/-! ## Registering -/

namespace Catalogue

variable {c : Catalogue} {source source' : CodeSource} {code : String}

theorem contains_of_mem (h : code ∈ c.codes) : c.contains code = true :=
  List.contains_iff_mem.mpr h

theorem contains_of_not_mem (h : code ∉ c.codes) : c.contains code = false := by
  rw [← Bool.not_eq_true]
  exact fun hc => h (List.contains_iff_mem.mp hc)

/-- A riddle is registered under a code that is free. -/
theorem exists_register_given (h : code ∉ c.codes) (d : Draft) :
    ∃ g, c.register source (some code) d = .ok g ∧ g.riddle = d.withCode code ∧
      g.source = source := by
  have hfree : c.contains (d.withCode code).code = false := contains_of_not_mem h
  exact ⟨⟨d.withCode code, c.append (d.withCode code) hfree, source⟩, dif_pos hfree, rfl, rfl⟩

/-- Without a code, a riddle is registered under the code that the draws end with. -/
theorem exists_register_drawn (h : source.drawUntil c.codes = (code, source')) (d : Draft) :
    ∃ g, c.register source none d = .ok g ∧ g.riddle = d.withCode code ∧ g.source = source' := by
  obtain ⟨hcode, hsource⟩ := Prod.mk.inj h
  exact ⟨_, rfl, congrArg d.withCode hcode, hsource⟩

end Catalogue

/-! ## Calls -/

/-- What is asked of a catalogue. -/
inductive Call where
  -- a riddle is to be registered, under a code or under one that is drawn
  | register (code : Option String) (d : Catalogue.Draft)
  | remove (code : String)

/-- A catalogue, and where its random codes come from. -/
structure Store where
  catalogue : Catalogue
  source : CodeSource

namespace Store

open Catalogue

/-- What a call does, and the store after it. A call that is refused does nothing. -/
def call (s : Store) : Call → Option Deed × Store
  | .register code d =>
    match s.catalogue.register s.source code d with
    | .ok r => (some (.registered r.riddle), ⟨r.catalogue, r.source⟩)
    | .error _ => (none, s)
  | .remove code =>
    if s.catalogue.contains code then
      (some (.removed code), { s with catalogue := s.catalogue.erase code })
    else (none, s)

/-- What calls in a row do, and the store after them. -/
def calls (s : Store) (calls : List Call) : List Deed × Store :=
  calls.foldl (fun (deeds, s) c => (deeds ++ (s.call c).1.toList, (s.call c).2)) ([], s)

variable {s : Store} {deeds : List Deed} {r : Riddle} {code : String} {d : Draft}
  {before after : List String}

/-- A riddle that is refused changes nothing. -/
theorem call_register_of_error {code : Option String} {e : RegisterError}
    (h : s.catalogue.register s.source code d = .error e) :
    s.call (.register code d) = (none, s) := by
  rw [call, h]

/-- A riddle that is registered is reported, and both the riddles and the source have changed. -/
theorem call_register_of_ok {code : Option String} {g : Registered}
    (h : s.catalogue.register s.source code d = .ok g) :
    s.call (.register code d) = (some (.registered g.riddle), ⟨g.catalogue, g.source⟩) := by
  rw [call, h]

/-- What a call has done is what stands after it. -/
theorem riddles_call (h : s.catalogue.riddles = standing deeds) (c : Call) :
    (s.call c).2.catalogue.riddles = standing (deeds ++ (s.call c).1.toList) := by
  cases c with
  | register code d =>
    cases hr : s.catalogue.register s.source code d with
    | error e => rw [call_register_of_error hr, Option.toList_none, List.append_nil, h]
    | ok g =>
      obtain ⟨hfree, hcatalogue, -⟩ := eq_append_of_register hr
      rw [call_register_of_ok hr, Option.toList_some, standing_concat_registered, ← h, hcatalogue]
      rfl
  | remove code =>
    rw [call]
    split
    · rw [Option.toList_some, standing_concat_removed, ← h]
      rfl
    · rw [Option.toList_none, List.append_nil, h]

/-- What calls in a row have done is what stands after them. -/
theorem riddles_calls (source : CodeSource) (cs : List Call) :
    (calls ⟨.empty, source⟩ cs).2.catalogue.riddles =
      standing (calls ⟨.empty, source⟩ cs).1 := by
  -- the calls go on where others have ended, so the deeds before them are any
  have hrun : ∀ (deeds : List Deed) (s : Store), s.catalogue.riddles = standing deeds →
      let run := cs.foldl (fun (deeds, s) c => (deeds ++ (s.call c).1.toList, (s.call c).2))
        (deeds, s)
      run.2.catalogue.riddles = standing run.1 := by
    induction cs with
    | nil => exact fun _ _ h => h
    | cons c rest ih => exact fun deeds s h => ih _ _ (riddles_call h c)
  exact hrun [] ⟨.empty, source⟩ rfl

/-! ## One call -/

/-- A call registers a riddle, which comes last, and leaves the source as it is given. -/
structure Adds (s : Store) (c : Call) (r : Riddle) (source : CodeSource) : Prop where
  deed : (s.call c).1 = some (.registered r)
  riddles : (s.call c).2.catalogue.riddles = s.catalogue.riddles ++ [r]
  source : (s.call c).2.source = source

/-- Registering adds a riddle, with the source that is left. -/
theorem adds_of_register {code : Option String} {g : Registered}
    (h : s.catalogue.register s.source code d = .ok g) :
    s.Adds (.register code d) g.riddle g.source := by
  obtain ⟨hfree, hcatalogue, -⟩ := eq_append_of_register h
  have hcall := call_register_of_ok h
  refine ⟨congrArg (·.1) hcall, ?_, congrArg (·.2.source) hcall⟩
  rw [hcall, hcatalogue]
  rfl

/-- A code that is taken is refused. -/
theorem register_taken (h : code ∈ s.catalogue.codes) (d : Draft) :
    s.catalogue.register s.source (some code) d = .error (.taken code) := by
  rw [register, dif_neg]
  rw [contains_of_mem h]
  exact fun h => (nomatch h)

/-- A riddle is registered under a code that is free. -/
theorem adds_given (h : code ∉ s.catalogue.codes) (d : Draft) :
    s.Adds (.register (some code) d) (d.withCode code) s.source := by
  obtain ⟨g, hg, hriddle, hsource⟩ :=
    @exists_register_given s.catalogue s.source code h d
  rw [← hriddle, ← hsource]
  exact adds_of_register hg

/-- Without a code, the riddle is registered under the first known code that is free. -/
theorem adds_drawn (h : s.source.script = before ++ code :: after)
    (hbefore : ∀ x ∈ before, x ∈ s.catalogue.codes) (hcode : code ∉ s.catalogue.codes) (d : Draft) :
    s.Adds (.register none d) (d.withCode code) (s.source.afterDraws (before.length + 1)) := by
  have hdraws := CodeSource.drawUntil_of_script h hbefore hcode
  obtain ⟨g, hg, hriddle, hsource⟩ := exists_register_drawn hdraws d
  rw [← hriddle, ← hsource]
  exact adds_of_register hg

/-- A removal takes out the riddle of its code, if there is one. -/
theorem call_remove (code : String) :
    (s.call (.remove code)).1 =
        (if code ∈ s.catalogue.codes then some (.removed code) else none) ∧
      (s.call (.remove code)).2.catalogue.riddles =
        s.catalogue.riddles.filter (·.code != code) ∧
      (s.call (.remove code)).2.source = s.source := by
  rw [call]
  by_cases hc : code ∈ s.catalogue.codes
  · rw [if_pos (contains_of_mem hc), if_pos hc]
    exact ⟨rfl, rfl, rfl⟩
  · rw [contains_of_not_mem hc, if_neg Bool.false_ne_true, if_neg hc]
    refine ⟨rfl, ?_, rfl⟩
    symm
    rw [List.filter_eq_self]
    intro r hr
    have hne : r.code ≠ code := fun h => hc (h ▸ List.mem_map_of_mem hr)
    simpa using hne

/-- A riddle stays as it is in every call but the one that removes it. -/
theorem get?_call {c : Call} (hr : s.catalogue.get? code = some r) (hc : c ≠ .remove code) :
    (s.call c).2.catalogue.get? code = some r := by
  obtain ⟨hmem, hcode⟩ := get?_eq_some_iff.mp hr
  refine get?_eq_some_iff.mpr ⟨?_, hcode⟩
  cases c with
  | register given d =>
    cases hg : s.catalogue.register s.source given d with
    | error e =>
      rw [call_register_of_error hg]
      exact hmem
    | ok g =>
      rw [(adds_of_register hg).riddles]
      exact List.mem_append_left _ hmem
  | remove other =>
    have hother : r.code ≠ other := fun h => hc (by rw [← h, hcode])
    rw [(call_remove other).2.1]
    exact List.mem_filter.mpr ⟨hmem, bne_iff_ne.mpr hother⟩

/-! ## Calls in a row -/

/-- A store that is in order after deeds. -/
structure Orderly (deeds : List Deed) (s : Store) : Prop where
  -- the riddles are those that stand, in the order in which they have been registered
  listed : s.catalogue.riddles = standing deeds
  -- no two of them have one code
  different : ((standing deeds).map (·.code)).Nodup
  -- every riddle is found under its own code, and under no other
  found (code : String) (r : Riddle) :
    s.catalogue.get? code = some r ↔ r ∈ s.catalogue.riddles ∧ r.code = code
  -- a riddle whose code is given comes last, if the code is free
  given (code : String) (d : Draft) (free : code ∉ s.catalogue.codes) :
    s.Adds (.register (some code) d) (d.withCode code) s.source
  -- if the code is taken, it is refused, and nothing changes
  taken (code : String) (d : Draft) (mem : code ∈ s.catalogue.codes) :
    s.catalogue.register s.source (some code) d = .error (.taken code) ∧
      s.call (.register (some code) d) = (none, s)
  -- without a code, the script is consumed up to the first code that is free, and the riddle comes
  -- last under that one
  drawn (d : Draft) (some_free : ∃ code ∈ s.source.script, code ∉ s.catalogue.codes) :
    ∃ before code after, s.source.script = before ++ code :: after ∧
      (∀ x ∈ before, x ∈ s.catalogue.codes) ∧ code ∉ s.catalogue.codes ∧
      ∃ source : CodeSource, source.script = after ∧
        s.Adds (.register none d) (d.withCode code) source
  -- a removal takes out the riddle of its code, if there is one
  removed (code : String) :
    (s.call (.remove code)).1 =
        (if code ∈ s.catalogue.codes then some (.removed code) else none) ∧
      (s.call (.remove code)).2.catalogue.riddles =
        s.catalogue.riddles.filter (·.code != code) ∧
      (s.call (.remove code)).2.source = s.source
  -- a riddle stays as it is in every call but the one that removes it
  kept (c : Call) (code : String) (r : Riddle) (mem : s.catalogue.get? code = some r)
    (other : c ≠ .remove code) : (s.call c).2.catalogue.get? code = some r

/-- Whatever calls have been made on an empty catalogue, and whatever codes are drawn, the store is
in order. -/
theorem orderly_of_calls (source : CodeSource) (cs : List Call) :
    Orderly (calls ⟨.empty, source⟩ cs).1 (calls ⟨.empty, source⟩ cs).2 := by
  have hlisted := riddles_calls source cs
  generalize (calls ⟨.empty, source⟩ cs).1 = deeds at hlisted ⊢
  generalize (calls ⟨.empty, source⟩ cs).2 = s at hlisted ⊢
  refine ⟨hlisted, ?_, fun _ _ => get?_eq_some_iff, fun _ d h => adds_given h d, ?_, ?_,
    call_remove, fun _ _ _ => get?_call⟩
  · rw [← hlisted]
    exact s.catalogue.distinct
  · intro code d h
    have hrefused := register_taken h d
    exact ⟨hrefused, call_register_of_error hrefused⟩
  · -- the first known code that is free splits the script
    rintro d ⟨x, hx, hfree⟩
    have hsome : (s.source.script.find? fun code => !s.catalogue.contains code).isSome := by
      rw [List.find?_isSome]
      exact ⟨x, hx, by rw [contains_of_not_mem hfree]; rfl⟩
    obtain ⟨code, hfind⟩ := Option.isSome_iff_exists.mp hsome
    obtain ⟨hcode, before, after, hscript, hbefore⟩ := List.find?_eq_some_iff_append.mp hfind
    have htaken : ∀ x ∈ before, x ∈ s.catalogue.codes := by
      intro x hx
      have hcontains : s.catalogue.contains x = true := by simpa using hbefore x hx
      exact List.contains_iff_mem.mp hcontains
    have hcode' : code ∉ s.catalogue.codes := by
      intro hmem
      rw [contains_of_mem hmem] at hcode
      cases hcode
    have hafter : (s.source.afterDraws (before.length + 1)).script = after := by
      have hsplit : s.source.script = (before ++ [code]) ++ after := by
        rw [hscript, List.append_assoc]
        rfl
      have hdrop := CodeSource.script_afterDraws hsplit
      rwa [List.length_append] at hdrop
    exact ⟨before, code, after, hscript, htaken, hcode', _, hafter,
      adds_drawn hscript htaken hcode' d⟩

/-- A riddle of one state. -/
def door : Draft := ⟨"Door", "Closed.", 5, ⟨"a", [], [⟨"a", []⟩]⟩⟩

/-- A code is taken, so it is refused, and passed over twice where it is drawn. -/
theorem orderly_of_calls_collisions :
    let s := (calls ⟨.empty, (.ofKnown ["taken", "taken", "fresh"])⟩
      [.register (some "taken") door]).2
    "taken" ∈ s.catalogue.codes ∧ (∃ code ∈ s.source.script, code ∉ s.catalogue.codes) ∧
      s.catalogue.register s.source (some "taken") door = .error (.taken "taken") ∧
      ∃ source, s.Adds (.register none door) (door.withCode "fresh") source := by
  intro s
  have hs : Orderly _ s := orderly_of_calls (.ofKnown ["taken", "taken", "fresh"])
    [.register (some "taken") door]
  have hcodes : s.catalogue.codes = ["taken"] := by decide
  have hscript : s.source.script = ["taken", "taken", "fresh"] := by decide
  have hmem : "taken" ∈ s.catalogue.codes := by
    rw [hcodes]
    decide
  have hfree : ∃ code ∈ s.source.script, code ∉ s.catalogue.codes := by
    rw [hcodes, hscript]
    exact ⟨"fresh", by decide, by decide⟩
  obtain ⟨before, code, after, hsplit, -, hcode, source, -, hadds⟩ := hs.drawn door hfree
  -- no other code of the script is free
  have hfresh : code = "fresh" := by
    have hin : code ∈ s.source.script := by
      rw [hsplit]
      exact List.mem_append_right _ List.mem_cons_self
    rw [hscript] at hin
    rw [hcodes] at hcode
    simpa [List.mem_singleton.not.mp hcode] using hin
  rw [hfresh] at hadds
  exact ⟨hmem, hfree, (hs.taken "taken" door hmem).1, source, hadds⟩

end Store

end ChatRiddles
