import ChatRiddles.Pattern.Basic
/-!
# How deeply patterns are nested

Compiling a pattern takes calls inside each other, one for each pattern inside another. A
parenthesis of the text accounts for three of them at most: one for what it opens, one for a choice
in it, and one for its repetition. While a pattern is read, what has been built is bounded by the
parentheses that are closed, and each open parenthesis takes two calls at most.

Main statements: `Pattern.Reading.Within.close`, `Pattern.Level.Within.callsOf_finish_le`.
-/

namespace ChatRiddles.Pattern

mutual

/-- How many calls inside each other checking an item takes. -/
def Node.calls : Node → Nat
  | .code _ | .otherThan _ | .any | .set _ _ | .place _ | .backreference _ _ => 0
  | .group _ _ _ body | .atomic body | .repeated _ _ _ body | .look _ _ body => callsOf body + 1
  | .choice alternatives => callsOfChoice alternatives
  | .conditional _ yes none => callsOf yes + 1
  | .conditional _ yes (some no) => max (callsOf yes) (callsOf no) + 1

/-- How many calls a sequence takes. -/
def callsOf : List Node → Nat
  | [] => 0
  | n :: rest => max n.calls (callsOf rest)

/-- How many calls a choice takes. -/
def callsOfChoice : List (List Node) → Nat
  | [] => 0
  | a :: rest => max (callsOf a + 1) (callsOfChoice rest)

end

variable {k m : Nat} {n : Node} {items : List Node}

/-- The calls for items are bounded if those for each of them are. -/
theorem callsOf_le_iff : callsOf items ≤ m ↔ ∀ n ∈ items, n.calls ≤ m := by
  induction items with
  | nil => simp [callsOf]
  | cons n rest ih => rw [callsOf, Nat.max_le, ih, List.forall_mem_cons]

/-- An alternative takes one call more than its items. -/
theorem callsOfChoice_le_iff {alternatives : List (List Node)} :
    callsOfChoice alternatives ≤ m + 1 ↔ ∀ a ∈ alternatives, callsOf a ≤ m := by
  induction alternatives with
  | nil => simp [callsOfChoice]
  | cons a rest ih => rw [callsOfChoice, Nat.max_le, ih, List.forall_mem_cons, Nat.succ_le_succ_iff]

/-! ## Choices -/

/-- Taking out what alternatives start with adds no calls. -/
theorem callsOf_commonStart_le {first : List Node} {others : List (List Node)}
    (hfirst : callsOf first ≤ m) (hothers : ∀ a ∈ others, callsOf a ≤ m) :
    callsOf (commonStart first others).1 ≤ m ∧ callsOf (commonStart first others).2.1 ≤ m ∧
      ∀ a ∈ (commonStart first others).2.2, callsOf a ≤ m := by
  induction first generalizing others with
  | nil => exact ⟨hfirst, hfirst, hothers⟩
  | cons n rest ih =>
    unfold commonStart
    split
    · obtain ⟨hn, hrest⟩ := Nat.max_le.mp (callsOf.eq_2 n rest ▸ hfirst)
      have hdropped : ∀ a ∈ others.map (·.drop 1), callsOf a ≤ m := by
        intro a ha
        obtain ⟨other, hother, rfl⟩ := List.mem_map.mp ha
        have hle := callsOf_le_iff.mp (hothers other hother)
        exact callsOf_le_iff.mpr fun n' hn' => hle n' (List.mem_of_mem_drop hn')
      obtain ⟨hstart, hleft⟩ := ih hrest hdropped
      exact ⟨by rw [callsOf]; exact Nat.max_le.mpr ⟨hn, hstart⟩, hleft⟩
    · exact ⟨Nat.zero_le _, hfirst, hothers⟩

/-- A choice takes one call more than its alternatives. -/
theorem callsOf_sequenceOfChoice_le {first : List Node} {others : List (List Node)}
    (hfirst : callsOf first ≤ m) (hothers : ∀ a ∈ others, callsOf a ≤ m) :
    callsOf (sequenceOfChoice first others) ≤ m + 1 := by
  cases others with
  | nil => exact Nat.le_succ_of_le hfirst
  | cons second rest =>
    obtain ⟨hstart, hleft, hothers⟩ := callsOf_commonStart_le hfirst hothers
    have hbefore : ∀ n ∈ (commonStart first (second :: rest)).1, n.calls ≤ m + 1 := fun n hn =>
      Nat.le_succ_of_le (callsOf_le_iff.mp hstart n hn)
    unfold sequenceOfChoice
    dsimp only
    split
    · refine callsOf_le_iff.mpr (List.forall_mem_append.mpr ⟨hbefore, ?_⟩)
      exact List.forall_mem_singleton.mpr (by rw [Node.calls]; exact Nat.zero_le _)
    · refine callsOf_le_iff.mpr (List.forall_mem_append.mpr ⟨hbefore, ?_⟩)
      refine List.forall_mem_singleton.mpr ?_
      rw [Node.calls]
      exact callsOfChoice_le_iff.mpr (List.forall_mem_cons.mpr ⟨hleft, hothers⟩)

/-- Groups that give way to their items take no calls any more. -/
theorem callsOf_ungrouped_le (h : callsOf items ≤ m) : callsOf (ungrouped items) ≤ m := by
  refine callsOf_le_iff.mpr fun n hn => ?_
  obtain ⟨n', hn', hin⟩ := List.mem_flatMap.mp hn
  have hle : n'.calls ≤ m := callsOf_le_iff.mp h n' hn'
  split at hin
  · rw [Node.calls] at hle
    exact callsOf_le_iff.mp (Nat.le_of_succ_le hle) n hin
  · obtain rfl := List.mem_singleton.mp hin
    exact hle

/-! ## What has been read -/

/-- An item that has been read takes no more calls than so many parentheses account for; a
repetition takes one more. -/
def Node.Within (k : Nat) : Node → Prop
  | .repeated _ _ _ body => callsOf body ≤ 3 * k
  | n => n.calls ≤ 3 * k

/-- What a parenthesis has opened holds no more than so many parentheses account for. -/
def Opening.Within (k : Nat) : Opening → Prop
  | .noBranch _ yes => callsOf yes ≤ 3 * k + 1
  | _ => True

/-- A level holds no more than so many parentheses account for. -/
structure Level.Within (k : Nat) (l : Level) : Prop where
  items : ∀ n ∈ l.items, n.Within k
  alternatives : ∀ a ∈ l.alternatives, callsOf a ≤ 3 * k + 1

/-- An open parenthesis and the level around it hold no more than so many parentheses account
for. -/
structure Frame.Within (k : Nat) (f : Frame) : Prop where
  opening : f.opening.Within k
  outer : f.outer.Within k

/-- What has been read holds no more than so many parentheses account for. -/
structure Reading.Within (k : Nat) (r : Reading) : Prop where
  level : r.level.Within k
  frames : ∀ f ∈ r.frames, f.Within k

/-- An item takes three calls for each parenthesis, and one more if it is a repetition. -/
theorem Node.Within.calls_le (h : n.Within k) : n.calls ≤ 3 * k + 1 := by
  unfold Node.Within at h
  split at h
  · rw [Node.calls]
    exact Nat.succ_le_succ h
  · exact Nat.le_succ_of_le h

theorem Node.within_of_calls_le (h : n.calls ≤ 3 * k) : n.Within k := by
  unfold Node.Within
  split
  · rw [Node.calls] at h
    exact Nat.le_of_succ_le h
  · exact h

theorem Node.Within.mono (h : n.Within k) (hle : k ≤ m) : n.Within m := by
  unfold Node.Within at h ⊢
  split at h
  · exact Nat.le_trans h (Nat.mul_le_mul_left 3 hle)
  · exact Nat.le_trans h (Nat.mul_le_mul_left 3 hle)

theorem Opening.Within.mono {opening : Opening} (h : opening.Within k) (hle : k ≤ m) :
    opening.Within m := by
  cases opening with
  | noBranch number yes =>
    have hyes : callsOf yes ≤ 3 * k + 1 := h
    show callsOf yes ≤ 3 * m + 1
    omega
  | _ => trivial

namespace Level.Within

variable {l : Level}

theorem mono (h : l.Within k) (hle : k ≤ m) : l.Within m :=
  ⟨fun n hn => (h.items n hn).mono hle, fun a ha => Nat.le_trans (h.alternatives a ha) (by omega)⟩

theorem empty {verbose : Bool} : (Level.empty verbose).Within k :=
  ⟨fun _ h => (nomatch h), fun _ h => (nomatch h)⟩

/-- An item within the bound may be pushed. -/
theorem push (h : l.Within k) (hn : n.Within k) : (l.push n).Within k :=
  ⟨List.forall_mem_cons.mpr ⟨hn, h.items⟩, h.alternatives⟩

/-- The items of a level take no more calls than its parentheses allow. -/
theorem callsOf_sequence_le (h : l.Within k) : callsOf l.sequence ≤ 3 * k + 1 := by
  refine callsOf_ungrouped_le (callsOf_le_iff.mpr fun n hn => ?_)
  exact (h.items n (List.mem_reverse.mp hn)).calls_le

theorem nextAlternative (h : l.Within k) : l.nextAlternative.Within k :=
  ⟨fun _ h => (nomatch h), List.forall_mem_cons.mpr ⟨h.callsOf_sequence_le, h.alternatives⟩⟩

/-- The whole level takes one call more, for the choice between its alternatives. -/
theorem callsOf_finish_le (h : l.Within k) : callsOf l.finish ≤ 3 * k + 2 := by
  have halternatives : ∀ a ∈ l.alternatives.reverse, callsOf a ≤ 3 * k + 1 := fun a ha =>
    h.alternatives a (List.mem_reverse.mp ha)
  unfold Level.finish
  split
  · exact Nat.le_succ_of_le h.callsOf_sequence_le
  · rename_i first rest hreverse
    rw [hreverse] at halternatives
    obtain ⟨hfirst, hrest⟩ := List.forall_mem_cons.mp halternatives
    refine callsOf_sequenceOfChoice_le hfirst (List.forall_mem_append.mpr ⟨hrest, ?_⟩)
    exact List.forall_mem_singleton.mpr h.callsOf_sequence_le

end Level.Within

theorem Frame.Within.mono {f : Frame} (h : f.Within k) (hle : k ≤ m) : f.Within m :=
  ⟨h.opening.mono hle, h.outer.mono hle⟩

namespace Reading

variable {r : Reading} {frame : Frame} {frames : List Frame} {level : Level}

/-- What a parenthesis amounts to is accounted for by it and those in it. -/
theorem nodeOf_within (hframe : frame.Within k) (hlevel : level.Within k) :
    (nodeOf frame level).Within (k + 1) := by
  have hsequence := hlevel.callsOf_sequence_le
  have hfinish := hlevel.callsOf_finish_le
  have hyes := hframe.opening
  refine Node.within_of_calls_le ?_
  unfold nodeOf
  split
  · rw [Node.calls]
    omega
  · rw [Node.calls]
    omega
  · rw [Node.calls]
    omega
  · rw [Node.calls]
    omega
  · rename_i hopening
    rw [hopening] at hyes
    have hyes : callsOf _ ≤ 3 * k + 1 := hyes
    rw [Node.calls]
    omega

/-- An item without calls may be pushed to every reading. -/
theorem Within.push (h : r.Within k) (hn : n.calls = 0) : (r.push n).Within k :=
  ⟨h.level.push (Node.within_of_calls_le (hn ▸ Nat.zero_le _)), h.frames⟩

/-- An opening within the bound may be put on top. -/
theorem Within.openWith {opening : Opening} {verbose : Bool} {start : Nat} (h : r.Within k)
    (hopening : opening.Within k) : (r.openWith opening verbose start).Within k :=
  ⟨.empty, List.forall_mem_cons.mpr ⟨⟨hopening, h.level⟩, h.frames⟩⟩

/-- Closing a parenthesis keeps the number of those that are open or closed. -/
theorem Within.close (h : r.Within k) (hframes : r.frames = frame :: frames) :
    (r.close frame frames).Within (k + 1) := by
  obtain ⟨hframe, hrest⟩ := List.forall_mem_cons.mp (hframes ▸ h.frames)
  have houter : frame.outer.Within (k + 1) := hframe.outer.mono (Nat.le_succ k)
  exact ⟨houter.push (nodeOf_within hframe h.level),
    fun f hf => (hrest f hf).mono (Nat.le_succ k)⟩

theorem Within.bar {rest : List Token} {r' : Reading} (h : r.Within k)
    (hbar : r.bar rest = .ok r') :
    r'.Within k ∧ r'.frames.length = r.frames.length := by
  unfold Reading.bar at hbar
  split at hbar
  · obtain rfl := Except.ok.inj hbar
    exact ⟨⟨⟨h.level.nextAlternative.items, h.level.nextAlternative.alternatives⟩, h.frames⟩, rfl⟩
  · rename_i frame outer hframes
    obtain ⟨hframe, houter⟩ := List.forall_mem_cons.mp (hframes ▸ h.frames)
    split at hbar
    · obtain rfl := Except.ok.inj hbar
      refine ⟨⟨.empty, List.forall_mem_cons.mpr ⟨⟨?_, hframe.outer⟩, houter⟩⟩, ?_⟩
      · exact h.level.callsOf_sequence_le
      · rw [hframes]
        rfl
    · cases hbar
    · obtain rfl := Except.ok.inj hbar
      exact ⟨⟨h.level.nextAlternative, h.frames⟩, rfl⟩

/-- An open parenthesis takes two calls at most. -/
theorem calls_le : r.calls ≤ 2 * r.frames.length := by
  unfold calls
  induction r.frames with
  | nil => exact Nat.le_refl 0
  | cons f rest ih =>
    have hcalls : f.opening.calls ≤ 2 := by
      cases f.opening with
      | group => exact Nat.le_refl 2
      | atomic => exact Nat.le_refl 2
      | look => exact Nat.le_refl 2
      | yesBranch => exact Nat.le_succ 1
      | noBranch => exact Nat.le_succ 1
    rw [List.foldr_cons, List.length_cons]
    omega

end Reading

end ChatRiddles.Pattern
