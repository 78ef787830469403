import ChatRiddles.Proofs.JsonScalars
import Mathlib.Data.List.DropRight
/-!
# Reading JSON texts

However a value is written as a JSON text, the reader takes the text for the value, if there is room
for its containers. The reader keeps the open containers on a stack, so what is shown of each part
of a text is how it moves the stack: a value leads from the place before it to the place behind it,
and the items or fields of a container lead to the place behind the container.

Main statement: `Json.ofDocumentText_of_textOf`.
-/

namespace ChatRiddles.Json

/-! ## Fields with different names -/

variable {key : String} {v : Json} {fields acc : List (String × Json)}

/-- A field is found at the front, or among the others. -/
theorem fieldOf_cons {k : String} :
    fieldOf key ((k, v) :: fields) = if key = k then some v else fieldOf key fields := by
  rw [fieldOf, List.lookup_cons]
  by_cases h : key = k
  · rw [if_pos h, beq_iff_eq.mpr h]
  · rw [if_neg h, beq_eq_false_iff_ne.mpr h]
    rfl

section Keys

variable {κ : Type} [DecidableEq κ] {name : κ} {named : List (κ × Json)}

theorem setField_of_not_mem (h : name ∉ named.map (·.1)) :
    setField name v named = named ++ [(name, v)] := by
  induction named with
  | nil => rfl
  | cons f rest ih =>
    rw [List.map_cons, List.mem_cons, not_or] at h
    rw [setField, if_neg (Ne.symm h.1), ih h.2, List.cons_append]

/-- Fields with different names are set one behind the other. -/
theorem foldl_setField (done : List (κ × Json)) (h : ((done ++ named).map (·.1)).Nodup) :
    named.foldl (fun acc f => setField f.1 f.2 acc) done = done ++ named := by
  induction named generalizing done with
  | nil => exact (List.append_nil done).symm
  | cons f rest ih =>
    have hnew : f.1 ∉ done.map (·.1) := by
      rw [List.map_append, List.map_cons, List.nodup_append] at h
      intro hmem
      exact h.2.2 _ hmem _ List.mem_cons_self rfl
    have hnext : ((done ++ [f] ++ rest).map (·.1)).Nodup := by
      rw [List.append_assoc, List.singleton_append]
      exact h
    rw [List.foldl_cons, setField_of_not_mem hnew, ih _ hnext, List.append_assoc,
      List.singleton_append]

end Keys

/-- An object keeps fields with different names as they are. -/
theorem ofFields_of_nodup (h : (fields.map (·.1)).Nodup) : ofFields fields = .object fields :=
  congrArg Json.object (foldl_setField [] h)

namespace DocumentText

open Number Text

variable {stack stack' : List Frame} {phase : Phase} {s more more' rest r : List UInt8}
  {k k' : String} {items done : List Json} {t : List Char} {b : UInt8} {room : Nat}

/-! ## Blanks -/

/-- The byte of a blank is a blank, and it ends a number. -/
theorem isSpace_byte {c : Char} (h : c ∈ [' ', '\t', '\n', '\r']) :
    c.toNat < 0x80 ∧ isSpace (byte c) = true ∧ isDigit (byte c) = false ∧ byte c ≠ 0x2e ∧
      isExponentMark (byte c) = false := by
  simp only [List.mem_cons, List.not_mem_nil, or_false] at h
  rcases h with rfl | rfl | rfl | rfl <;> decide

/-- Blanks are skipped. -/
theorem skipSpace_blanks (h : Blanks t) : skipSpace (Utf8.encode t ++ s) = skipSpace s := by
  induction t with
  | nil => rfl
  | cons c cs ih =>
    obtain ⟨hascii, hspace, -⟩ := isSpace_byte (h c List.mem_cons_self)
    rw [encode_cons_of_lt hascii, List.cons_append, skipSpace, List.dropWhile_cons_of_pos hspace]
    exact ih fun d hd => h d (List.mem_cons_of_mem _ hd)

/-- Nothing is skipped where no blank stands. -/
theorem skipSpace_cons (h : isSpace b = false) : skipSpace (b :: s) = b :: s := by
  apply List.dropWhile_cons_of_neg
  rw [h]
  exact Bool.false_ne_true

theorem skipSpace_skipSpace : skipSpace (skipSpace s) = skipSpace s :=
  List.dropWhile_idempotent _ _

/-- A number ends before a byte that can neither go on with its digits nor begin a fraction or a
power. -/
theorem ends_cons (hdigit : isDigit b = false) (hpoint : b ≠ 0x2e)
    (hexponent : isExponentMark b = false) : Ends (b :: s) := by
  intro b' hb'
  obtain rfl := Option.some.inj hb'
  exact ⟨hdigit, hpoint, hexponent⟩

theorem ends_blanks (h : Blanks t) (hrest : Ends rest) : Ends (Utf8.encode t ++ rest) := by
  cases t with
  | nil => exact hrest
  | cons c cs =>
    obtain ⟨hascii, -, hdigit, hpoint, hexponent⟩ := isSpace_byte (h c List.mem_cons_self)
    rw [encode_cons_of_lt hascii]
    exact ends_cons hdigit hpoint hexponent

/-! ## Steps -/

/-- A step leads to a stack, a phase and the rest of the text. -/
def StepsTo (x : Except Fault (Step s)) (stack : List Frame) (phase : Phase) (rest : List UInt8) :
    Prop :=
  ∃ shorter, x = .ok (.next stack phase rest shorter)

theorem read_before (h : StepsTo (beforeValue stack s) stack' phase r) :
    read stack .before s = read stack' phase r := by
  obtain ⟨hr, h⟩ := h
  rw [read.eq_def]
  simp only [h]

theorem read_after (h : StepsTo (afterValue stack v s) stack' phase r) :
    read stack (.after v) s = read stack' phase r := by
  obtain ⟨hr, h⟩ := h
  rw [read.eq_def]
  simp only [h]

/-- Skipping blanks leaves no longer a text. -/
theorem length_of_skipSpace (hs : skipSpace s = b :: more) : more.length < s.length := by
  have hlength := skipSpace_length_le s
  rw [hs, List.length_cons] at hlength
  exact hlength

theorem beforeValue_string {text : String} (hs : skipSpace s = byte '"' :: more)
    (h : Reads (string more) text r) :
    StepsTo (beforeValue stack s) stack (.after (.string text)) r := by
  obtain ⟨hr, h⟩ := h
  refine ⟨Nat.lt_trans hr (length_of_skipSpace hs), ?_⟩
  unfold beforeValue
  split
  next hnil => cases hs.symm.trans hnil
  next b rest hcons =>
    cases hs.symm.trans hcons
    rw [if_pos rfl, h]
    rfl

/-- Whether a value that starts with a byte is taken for a number. -/
def startsNumber (b : UInt8) : Bool := isDigit b || b = byte '-' || b = byte 'N' || b = byte 'I'

theorem beforeValue_number (hs : skipSpace s = b :: more) (hb : startsNumber b = true)
    (h : Reads (number (b :: more)) v r) : StepsTo (beforeValue stack s) stack (.after v) r := by
  obtain ⟨hr, h⟩ := h
  have hne : ∀ c, startsNumber (byte c) = false → b ≠ byte c := by
    intro c hc heq
    rw [heq, hc] at hb
    exact Bool.false_ne_true hb
  refine ⟨Nat.lt_of_lt_of_le hr (length_of_skipSpace hs), ?_⟩
  unfold beforeValue
  split
  next hnil => cases hs.symm.trans hnil
  next b' rest hcons =>
    cases hs.symm.trans hcons
    rw [if_neg (hne '"' (by decide)), if_neg (hne '[' (by decide)),
      if_neg (hne '\x7b' (by decide)), if_neg (hne 't' (by decide)), if_neg (hne 'f' (by decide)),
      if_neg (hne 'n' (by decide))]
    rw [startsNumber] at hb
    rw [if_pos hb, h]
    rfl

theorem beforeValue_noItems (hs : skipSpace s = byte '[' :: more)
    (hmore : skipSpace more = byte ']' :: r) :
    StepsTo (beforeValue stack s) stack (.after (.array [])) r := by
  refine ⟨Nat.lt_trans (length_of_skipSpace hmore) (length_of_skipSpace hs), ?_⟩
  unfold beforeValue
  split
  next hnil => cases hs.symm.trans hnil
  next b rest hcons =>
    cases hs.symm.trans hcons
    rw [if_neg (by decide), if_pos rfl]
    split
    next hnil => cases hmore.symm.trans hnil
    next c rest hcons' =>
      cases hmore.symm.trans hcons'
      rw [if_pos rfl]

/-- A container is opened where there is room for it. -/
theorem nest_of_lt {frame : Frame} (h : stack.length < maxDepth) :
    nest stack frame s = .ok (frame :: stack) := if_neg (Nat.not_le_of_lt h)

theorem beforeValue_array (hs : skipSpace s = byte '[' :: more)
    (hmore : skipSpace more = b :: more') (hb : b ≠ byte ']') (hdepth : stack.length < maxDepth) :
    StepsTo (beforeValue stack s) (.array [] :: stack) .before (b :: more') := by
  have hlength := skipSpace_length_le more
  rw [hmore] at hlength
  refine ⟨Nat.lt_of_le_of_lt hlength (length_of_skipSpace hs), ?_⟩
  unfold beforeValue
  split
  next hnil => cases hs.symm.trans hnil
  next b rest hcons =>
    cases hs.symm.trans hcons
    rw [if_neg (by decide), if_pos rfl]
    split
    next hnil => cases hmore.symm.trans hnil
    next c rest hcons' =>
      cases hmore.symm.trans hcons'
      rw [if_neg hb, nest_of_lt hdepth]
      rfl

/-- An object without fields is read in one step. -/
theorem beforeValue_noFields (hs : skipSpace s = byte '\x7b' :: more)
    (hmore : skipSpace more = byte '\x7d' :: r) :
    StepsTo (beforeValue stack s) stack (.after (.object [])) r := by
  refine ⟨Nat.lt_trans (length_of_skipSpace hmore) (length_of_skipSpace hs), ?_⟩
  unfold beforeValue
  split
  next hnil => cases hs.symm.trans hnil
  next b rest hcons =>
    cases hs.symm.trans hcons
    rw [if_neg (by decide), if_neg (by decide), if_pos rfl]
    split
    next hnil => cases hmore.symm.trans hnil
    next c rest hcons' =>
      cases hmore.symm.trans hcons'
      rw [if_pos rfl]

/-- An object is opened where there is room for it. -/
theorem openObject_of_lt (hs : skipSpace s ≠ []) (hdepth : stack.length < maxDepth) :
    openObject stack k s = .ok (.object [] k :: stack) := by
  unfold openObject
  split
  next hnil => exact absurd hnil hs
  next => exact nest_of_lt hdepth

/-- An object with fields is opened, and the key of the first is read. -/
theorem beforeValue_object (hs : skipSpace s = byte '\x7b' :: more)
    (hmore : skipSpace more = byte '"' :: more') (hkey : Reads (DocumentText.key more') k r)
    (hr : skipSpace r ≠ []) (hdepth : stack.length < maxDepth) :
    StepsTo (beforeValue stack s) (.object [] k :: stack) .before r := by
  obtain ⟨hlength, hkey⟩ := hkey
  refine ⟨Nat.lt_trans hlength (Nat.lt_trans (length_of_skipSpace hmore)
    (length_of_skipSpace hs)), ?_⟩
  unfold beforeValue
  split
  next hnil => cases hs.symm.trans hnil
  next b rest hcons =>
    cases hs.symm.trans hcons
    rw [if_neg (by decide), if_neg (by decide), if_pos rfl]
    split
    next hnil => cases hmore.symm.trans hnil
    next c rest hcons' =>
      cases hmore.symm.trans hcons'
      rw [if_neg (by decide), if_pos rfl, hkey]
      simp only [bind, Except.bind, openObject_of_lt hr hdepth]
      rfl

theorem read_end (hs : skipSpace s = []) : read [] (.after v) s = .ok v := by
  have hdone : afterValue [] v s = .ok (.done v) := by
    unfold afterValue
    split <;> rename_i hstack hrest <;> cases hstack <;> cases hs.symm.trans hrest
    rfl
  rw [read.eq_def]
  simp only [hdone]

/-- A comma in an array is followed by the next item. -/
theorem afterValue_nextItem (hs : skipSpace s = byte ',' :: more)
    (hmore : skipSpace more = b :: more') (hb : b ≠ byte ']') :
    StepsTo (afterValue (.array items :: stack) v s) (.array (v :: items) :: stack) .before
      more := by
  refine ⟨length_of_skipSpace hs, ?_⟩
  unfold afterValue
  -- only the case of an open array and a rest fits
  split <;> rename_i hstack hrest <;> cases hstack <;> cases hs.symm.trans hrest
  dsimp only
  rw [if_pos rfl, hmore]
  exact if_neg hb

/-- The end of an array closes it with the items read so far. -/
theorem afterValue_lastItem (hs : skipSpace s = byte ']' :: r) :
    StepsTo (afterValue (.array items :: stack) v s) stack
      (.after (.array (v :: items).reverse)) r := by
  refine ⟨length_of_skipSpace hs, ?_⟩
  unfold afterValue
  split <;> rename_i hstack hrest <;> cases hstack <;> cases hs.symm.trans hrest
  dsimp only
  rw [if_neg (by decide), if_pos rfl]

/-- A comma in an object is followed by the key of the next field. -/
theorem afterValue_nextField (hs : skipSpace s = byte ',' :: more)
    (hmore : skipSpace more = byte '"' :: more') (hkey : Reads (DocumentText.key more') k' r) :
    StepsTo (afterValue (.object fields k :: stack) v s) (.object ((k, v) :: fields) k' :: stack)
      .before r := by
  obtain ⟨hlength, hkey⟩ := hkey
  refine ⟨Nat.lt_trans hlength (Nat.lt_trans (length_of_skipSpace hmore)
    (length_of_skipSpace hs)), ?_⟩
  unfold afterValue
  split <;> rename_i hstack hrest <;> cases hstack <;> cases hs.symm.trans hrest
  dsimp only
  rw [if_pos rfl]
  split
  next hnil => cases hmore.symm.trans hnil
  next c rest hcons =>
    cases hmore.symm.trans hcons
    rw [if_pos rfl, hkey]
    rfl

/-- The end of an object closes it with the fields read so far. -/
theorem afterValue_lastField (hs : skipSpace s = byte '}' :: r) :
    StepsTo (afterValue (.object fields k :: stack) v s) stack
      (.after (ofFields ((k, v) :: fields).reverse)) r := by
  refine ⟨length_of_skipSpace hs, ?_⟩
  unfold afterValue
  split <;> rename_i hstack hrest <;> cases hstack <;> cases hs.symm.trans hrest
  dsimp only
  rw [if_neg (by decide), if_pos rfl]

/-! ## Where a value starts -/

/-- A written value starts neither with a blank nor with the end of an array. -/
theorem starts_of_writes (h : Writes v t) :
    ∃ b more, Utf8.encode t = b :: more ∧ isSpace b = false ∧ b ≠ byte ']' := by
  cases h with
  | int n =>
    obtain ⟨b, more, hbytes, hb⟩ := encode_integerChars n
    have hne : ∀ b', isDigit b' = false → b' ≠ byte '-' → b ≠ b' := by
      intro b' hdigit hminus heq
      rw [heq, hdigit] at hb
      exact hb.elim Bool.false_ne_true hminus
    refine ⟨b, more, hbytes, ?_, hne _ (by decide) (by decide)⟩
    simp only [isSpace, Bool.or_eq_false_iff, beq_eq_false_iff_ne]
    exact ⟨⟨⟨hne _ (by decide) (by decide), hne _ (by decide) (by decide)⟩,
      hne _ (by decide) (by decide)⟩, hne _ (by decide) (by decide)⟩
  | string _ => exact ⟨_, _, encode_cons_of_lt (by decide), by decide, by decide⟩
  | noItems _ => exact ⟨_, _, encode_cons_of_lt (by decide), by decide, by decide⟩
  | array _ => exact ⟨_, _, encode_cons_of_lt (by decide), by decide, by decide⟩
  | noFields _ => exact ⟨_, _, encode_cons_of_lt (by decide), by decide, by decide⟩
  | object _ => exact ⟨_, _, encode_cons_of_lt (by decide), by decide, by decide⟩

theorem starts_of_element (h : WritesElement v t) :
    ∃ b more, skipSpace (Utf8.encode t ++ rest) = b :: more ∧ b ≠ byte ']' := by
  obtain ⟨hbefore, h, -⟩ := h
  obtain ⟨b, more, ht, hspace, hb⟩ := starts_of_writes h
  rw [Utf8.encode_append, Utf8.encode_append, List.append_assoc, List.append_assoc,
    skipSpace_blanks hbefore, ht, List.cons_append, skipSpace_cons hspace]
  exact ⟨b, _, rfl, hb⟩

theorem starts_of_elements (h : WritesElements items t) :
    ∃ b more, skipSpace (Utf8.encode t ++ rest) = b :: more ∧ b ≠ byte ']' := by
  cases h with
  | one h => exact starts_of_element h
  | next h _ =>
    rw [Utf8.encode_append, List.append_assoc]
    exact starts_of_element h

/-! ## Values -/

/-- The name of a field and the colon behind it are read. -/
theorem reads_key {name after : List Char} (hname : WritesChars k.toList name)
    (hafter : Blanks after) :
    Reads (DocumentText.key (Utf8.encode name ++ byte '"' :: (Utf8.encode after ++
      byte ':' :: r))) k r := by
  obtain ⟨hlength, hstring⟩ :=
    @reads_string (Utf8.encode after ++ byte ':' :: r) name k hname
  have hcolon : skipSpace (Utf8.encode after ++ byte ':' :: r) = byte ':' :: r := by
    rw [skipSpace_blanks hafter]
    exact skipSpace_cons (by decide)
  refine ⟨?_, ?_⟩
  · simp only [List.length_append, List.length_cons]
    omega
  · unfold DocumentText.key
    rw [hstring]
    simp only [bind, Except.bind]
    split
    next hnil => cases hcolon.symm.trans hnil
    next b more hcons =>
      cases hcolon.symm.trans hcons
      rw [if_pos rfl]
      rfl

/-- What stands between two characters of ASCII stands between their bytes. -/
theorem encode_surrounded {opening closing : Char} (ho : opening.toNat < 0x80)
    (hc : closing.toNat < 0x80) :
    Utf8.encode (opening :: t ++ [closing]) ++ rest =
      byte opening :: (Utf8.encode t ++ byte closing :: rest) := by
  rw [List.cons_append, encode_cons_of_lt ho, Utf8.encode_append, encode_cons_of_lt hc,
    List.cons_append, List.append_assoc]
  rfl

mutual

/-- However a value is written, it is read. -/
theorem read_value {room : Nat} {v : Json} {t : List Char} {stack : List Frame}
    {s rest : List UInt8} (h : Writes v t) (hfits : Fits maxIntegerDigits room v)
    (hdepth : stack.length + room ≤ maxDepth) (hs : skipSpace s = Utf8.encode t ++ rest)
    (hrest : Ends rest) : read stack .before s = read stack (.after v) rest := by
  cases h with
  | int n =>
    cases hfits with
    | int hshort =>
      obtain ⟨b, more, hbytes, hb⟩ := encode_integerChars n
      have hnumber := reads_number hshort hrest
      have hstart : startsNumber b = true := by
        rw [startsNumber, Bool.or_eq_true, Bool.or_eq_true, Bool.or_eq_true, decide_eq_true_iff]
        exact .inl (.inl hb)
      rw [hbytes, List.cons_append] at hs hnumber
      exact read_before (beforeValue_number hs hstart hnumber)
  | string hchars =>
    rw [encode_surrounded (by decide) (by decide)] at hs
    exact read_before (beforeValue_string hs (reads_string hchars))
  | noItems hblanks =>
    rw [encode_surrounded (by decide) (by decide)] at hs
    have hmore := @skipSpace_blanks (byte ']' :: rest) _ hblanks
    rw [skipSpace_cons (by decide)] at hmore
    exact read_before (beforeValue_noItems hs hmore)
  | noFields hblanks =>
    rw [encode_surrounded (by decide) (by decide)] at hs
    have hmore := @skipSpace_blanks (byte '\x7d' :: rest) _ hblanks
    rw [skipSpace_cons (by decide)] at hmore
    exact read_before (beforeValue_noFields hs hmore)
  | @array items t helements =>
    -- the array is one more open container for its items
    cases hfits with
    | @array room _ each =>
      rw [encode_surrounded (by decide) (by decide)] at hs
      obtain ⟨b, more, hmore, hb⟩ := @starts_of_elements (byte ']' :: rest) _ _ helements
      have hroom : stack.length + 1 + room ≤ maxDepth := by omega
      have hopen := beforeValue_array hs hmore hb (show stack.length < maxDepth by omega)
      have hspace : skipSpace (b :: more) = skipSpace (Utf8.encode t ++ byte ']' :: rest) := by
        rw [← hmore, skipSpace_skipSpace]
      rw [read_before hopen, read_elements helements each hroom hspace]
      rfl
  | @object fields t hmembers =>
    cases hfits with
    | @object room _ hnames each =>
      rw [encode_surrounded (by decide) (by decide)] at hs
      have hroom : stack.length + 1 + room ≤ maxDepth := by omega
      obtain ⟨k, more, r, hmore, hkey, hr, hread⟩ := @read_members _ _ _ rest hmembers each
      have hopen := beforeValue_object hs hmore hkey hr (show stack.length < maxDepth by omega)
      rw [read_before hopen, hread hroom [], List.reverse_nil, List.nil_append,
        ofFields_of_nodup hnames]

/-- The blanks behind a value are left to what follows it. -/
theorem read_element {room : Nat} {v : Json} {t : List Char} {stack : List Frame}
    {s rest : List UInt8} (h : WritesElement v t) (hfits : Fits maxIntegerDigits room v)
    (hdepth : stack.length + room ≤ maxDepth)
    (hs : skipSpace s = skipSpace (Utf8.encode t ++ rest)) (hrest : Ends rest) :
    ∃ s', skipSpace s' = skipSpace rest ∧
      read stack .before s = read stack (.after v) s' := by
  cases h with
  | @mk _ before t after hbefore h hafter =>
    obtain ⟨b, more, ht, hspace, -⟩ := starts_of_writes h
    -- the blanks before the value are skipped, those behind it are left
    have hvalue : skipSpace s = Utf8.encode t ++ (Utf8.encode after ++ rest) := by
      rw [hs, Utf8.encode_append, Utf8.encode_append, List.append_assoc, List.append_assoc,
        skipSpace_blanks hbefore, ht, List.cons_append, skipSpace_cons hspace]
    exact ⟨_, skipSpace_blanks hafter,
      read_value h hfits hdepth hvalue (ends_blanks hafter hrest)⟩

/-- The items of an array are read onto those read before, up to the end of the array. -/
theorem read_elements {room : Nat} {items done : List Json} {t : List Char} {stack : List Frame}
    {s rest : List UInt8} (h : WritesElements items t)
    (each : ∀ v ∈ items, Fits maxIntegerDigits room v)
    (hdepth : stack.length + 1 + room ≤ maxDepth)
    (hs : skipSpace s = skipSpace (Utf8.encode t ++ byte ']' :: rest)) :
    read (.array done :: stack) .before s =
      read stack (.after (.array (done.reverse ++ items))) rest := by
  have hlength : (Frame.array done :: stack).length + room ≤ maxDepth := hdepth
  cases h with
  | one h =>
    have hclosing : Ends (byte ']' :: rest) := ends_cons (by decide) (by decide) (by decide)
    obtain ⟨s', hs', hread⟩ := read_element h (each _ List.mem_cons_self) hlength hs hclosing
    rw [skipSpace_cons (by decide)] at hs'
    rw [hread, read_after (afterValue_lastItem hs'), List.reverse_cons]
  | @next v items t t' h hitems =>
    -- behind the comma another item has to start, or the comma would be one too many
    have hcomma : Ends (byte ',' :: (Utf8.encode t' ++ byte ']' :: rest)) :=
      ends_cons (by decide) (by decide) (by decide)
    rw [Utf8.encode_append, encode_cons_of_lt (by decide), List.append_assoc,
      List.cons_append] at hs
    obtain ⟨s', hs', hread⟩ := read_element h (each _ List.mem_cons_self) hlength hs hcomma
    rw [skipSpace_cons (by decide)] at hs'
    obtain ⟨b, more, hmore, hb⟩ := @starts_of_elements (byte ']' :: rest) _ _ hitems
    have heach := fun w hw => each w (List.mem_cons_of_mem _ hw)
    rw [hread, read_after (afterValue_nextItem hs' hmore hb),
      read_elements hitems heach hdepth rfl, List.reverse_cons, List.append_assoc]
    rfl

/-- The name of a field is read by the step that comes to the field, and then its value. -/
theorem read_member {room : Nat} {f : String × Json} {t : List Char} {rest : List UInt8}
    (h : WritesMember f t) (hfits : Fits maxIntegerDigits room f.2) (hrest : Ends rest) :
    ∃ more r, skipSpace (Utf8.encode t ++ rest) = byte '"' :: more ∧
      Reads (DocumentText.key more) f.1 r ∧ skipSpace r ≠ [] ∧
      ∀ {stack : List Frame}, stack.length + room ≤ maxDepth →
        ∃ s', skipSpace s' = skipSpace rest ∧
          read stack .before r = read stack (.after f.2) s' := by
  cases h with
  | @mk k v before name after t hbefore hname hafter h =>
    have htext :
        skipSpace (Utf8.encode (before ++ '"' :: name ++ '"' :: after ++ ':' :: t) ++ rest) =
          byte '"' :: (Utf8.encode name ++ byte '"' :: (Utf8.encode after ++
            byte ':' :: (Utf8.encode t ++ rest))) := by
      rw [Utf8.encode_append, Utf8.encode_append, Utf8.encode_append,
        encode_cons_of_lt (by decide), encode_cons_of_lt (by decide),
        encode_cons_of_lt (by decide)]
      simp only [List.append_assoc, List.cons_append]
      rw [skipSpace_blanks hbefore, skipSpace_cons (by decide)]
    obtain ⟨b, more, hmore, -⟩ := @starts_of_element _ rest _ h
    refine ⟨_, _, htext, reads_key hname hafter, ?_, ?_⟩
    · rw [hmore]
      exact List.cons_ne_nil b more
    · intro stack hdepth
      exact read_element h hfits hdepth rfl hrest

/-- The fields of an object are read onto those read before, up to the end of the object. -/
theorem read_members {room : Nat} {fields : List (String × Json)} {t : List Char}
    {rest : List UInt8} (h : WritesMembers fields t)
    (each : ∀ f ∈ fields, Fits maxIntegerDigits room f.2) :
    ∃ k more r, skipSpace (Utf8.encode t ++ byte '\x7d' :: rest) = byte '"' :: more ∧
      Reads (DocumentText.key more) k r ∧ skipSpace r ≠ [] ∧
      ∀ {stack : List Frame}, stack.length + 1 + room ≤ maxDepth → ∀ done,
        read (.object done k :: stack) .before r =
          read stack (.after (ofFields (done.reverse ++ fields))) rest := by
  cases h with
  | @one f t h =>
    have hclosing : Ends (byte '\x7d' :: rest) := ends_cons (by decide) (by decide) (by decide)
    obtain ⟨more, r, hmore, hkey, hr, hread⟩ := read_member h (each _ List.mem_cons_self) hclosing
    refine ⟨f.1, more, r, hmore, hkey, hr, ?_⟩
    intro stack hdepth done
    have hlength : (Frame.object done f.1 :: stack).length + room ≤ maxDepth := hdepth
    obtain ⟨s', hs', hread⟩ := hread hlength
    rw [skipSpace_cons (by decide)] at hs'
    rw [hread, read_after (afterValue_lastField hs'), List.reverse_cons]
  | @next f fields t t' h hfields =>
    have hcomma : Ends (byte ',' :: (Utf8.encode t' ++ byte '\x7d' :: rest)) :=
      ends_cons (by decide) (by decide) (by decide)
    have heach := fun g hg => each g (List.mem_cons_of_mem _ hg)
    -- the name of the next field is read together with the comma
    obtain ⟨k', more', r', hmore', hkey', -, hread'⟩ :=
      @read_members _ _ _ rest hfields heach
    obtain ⟨more, r, hmore, hkey, hr, hread⟩ := read_member h (each _ List.mem_cons_self) hcomma
    rw [Utf8.encode_append, encode_cons_of_lt (by decide), List.append_assoc,
      List.cons_append]
    refine ⟨f.1, more, r, hmore, hkey, hr, ?_⟩
    intro stack hdepth done
    have hlength : (Frame.object done f.1 :: stack).length + room ≤ maxDepth := hdepth
    obtain ⟨s', hs', hread⟩ := hread hlength
    rw [skipSpace_cons (by decide)] at hs'
    rw [hread, read_after (afterValue_nextField hs' hmore' hkey'), hread' hdepth,
      List.reverse_cons, List.append_assoc]
    rfl

end

end DocumentText

/-- Every JSON text of a value is read as the value. -/
theorem ofDocumentText_of_textOf {v : Json} {text : String} {room : Nat} (h : TextOf v text)
    (hfits : Fits DocumentText.maxIntegerDigits room v) (hroom : room ≤ DocumentText.maxDepth) :
    ofDocumentText (Text.Utf8.encode text.toList) = .ok v := by
  have hend : DocumentText.Ends [] := fun _ h => (nomatch h)
  have hs : DocumentText.skipSpace (Text.Utf8.encode text.toList) =
      DocumentText.skipSpace (Text.Utf8.encode text.toList ++ []) := by
    rw [List.append_nil]
  have hdepth : ([] : List DocumentText.Frame).length + room ≤ DocumentText.maxDepth := by
    rw [List.length_nil, Nat.zero_add]
    exact hroom
  obtain ⟨s', hs', hread⟩ := DocumentText.read_element h hfits hdepth hs hend
  rw [ofDocumentText, hread]
  exact DocumentText.read_end hs'

end ChatRiddles.Json
