import ChatRiddles.Proofs.Checks
import ChatRiddles.Proofs.References
import ChatRiddles.Proofs.WrittenDocuments
import ChatRiddles.Proofs.WrittenIntegers
import Mathlib.Data.List.Nodup
/-!
# Which documents are accepted

A value describes a document if its objects have exactly the declared fields, each of its declared
type; a field that leads nowhere may be null or left out. A document is sound if its patterns
compile, its states have names of their own, and every state that it speaks of is one of them,
wherever that stands. The compiler accepts a value exactly if it describes a sound document, and
the definition says the same as the document, in the same order.

Main statement: `Definition.accepts_iff_sound`.
-/

namespace ChatRiddles

open Json Shape

namespace Document

/-! ## Values that describe a document -/

/-- A value describes a prompt. -/
inductive Prompt.DescribedBy : Json → Prompt → Prop where
  | text {fields : List (String × Json)} {content : String}
      (tag : fieldOf "type" fields = some (.string "text"))
      (value : fieldOf "content" fields = some (.string content))
      (only : HasOnly ["type", "content"] fields) :
      DescribedBy (.object fields) (.text content)
  | regex {fields : List (String × Json)} {content : String}
      (tag : fieldOf "type" fields = some (.string "regex"))
      (value : fieldOf "content" fields = some (.string content))
      (only : HasOnly ["type", "content"] fields) :
      DescribedBy (.object fields) (.regex content)
  | either {fields : List (String × Json)}
      (tag : fieldOf "type" fields = some (.string "either"))
      (only : HasOnly ["type"] fields) :
      DescribedBy (.object fields) .either

end Document

/-- A value describes an action. -/
inductive Action.DescribedBy : Json → Action → Prop where
  | message {fields : List (String × Json)} {content : String}
      (tag : fieldOf "type" fields = some (.string "message"))
      (value : fieldOf "content" fields = some (.string content))
      (only : HasOnly ["type", "content"] fields) :
      DescribedBy (.object fields) (.message content)
  | sendTo {fields : List (String × Json)} {v : Json} {chat : Int} {content : String}
      (tag : fieldOf "type" fields = some (.string "send_to"))
      (chatId : fieldOf "chat_id" fields = some v) (number : StandsFor v chat)
      (message : fieldOf "message" fields = some (.string content))
      (only : HasOnly ["type", "chat_id", "message"] fields) :
      DescribedBy (.object fields) (.sendTo chat content)

namespace Document

/-- The fields of an edge name the state that it leads to; without a name, or without the field, the
edge stays. -/
inductive Edge.Names (fields : List (String × Json)) : Option String → Prop where
  | absent (next : fieldOf "next" fields = none) : Names fields none
  | null (next : fieldOf "next" fields = some .null) : Names fields none
  | target {name : String} (next : fieldOf "next" fields = some (.string name)) :
      Names fields (some name)

/-- A value describes an edge. -/
inductive Edge.DescribedBy : Json → Edge → Prop where
  -- an object of a prompt, actions and perhaps the state it leads to
  | mk {fields : List (String × Json)} {v : Json} {items : List Json} {e : Edge}
      (prompt : fieldOf "prompt" fields = some v) (described : Prompt.DescribedBy v e.prompt)
      (actions : fieldOf "actions" fields = some (.array items))
      (each : List.Forall₂ Action.DescribedBy items e.actions)
      (next : Edge.Names fields e.next)
      (only : HasOnly ["prompt", "actions", "next"] fields) :
      DescribedBy (.object fields) e

/-- A value describes a state. -/
inductive State.DescribedBy : Json → State → Prop where
  | mk {fields : List (String × Json)} {items : List Json} {s : State}
      (name : fieldOf "name" fields = some (.string s.name))
      (edges : fieldOf "edges" fields = some (.array items))
      (each : List.Forall₂ Edge.DescribedBy items s.edges)
      (only : HasOnly ["name", "edges"] fields) :
      DescribedBy (.object fields) s

/-- A value describes a document. -/
inductive DescribedBy : Json → Document → Prop where
  -- an object of an initial state, accepting states and states
  | mk {fields : List (String × Json)} {items : List Json} {d : Document}
      (initial : fieldOf "initial_state" fields = some (.string d.initialState))
      (accepting : fieldOf "accepting_states" fields =
        some (.array (d.acceptingStates.map .string)))
      (states : fieldOf "states" fields = some (.array items))
      (each : List.Forall₂ State.DescribedBy items d.states)
      (only : HasOnly ["initial_state", "accepting_states", "states"] fields) :
      DescribedBy (.object fields) d

/-- The pattern of an edge compiles, if it has one. -/
def Edge.Compiles (e : Edge) : Prop :=
  ∀ content, e.prompt = .regex content → ∃ pattern, Pattern.ofSource content = .ok pattern

/-- A document whose parts fit together. -/
structure Sound (d : Document) : Prop where
  patterns : ∀ s ∈ d.states, ∀ e ∈ s.edges, e.Compiles
  distinct : (d.states.map (·.name)).Nodup
  initial : d.initialState ∈ d.states.map (·.name)
  accepting : ∀ name ∈ d.acceptingStates, name ∈ d.states.map (·.name)
  -- the states that edges lead to are among the states, before or after the edge
  targets : ∀ s ∈ d.states, ∀ e ∈ s.edges, ∀ target, e.next = some target →
    target ∈ d.states.map (·.name)

/-! ## Reading accepts what describes a document -/

variable {fields : List (String × Json)} {v : Json}

/-- The content of a prompt is its only field beside the tag. -/
theorem contentOf_eq_ok_iff {content : String} :
    contentOf fields = .ok content ↔
      fieldOf "content" fields = some (.string content) ∧ HasOnly ["type", "content"] fields := by
  unfold contentOf
  rw [map_eq_ok_iff]
  constructor
  · rintro ⟨p, h, rfl⟩
    obtain ⟨hcontent, honly⟩ := join_eq_ok_iff.mp h
    obtain ⟨v, hv, htext⟩ := required_eq_ok_iff.mp hcontent
    rw [text_eq_ok_iff] at htext
    exact ⟨htext ▸ hv, onlyKnown_eq_ok_iff.mp honly⟩
  · rintro ⟨hcontent, honly⟩
    refine ⟨(content, ()), join_eq_ok_iff.mpr ⟨?_, onlyKnown_eq_ok_iff.mpr honly⟩, rfl⟩
    exact required_eq_ok_iff.mpr ⟨_, hcontent, rfl⟩

/-- A prompt is read exactly if a value describes it. -/
theorem Prompt.ofJson_eq_ok_iff {p : Prompt} : Prompt.ofJson v = .ok p ↔ p.DescribedBy v := by
  unfold Prompt.ofJson
  rw [tagged_eq_ok_iff]
  constructor
  · rintro ⟨fields, tag, check, rfl, htag, hcheck, hok⟩
    have hmem := mem_of_lookup_eq_some hcheck
    simp only [List.mem_cons, List.not_mem_nil, or_false, Prod.mk.injEq] at hmem
    obtain ⟨rfl, rfl⟩ | ⟨rfl, rfl⟩ | ⟨rfl, rfl⟩ := hmem
    · obtain ⟨content, h, rfl⟩ := map_eq_ok_iff.mp hok
      obtain ⟨value, only⟩ := contentOf_eq_ok_iff.mp h
      exact .text htag value only
    · obtain ⟨content, h, rfl⟩ := map_eq_ok_iff.mp hok
      obtain ⟨value, only⟩ := contentOf_eq_ok_iff.mp h
      exact .regex htag value only
    · obtain ⟨_, h, rfl⟩ := map_eq_ok_iff.mp hok
      exact .either htag (onlyKnown_eq_ok_iff.mp h)
  · intro h
    cases h with
    | text tag value only =>
      refine ⟨_, _, _, rfl, tag, rfl, ?_⟩
      exact map_eq_ok_iff.mpr ⟨_, contentOf_eq_ok_iff.mpr ⟨value, only⟩, rfl⟩
    | regex tag value only =>
      refine ⟨_, _, _, rfl, tag, rfl, ?_⟩
      exact map_eq_ok_iff.mpr ⟨_, contentOf_eq_ok_iff.mpr ⟨value, only⟩, rfl⟩
    | either tag only =>
      refine ⟨_, _, _, rfl, tag, rfl, ?_⟩
      exact map_eq_ok_iff.mpr ⟨(), onlyKnown_eq_ok_iff.mpr only, rfl⟩

end Document

theorem Action.ofJson_eq_ok_iff {v : Json} {a : Action} :
    Action.ofJson v = .ok a ↔ a.DescribedBy v := by
  unfold Action.ofJson
  rw [tagged_eq_ok_iff]
  constructor
  · rintro ⟨fields, tag, check, rfl, htag, hcheck, hok⟩
    have hmem := mem_of_lookup_eq_some hcheck
    simp only [List.mem_cons, List.not_mem_nil, or_false, Prod.mk.injEq] at hmem
    obtain ⟨rfl, rfl⟩ | ⟨rfl, rfl⟩ := hmem
    · obtain ⟨content, h, rfl⟩ := map_eq_ok_iff.mp hok
      obtain ⟨value, only⟩ := Document.contentOf_eq_ok_iff.mp h
      exact .message htag value only
    · obtain ⟨⟨⟨chat, content⟩, _⟩, h, rfl⟩ := map_eq_ok_iff.mp hok
      obtain ⟨h, only⟩ := join_eq_ok_iff.mp h
      obtain ⟨hchat, hmessage⟩ := join_eq_ok_iff.mp h
      obtain ⟨value, chatId, number⟩ := required_eq_ok_iff.mp hchat
      obtain ⟨_, message, htext⟩ := required_eq_ok_iff.mp hmessage
      rw [text_eq_ok_iff] at htext
      rw [integer_eq_ok_iff, integerOf_eq_ok_iff] at number
      exact .sendTo htag chatId number (htext ▸ message) (onlyKnown_eq_ok_iff.mp only)
  · intro h
    cases h with
    | message tag value only =>
      refine ⟨_, _, _, rfl, tag, rfl, ?_⟩
      exact map_eq_ok_iff.mpr ⟨_, Document.contentOf_eq_ok_iff.mpr ⟨value, only⟩, rfl⟩
    | @sendTo fields v chat content tag chatId number message only =>
      refine ⟨_, _, _, rfl, tag, rfl, map_eq_ok_iff.mpr ⟨((chat, content), ()), ?_, rfl⟩⟩
      refine join_eq_ok_iff.mpr ⟨join_eq_ok_iff.mpr ⟨?_, ?_⟩, onlyKnown_eq_ok_iff.mpr only⟩
      · exact required_eq_ok_iff.mpr
          ⟨v, chatId, integer_eq_ok_iff.mpr (integerOf_eq_ok_iff.mpr number)⟩
      · exact required_eq_ok_iff.mpr ⟨_, message, rfl⟩

namespace Document

variable {v : Json} {fields : List (String × Json)}

/-- An array of values that are read is an array of values that describe what is read. -/
theorem array_of_described {α : Type} {check : Json → Checked α} {described : Json → α → Prop}
    (h : ∀ v a, check v = .ok a ↔ described v a) {name : String} {as : List α} :
    required name (array check) fields = .ok as ↔
      ∃ items, fieldOf name fields = some (.array items) ∧ List.Forall₂ described items as := by
  have hcheck : (fun v a => check v = .ok a) = described := by
    funext v a
    exact propext (h v a)
  rw [required_eq_ok_iff, ← hcheck]
  constructor
  · rintro ⟨v, hv, harray⟩
    obtain ⟨items, rfl, hitems⟩ := array_eq_ok_iff.mp harray
    exact ⟨items, hv, hitems⟩
  · rintro ⟨items, hv, hitems⟩
    exact ⟨_, hv, array_eq_ok_iff.mpr ⟨items, rfl, hitems⟩⟩

theorem required_text_eq_ok_iff {name s : String} :
    required name text fields = .ok s ↔ fieldOf name fields = some (.string s) := by
  rw [required_eq_ok_iff]
  constructor
  · rintro ⟨v, hv, htext⟩
    exact text_eq_ok_iff.mp htext ▸ hv
  · exact fun h => ⟨_, h, rfl⟩

/-- The target of an edge is read exactly if it is named. -/
theorem Edge.names_iff {next : Option String} :
    withDefault "next" none (nullable text) fields = .ok next ↔ Edge.Names fields next := by
  have hnull : ∀ s, text .null ≠ .ok s := fun _ h => (nomatch h)
  rw [withDefault_eq_ok_iff]
  constructor
  · rintro (⟨habsent, rfl⟩ | ⟨v, hv, h⟩)
    · exact .absent habsent
    · obtain ⟨rfl, rfl⟩ | ⟨name, hname, rfl⟩ := (nullable_eq_ok_iff hnull).mp h
      · exact .null hv
      · exact .target (text_eq_ok_iff.mp hname ▸ hv)
  · intro h
    cases h with
    | absent next => exact .inl ⟨next, rfl⟩
    | null next => exact .inr ⟨_, next, rfl⟩
    | target next => exact .inr ⟨_, next, rfl⟩

/-- An edge is read exactly if a value describes it. -/
theorem Edge.ofJson_eq_ok_iff {e : Edge} : Edge.ofJson v = .ok e ↔ e.DescribedBy v := by
  have hactions := fun fields as =>
    @array_of_described fields _ _ _ (fun v a => @Action.ofJson_eq_ok_iff v a) "actions" as
  unfold Edge.ofJson
  rw [object_eq_ok_iff]
  constructor
  · rintro ⟨fields, rfl, hread⟩
    obtain ⟨⟨p, as, next, _⟩, h, rfl⟩ := map_eq_ok_iff.mp hread
    obtain ⟨hprompt, h⟩ := join_eq_ok_iff.mp h
    obtain ⟨has, h⟩ := join_eq_ok_iff.mp h
    obtain ⟨hnext, only⟩ := join_eq_ok_iff.mp h
    obtain ⟨v, prompt, described⟩ := required_eq_ok_iff.mp hprompt
    obtain ⟨items, actions, each⟩ := (hactions _ _).mp has
    exact .mk prompt (Prompt.ofJson_eq_ok_iff.mp described) actions each
      (Edge.names_iff.mp hnext) (onlyKnown_eq_ok_iff.mp only)
  · rintro ⟨prompt, described, actions, each, next, only⟩
    refine ⟨_, rfl, map_eq_ok_iff.mpr ⟨(e.prompt, e.actions, e.next, ()), ?_, rfl⟩⟩
    refine join_eq_ok_iff.mpr ⟨?_, join_eq_ok_iff.mpr ⟨?_, join_eq_ok_iff.mpr ⟨?_, ?_⟩⟩⟩
    · exact required_eq_ok_iff.mpr ⟨_, prompt, Prompt.ofJson_eq_ok_iff.mpr described⟩
    · exact (hactions _ _).mpr ⟨_, actions, each⟩
    · exact Edge.names_iff.mpr next
    · exact onlyKnown_eq_ok_iff.mpr only

theorem State.ofJson_eq_ok_iff {s : State} : State.ofJson v = .ok s ↔ s.DescribedBy v := by
  have hedges := fun fields es =>
    @array_of_described fields _ _ _ (fun v e => @Edge.ofJson_eq_ok_iff v e) "edges" es
  unfold State.ofJson
  rw [object_eq_ok_iff]
  constructor
  · rintro ⟨fields, rfl, hread⟩
    obtain ⟨⟨name, es, _⟩, h, rfl⟩ := map_eq_ok_iff.mp hread
    obtain ⟨hname, h⟩ := join_eq_ok_iff.mp h
    obtain ⟨hes, only⟩ := join_eq_ok_iff.mp h
    obtain ⟨items, edges, each⟩ := (hedges _ _).mp hes
    exact .mk (required_text_eq_ok_iff.mp hname) edges each (onlyKnown_eq_ok_iff.mp only)
  · rintro ⟨name, edges, each, only⟩
    refine ⟨_, rfl, map_eq_ok_iff.mpr ⟨(s.name, s.edges, ()), ?_, rfl⟩⟩
    refine join_eq_ok_iff.mpr ⟨?_, join_eq_ok_iff.mpr ⟨?_, ?_⟩⟩
    · exact required_text_eq_ok_iff.mpr name
    · exact (hedges _ _).mpr ⟨_, edges, each⟩
    · exact onlyKnown_eq_ok_iff.mpr only

/-- Reading succeeds exactly on the values that describe a document, with that document. -/
theorem ofJson_eq_ok_iff {d : Document} : ofJson v = .ok d ↔ d.DescribedBy v := by
  have htexts := fun fields names =>
    @array_of_described fields _ _ _ (fun v s => @text_eq_ok_iff v s) "accepting_states" names
  have hstates := fun fields ss =>
    @array_of_described fields _ _ _ (fun v s => @State.ofJson_eq_ok_iff v s) "states" ss
  -- the items that are texts are known from the texts
  have hitems : ∀ (items : List Json) names, List.Forall₂ (fun v s => v = .string s) items names ↔
      items = names.map .string := by
    intro items names
    rw [← List.forall₂_eq_eq_eq, List.forall₂_map_right_iff]
  unfold ofJson
  rw [object_eq_ok_iff]
  constructor
  · rintro ⟨fields, rfl, hread⟩
    obtain ⟨⟨initial, accepting, states, _⟩, h, rfl⟩ := map_eq_ok_iff.mp hread
    obtain ⟨hinitial, h⟩ := join_eq_ok_iff.mp h
    obtain ⟨haccepting, h⟩ := join_eq_ok_iff.mp h
    obtain ⟨hss, only⟩ := join_eq_ok_iff.mp h
    obtain ⟨names, accepts, hnames⟩ := (htexts _ _).mp haccepting
    obtain ⟨items, states, each⟩ := (hstates _ _).mp hss
    rw [(hitems _ _).mp hnames] at accepts
    exact .mk (required_text_eq_ok_iff.mp hinitial) accepts states each
      (onlyKnown_eq_ok_iff.mp only)
  · rintro ⟨initial, accepting, states, each, only⟩
    refine ⟨_, rfl, map_eq_ok_iff.mpr ⟨(d.initialState, d.acceptingStates, d.states, ()), ?_, rfl⟩⟩
    refine join_eq_ok_iff.mpr ⟨?_, join_eq_ok_iff.mpr ⟨?_, join_eq_ok_iff.mpr ⟨?_, ?_⟩⟩⟩
    · exact required_text_eq_ok_iff.mpr initial
    · exact (htexts _ _).mpr ⟨_, accepting, (hitems _ _).mpr rfl⟩
    · exact (hstates _ _).mpr ⟨_, states, each⟩
    · exact onlyKnown_eq_ok_iff.mpr only

end Document

/-! ## Compilation accepts sound documents -/

/-- All succeed exactly if each does, in order. -/
theorem Except.mapM_eq_ok_iff {ε α β : Type} {f : α → Except ε β} {l : List α} {l' : List β} :
    l.mapM f = .ok l' ↔ List.Forall₂ (fun a b => f a = .ok b) l l' := by
  refine ⟨Except.mapM_eq_ok, fun h => ?_⟩
  induction h with
  | nil => rfl
  | cons hb _ ih =>
    rw [List.mapM_cons]
    exact Except.bind_eq_ok.mpr ⟨_, hb, Except.bind_eq_ok.mpr ⟨_, ih, rfl⟩⟩

/-- There are partners for all of a list if each of its members has one. -/
theorem exists_forall₂_iff {α β : Type} {R : α → β → Prop} {l : List α} :
    (∃ l', List.Forall₂ R l l') ↔ ∀ a ∈ l, ∃ b, R a b := by
  induction l with
  | nil => exact ⟨fun _ _ h => (nomatch h), fun _ => ⟨[], .nil⟩⟩
  | cons a rest ih =>
    rw [List.forall_mem_cons, ← ih]
    constructor
    · rintro ⟨l', h⟩
      obtain ⟨b, l', hb, hrest, rfl⟩ := List.forall₂_cons_left_iff.mp h
      exact ⟨⟨b, hb⟩, l', hrest⟩
    · rintro ⟨⟨b, hb⟩, l', hrest⟩
      exact ⟨b :: l', .cons hb hrest⟩

namespace Definition

variable {d : Definition} {doc : Document}

/-- A prompt is compiled from a prompt of a document. -/
inductive Prompt.CompiledFrom : Document.Prompt → Prompt → Prop where
  | text (content : String) : CompiledFrom (.text content) (.text content)
  | regex {content : String} {pattern : Pattern}
      (compiled : Pattern.ofSource content = .ok pattern) :
      CompiledFrom (.regex content) (.regex pattern)
  | either : CompiledFrom .either .either

/-- An edge is compiled from an edge of a document. -/
structure Edge.CompiledFrom (e : Document.Edge) (e' : Edge) : Prop where
  prompt : e'.prompt.CompiledFrom e.prompt
  actions : e'.actions = e.actions
  next : e'.next = e.next

/-- A state is compiled from a state of a document. -/
structure State.CompiledFrom (s : Document.State) (s' : State) : Prop where
  name : s'.name = s.name
  edges : List.Forall₂ Edge.CompiledFrom s.edges s'.edges

/-- A definition is compiled from a document. -/
structure CompiledFrom (doc : Document) (d : Definition) : Prop where
  initialState : d.initialState = doc.initialState
  acceptingStates : d.acceptingStates = doc.acceptingStates
  states : List.Forall₂ State.CompiledFrom doc.states d.states

/-- Compiling a prompt is sound and complete. -/
theorem compilePrompt_eq_ok_iff {state : String} {p : Document.Prompt} {p' : Prompt} :
    compilePrompt state p = .ok p' ↔ p'.CompiledFrom p := by
  cases p with
  | text content =>
    constructor
    · exact fun h => Except.ok.inj h ▸ .text content
    · rintro ⟨⟩
      rfl
  | regex content =>
    rw [compilePrompt]
    cases hp : Pattern.ofSource content with
    | ok pattern =>
      constructor
      · exact fun h => Except.ok.inj h ▸ .regex hp
      · intro h
        cases h with
        | regex compiled =>
          rw [hp] at compiled
          rw [Except.ok.inj compiled]
    | error failure =>
      constructor
      · intro h
        cases failure <;> cases h
      · intro h
        cases h with
        | regex compiled =>
          rw [hp] at compiled
          cases compiled
  | either =>
    constructor
    · exact fun h => Except.ok.inj h ▸ .either
    · rintro ⟨⟩
      rfl

theorem compileEdge_eq_ok_iff {state : String} {e : Document.Edge} {e' : Edge} :
    compileEdge state e = .ok e' ↔ e'.CompiledFrom e := by
  constructor
  · intro h
    obtain ⟨p, hp, h⟩ := Except.bind_eq_ok.mp h
    obtain rfl := Except.ok.inj h
    exact ⟨compilePrompt_eq_ok_iff.mp hp, rfl, rfl⟩
  · rintro ⟨prompt, actions, next⟩
    refine Except.bind_eq_ok.mpr ⟨e'.prompt, compilePrompt_eq_ok_iff.mpr prompt, ?_⟩
    rw [← actions, ← next]
    rfl

theorem compileStates_eq_ok_iff {before : List String} {l : List Document.State}
    {states : List State} :
    compileStates before l = .ok states ↔
      (l.map (·.name)).Nodup ∧ (∀ s ∈ l, s.name ∉ before) ∧
        List.Forall₂ State.CompiledFrom l states := by
  induction l generalizing before states with
  | nil =>
    rw [List.forall₂_nil_left_iff]
    constructor
    · exact fun h => ⟨List.nodup_nil, fun _ hs => (nomatch hs), (Except.ok.inj h).symm⟩
    · exact fun h => h.2.2 ▸ rfl
  | cons s rest ih =>
    have hedges : ∀ edges, s.edges.mapM (compileEdge s.name) = .ok edges ↔
        List.Forall₂ Edge.CompiledFrom s.edges edges := by
      intro edges
      rw [Except.mapM_eq_ok_iff]
      simp only [compileEdge_eq_ok_iff]
    rw [compileStates_cons, List.map_cons, List.nodup_cons, List.forall_mem_cons,
      List.forall₂_cons_left_iff]
    constructor
    · rintro ⟨hbefore, edges, states', he, hs, rfl⟩
      obtain ⟨hdistinct, hapart, hrest⟩ := ih.mp hs
      refine ⟨⟨?_, hdistinct⟩, ⟨hbefore, ?_⟩, ⟨_, _, ⟨rfl, (hedges _).mp he⟩, hrest, rfl⟩⟩
      · intro hmem
        obtain ⟨s', hs', hname⟩ := List.mem_map.mp hmem
        exact hapart s' hs' (hname ▸ List.mem_cons_self)
      · exact fun s' hs' hmem => hapart s' hs' (List.mem_cons_of_mem _ hmem)
    · rintro ⟨⟨hnew, hdistinct⟩, ⟨hbefore, hapart⟩, ⟨s', states', hs, hrest, rfl⟩⟩
      refine ⟨hbefore, s'.edges, states', (hedges _).mpr hs.edges,
        ih.mpr ⟨hdistinct, ?_, hrest⟩, ?_⟩
      · intro s'' hs'' hmem
        obtain h | h := List.mem_cons.mp hmem
        · exact hnew (h ▸ List.mem_map_of_mem hs'')
        · exact hapart s'' hs'' h
      · rw [← hs.name]

/-- An edge can be compiled if its pattern can. -/
theorem Edge.exists_compiledFrom_iff {e : Document.Edge} :
    (∃ e' : Edge, e'.CompiledFrom e) ↔ e.Compiles := by
  constructor
  · rintro ⟨⟨p, actions, next⟩, ⟨prompt, -, -⟩⟩ content hp
    rw [hp] at prompt
    cases prompt with
    | regex compiled => exact ⟨_, compiled⟩
  · intro h
    have hprompt : ∃ p : Prompt, p.CompiledFrom e.prompt := by
      cases hp : e.prompt with
      | text content => exact ⟨_, .text content⟩
      | regex content =>
        obtain ⟨pattern, compiled⟩ := h content hp
        exact ⟨_, .regex compiled⟩
      | either => exact ⟨_, .either⟩
    obtain ⟨p, hp⟩ := hprompt
    exact ⟨⟨p, e.actions, e.next⟩, hp, rfl, rfl⟩

/-- A state can be compiled if its edges can. -/
theorem State.exists_compiledFrom_iff {s : Document.State} :
    (∃ s' : State, s'.CompiledFrom s) ↔ ∀ e ∈ s.edges, ∃ e' : Edge, e'.CompiledFrom e := by
  rw [← exists_forall₂_iff]
  constructor
  · rintro ⟨s', hs⟩
    exact ⟨s'.edges, hs.edges⟩
  · rintro ⟨edges, hedges⟩
    exact ⟨⟨s.name, edges⟩, rfl, hedges⟩

/-- Something can be compiled from a document if and only if its patterns compile. -/
theorem exists_compiledFrom_iff :
    (∃ d : Definition, d.CompiledFrom doc) ↔ ∀ s ∈ doc.states, ∀ e ∈ s.edges, e.Compiles := by
  have hstates : (∀ s ∈ doc.states, ∃ s' : State, s'.CompiledFrom s) ↔ _ :=
    forall₂_congr fun s _ => State.exists_compiledFrom_iff
  simp only [← Edge.exists_compiledFrom_iff]
  rw [← hstates, ← exists_forall₂_iff]
  constructor
  · rintro ⟨d, hd⟩
    exact ⟨d.states, hd.states⟩
  · rintro ⟨states, hstates⟩
    exact ⟨⟨doc.initialState, doc.acceptingStates, states⟩, rfl, rfl, hstates⟩

/-- A document is compiled if and only if it is sound. -/
theorem ofDocument_eq_ok_iff :
    ofDocument doc = .ok d ↔ doc.Sound ∧ d.CompiledFrom doc := by
  rw [ofDocument_eq_ok]
  constructor
  · rintro ⟨states, hs, hr, rfl⟩
    obtain ⟨hdistinct, -, hstates⟩ := compileStates_eq_ok_iff.mp hs
    obtain ⟨hinitial, haccepting, htargets⟩ := checkReferences_eq_ok_iff.mp hr
    have hcompiled : CompiledFrom doc ⟨doc.initialState, doc.acceptingStates, states⟩ :=
      ⟨rfl, rfl, hstates⟩
    exact ⟨⟨exists_compiledFrom_iff.mp ⟨_, hcompiled⟩, hdistinct, hinitial, haccepting, htargets⟩,
      hcompiled⟩
  · rintro ⟨hsound, hcompiled⟩
    refine ⟨d.states, compileStates_eq_ok_iff.mpr ⟨hsound.distinct, ?_, hcompiled.states⟩, ?_, ?_⟩
    · exact fun _ _ h => (nomatch h)
    · exact checkReferences_eq_ok_iff.mpr ⟨hsound.initial, hsound.accepting, hsound.targets⟩
    · rw [← hcompiled.initialState, ← hcompiled.acceptingStates]

/-- What a value compiles to is told by the document that it describes. -/
theorem ofJson_eq_ok_iff {v : Json} :
    ofJson v = .ok d ↔ ∃ doc, Document.DescribedBy v doc ∧ doc.Sound ∧ d.CompiledFrom doc := by
  simp only [← ofDocument_eq_ok_iff, ← Document.ofJson_eq_ok_iff]
  exact ofJsonIn_eq_ok_iff

/-- The compiler accepts a value exactly if it describes a sound document, and the definition that
it returns is the one compiled from that document: the same states, edges, actions and targets in
the same order, and the prompts with their patterns compiled. -/
theorem accepts_iff_sound (v : Json) :
    ((∃ d, ofJson v = .ok d) ↔ ∃ doc, Document.DescribedBy v doc ∧ doc.Sound) ∧
      ∀ d, ofJson v = .ok d ↔
        ∃ doc, Document.DescribedBy v doc ∧ doc.Sound ∧ d.CompiledFrom doc := by
  refine ⟨⟨?_, ?_⟩, fun d => ofJson_eq_ok_iff⟩
  · rintro ⟨d, h⟩
    obtain ⟨doc, hdescribed, hsound, -⟩ := ofJson_eq_ok_iff.mp h
    exact ⟨doc, hdescribed, hsound⟩
  · rintro ⟨doc, hdescribed, hsound⟩
    obtain ⟨d, hcompiled⟩ := exists_compiledFrom_iff.mpr hsound.patterns
    exact ⟨d, ofJson_eq_ok_iff.mpr ⟨doc, hdescribed, hsound, hcompiled⟩⟩

end Definition

end ChatRiddles
