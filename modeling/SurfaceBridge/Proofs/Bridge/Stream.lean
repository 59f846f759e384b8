import SurfaceBridge.Proofs.Bridge.Run

set_option autoImplicit false

/-! # Streams of blocks

A transport that serves one connection after the other reports a stream of blocks: a connection
opens, its messages arrive, and it closes before the next one opens. Only the last block of a
stream can be unfinished.

What is `pending` is what waits to be handled and what is still to come. A handshake takes its
answer and the questions of the server out of it, all of them from its own block, and the rest
stays in order (`waited_block`).
-/

namespace SurfaceBridge

open Rpc (Connection Message)

/-! ## Signals without their room -/

/-- A signal, whatever the room of its connection. -/
def Signal.bare : Signal → Signal
  | .opened id _ => .opened id none
  | s => s

/-- The signal that an event has come from, whatever the room of its connection. -/
def Event.bare : Event → Signal
  | .opened c => .opened c.id none
  | .message id text => .message id text
  | .closed id => .closed id

theorem Event.eq_message_of_bare {e : Event} {id : Nat} {text : String}
    (h : e.bare = .message id text) : e = .message id text := by
  cases e <;> cases h
  rfl

theorem Event.eq_closed_of_bare {e : Event} {id : Nat} (h : e.bare = .closed id) :
    e = .closed id := by
  cases e <;> cases h
  rfl

theorem Event.eq_opened_of_bare {e : Event} {id : Nat} {room : Option Nat}
    (h : e.bare = .opened id room) : ∃ c : Connection, e = .opened c ∧ c.id = id := by
  cases e <;> cases h
  exact ⟨_, rfl, rfl⟩

/-- What the transport still reports before it hangs up. -/
def arrivals : List Action → List Signal
  | [] => []
  | .hangUp :: _ => []
  | .signal s :: as => s.bare :: arrivals as
  | _ :: as => arrivals as

/-! ## Messages in a handshake -/

/-- Whether a message answers the request of a handshake. -/
def answersGreeting (text : String) : Bool :=
  match Message.read text with
  | .error _ => false
  | .ok m => m.isResponseTo 1

/-- Whether a message is a request of the server. -/
def asks (text : String) : Bool :=
  match Message.read text with
  | .ok (.request _ _ _) => true
  | _ => false

theorem isQuiet_message (id : Nat) (text : String) :
    ((Event.message id text).role id 1).isQuiet = !answersGreeting text := by
  simp only [Event.role, answersGreeting, if_true]
  cases Message.read text with
  | error err => rfl
  | ok m =>
      cases hm : m.isResponseTo 1 with
      | true => simp [Message.role, hm, Role.isQuiet]
      | false => cases m <;> simp [Message.role, hm, Role.isQuiet]

theorem isOther_message {text : String} (id : Nat) (h : answersGreeting text = false) :
    ((Event.message id text).role id 1).isOther = !asks text := by
  simp only [Event.role, answersGreeting, asks, if_true] at h ⊢
  cases hr : Message.read text with
  | error err => rfl
  | ok m =>
      rw [hr] at h
      dsimp only at h
      cases m <;> simp [Message.role, h, Role.isOther]

/-! ## Blocks -/

/-- What the transport reports of one connection: it opens, it sends texts, and it closes, unless
the block is not finished. -/
structure Block where
  id : Nat
  texts : List String
  finished : Bool

namespace Block

/-- The end of the connection. -/
def ending (k : Block) : List Signal := if k.finished then [.closed k.id] else []

/-- The signals after the opening. -/
def body (k : Block) : List Signal := k.texts.map (.message k.id) ++ k.ending

/-- All signals of a block. -/
def signals (k : Block) : List Signal := .opened k.id none :: k.body

/-- The same block with other texts. -/
def withTexts (texts : List String) (k : Block) : Block := { k with texts := texts }

end Block

/-- The signals of several blocks, one after the other. -/
def stream (blocks : List Block) : List Signal := blocks.flatMap Block.signals

/-- Only the last block is unfinished. -/
def InTurn (blocks : List Block) : Prop := blocks.Pairwise fun k _ => k.finished = true

theorem InTurn.eq_nil {k : Block} {blocks : List Block} (h : InTurn (k :: blocks))
    (unfinished : k.finished = false) : blocks = [] := by
  cases blocks with
  | nil => rfl
  | cons k' blocks =>
      have hk := (List.pairwise_cons.1 h).1 k' List.mem_cons_self
      rw [unfinished] at hk
      cases hk

theorem InTurn.tail {k : Block} {blocks : List Block} (h : InTurn (k :: blocks)) :
    InTurn blocks := (List.pairwise_cons.1 h).2

theorem InTurn.withTexts {k : Block} {blocks : List Block} (h : InTurn (k :: blocks))
    (texts : List String) : InTurn (k.withTexts texts :: blocks) :=
  List.pairwise_cons.2 (List.pairwise_cons.1 h)

theorem openedId?_body {k : Block} {s : Signal} (h : s ∈ k.body) : s.openedId? = none := by
  rcases List.mem_append.1 h with h | h
  · obtain ⟨text, -, rfl⟩ := List.mem_map.1 h
    rfl
  · unfold Block.ending at h
    split at h
    · rw [List.mem_singleton.1 h]
      rfl
    · cases h

/-! ## Handshakes within a block -/

section Handshake

variable {k : Block} {blocks : List Block}

/-- What a waiting client reads before the wait is decided are messages of its own block. -/
theorem split_of_quiet (turn : InTurn (k :: blocks)) {before : List Event} {rest : List Signal}
    (quiet : ∀ d ∈ before, (d.role k.id 1).isQuiet = true)
    (h : before.map Event.bare ++ rest = k.body ++ stream blocks) :
    ∃ read unread, k.texts = read ++ unread ∧ before = read.map (Event.message k.id)
      ∧ (∀ t ∈ read, answersGreeting t = false)
      ∧ rest = (k.withTexts unread).body ++ stream blocks := by
  obtain ⟨id, texts, finished⟩ := k
  -- on what has been read; the block is used up from the front
  induction before generalizing texts with
  | nil => exact ⟨[], texts, rfl, rfl, by simp, h⟩
  | cons d before ih =>
      have hd := quiet d List.mem_cons_self
      cases texts with
      | nil =>
          cases finished with
          | false =>
              rw [turn.eq_nil rfl] at h
              cases h
          | true =>
              -- the end of the block would have ended the wait
              have hbare : d.bare = .closed id := (List.cons.inj h).1
              rw [Event.eq_closed_of_bare hbare] at hd
              simp [Event.role, Role.isQuiet] at hd
      | cons t texts =>
          obtain ⟨hbare, htail⟩ := List.cons.inj h
          have hmessage := Event.eq_message_of_bare hbare
          have turn' : InTurn (⟨id, texts, finished⟩ :: blocks) :=
            List.pairwise_cons.2 (List.pairwise_cons.1 turn)
          obtain ⟨read, unread, htexts, hbefore, hread, hrest⟩ :=
            ih texts turn' (fun e he => quiet e (List.mem_cons_of_mem _ he)) htail
          refine ⟨t :: read, unread, congrArg (t :: ·) htexts, ?_, ?_, hrest⟩
          · rw [hmessage, hbefore]
            rfl
          · intro u hu
            rcases List.mem_cons.1 hu with rfl | hu
            · rw [hmessage, isQuiet_message] at hd
              simpa using hd
            · exact hread u hu

/-- The messages that a handshake puts off. -/
theorem filter_isOther (id : Nat) {read : List String}
    (quiet : ∀ t ∈ read, answersGreeting t = false) :
    (read.map (Event.message id)).filter (fun d => (d.role id 1).isOther)
      = (read.filter fun t => !asks t).map (Event.message id) := by
  rw [List.filter_map]
  congr 1
  apply List.filter_congr
  intro t ht
  exact isOther_message id (quiet t ht)

/-- Messages that have been put off go before what is left of their block. -/
theorem bare_putOff (before : List String) {after : List String} {unread : List Event}
    {rest : List Signal}
    (h : unread.map Event.bare ++ rest = (k.withTexts after).body ++ stream blocks) :
    (before.map (Event.message k.id) ++ unread).map Event.bare ++ rest
      = (k.withTexts (before ++ after)).body ++ stream blocks := by
  have hmap : (before.map (Event.message k.id)).map Event.bare
      = before.map (Signal.message k.id) := by
    rw [List.map_map]
    rfl
  have hbody : (k.withTexts (before ++ after)).body
      = before.map (Signal.message k.id) ++ (k.withTexts after).body := by
    unfold Block.body Block.withTexts
    rw [List.map_append, List.append_assoc]
    rfl
  rw [List.map_append, hmap, List.append_assoc, h, hbody, List.append_assoc]

/-- The next event of a block is its next message or, behind the last one, its end. -/
theorem next_of_block {e : Event} {rest : List Signal} (turn : InTurn (k :: blocks))
    (h : e.bare :: rest = k.body ++ stream blocks) :
    (∃ t unread, k.texts = t :: unread ∧ e = .message k.id t
        ∧ rest = (k.withTexts unread).body ++ stream blocks)
      ∨ k.texts = [] ∧ k.finished = true ∧ e = .closed k.id ∧ rest = stream blocks := by
  cases ht : k.texts with
  | cons t unread =>
      have hbody : k.body = .message k.id t :: (k.withTexts unread).body := by
        rw [Block.body, ht]
        rfl
      rw [hbody] at h
      obtain ⟨hbare, hrest⟩ := List.cons.inj h
      exact Or.inl ⟨t, unread, rfl, Event.eq_message_of_bare hbare, hrest⟩
  | nil =>
      have hbody : k.body = k.ending := by
        rw [Block.body, ht]
        rfl
      rw [hbody] at h
      cases hf : k.finished with
      | false =>
          rw [turn.eq_nil hf, Block.ending, hf] at h
          cases h
      | true =>
          rw [Block.ending, hf] at h
          obtain ⟨hbare, hrest⟩ := List.cons.inj h
          exact Or.inr ⟨rfl, rfl, Event.eq_closed_of_bare hbare, hrest⟩

/-- What a handshake makes of its block. Whether it succeeds or not, what is left of the block are
messages and the end; if there is an answer, what is left is the block without the answer and
without the questions before it. -/
theorem waited_block (turn : InTurn (k :: blocks)) {events putOff unread : List Event}
    {rest : List Signal} {answer : Except BridgeError Message}
    (h : events.map Event.bare ++ rest = k.body ++ stream blocks)
    (waited : Session.Waited k.id 1 events answer putOff unread) :
    (∀ d ∈ putOff, d.bare.openedId? = none)
      ∧ (∃ left, (∀ s ∈ left, s.openedId? = none)
        ∧ (putOff ++ unread).map Event.bare ++ rest = left ++ stream blocks)
      ∧ (∀ m, answer = .ok m → ∃ before t after, k.texts = before ++ t :: after
        ∧ (∀ u ∈ before, answersGreeting u = false) ∧ answersGreeting t = true
        ∧ (putOff ++ unread).map Event.bare ++ rest
          = (k.withTexts ((before.filter fun u => !asks u) ++ after)).body ++ stream blocks) := by
  have hmessages : ∀ texts : List String, ∀ d ∈ texts.map (Event.message k.id),
      d.bare.openedId? = none := by
    intro texts d hd
    obtain ⟨t, -, rfl⟩ := List.mem_map.1 hd
    rfl
  have hleft : ∀ texts : List String, ∀ s ∈ (k.withTexts texts).body, s.openedId? = none :=
    fun texts s => openedId?_body
  cases waited with
  | @answered before after e m split quiet role =>
      rw [split, List.map_append, List.append_assoc] at h
      obtain ⟨read, left, htexts, rfl, hread, hblock⟩ := split_of_quiet turn quiet h
      -- the answer is the next message of the block
      obtain ⟨text, rfl, hm, hanswers⟩ := Event.exists_text_of_role role
      rcases next_of_block (turn.withTexts left) hblock with
        ⟨t, left, rfl, he, hrest⟩ | ⟨-, -, he, -⟩
      · cases he
        rw [filter_isOther k.id hread]
        have hpending := bare_putOff (read.filter fun u => !asks u) hrest
        refine ⟨hmessages _, ⟨_, hleft _, hpending⟩, fun m' _ => ?_⟩
        refine ⟨read, text, left, htexts, hread, ?_, hpending⟩
        simp [answersGreeting, hm, hanswers]
      · cases he
  | @refused before after e f err split quiet role =>
      rw [split, List.map_append, List.append_assoc] at h
      obtain ⟨read, left, htexts, rfl, hread, hblock⟩ := split_of_quiet turn quiet h
      rcases next_of_block (turn.withTexts left) hblock with
        ⟨t, left, rfl, he, hrest⟩ | ⟨-, -, rfl, -⟩
      · rw [filter_isOther k.id hread]
        exact ⟨hmessages _, ⟨_, hleft _, bare_putOff _ hrest⟩, fun m' hm => by cases hm⟩
      -- the end of the block is no question
      · simp [Event.role, Block.withTexts] at role
  | @ended before after e err split quiet role =>
      rw [split, List.map_append, List.append_assoc] at h
      obtain ⟨read, left, htexts, rfl, hread, hrest⟩ := split_of_quiet turn quiet h
      -- the end is put off too, behind the messages
      obtain rfl := Event.eq_closed_of_role role
      rw [filter_isOther k.id hread]
      refine ⟨?_, ⟨_, hleft (read.filter (fun u => !asks u) ++ left), ?_⟩, fun m' hm => by cases hm⟩
      · intro d hd
        rcases List.mem_append.1 hd with hd | hd
        · exact hmessages _ d hd
        · rw [List.mem_singleton.1 hd]
          rfl
      · rw [List.append_assoc]
        exact bare_putOff _ hrest
  | @stopped before after err split quiet =>
      rw [split, List.map_append, List.append_assoc] at h
      obtain ⟨read, left, htexts, rfl, hread, hrest⟩ := split_of_quiet turn quiet h
      rw [filter_isOther k.id hread]
      exact ⟨hmessages _, ⟨_, hleft _, bare_putOff _ hrest⟩, fun m' hm => by cases hm⟩

end Handshake

end SurfaceBridge
