import SurfaceBridge.Proofs.Json.Delimiting

set_option autoImplicit false

/-! # All the ways to write a value

`Written v s` says that the text `s` writes the value `v`. Between the tokens of a text there may be
blanks (`Gap`), a string may be written with escapes (`Quoted`), and a number in any way in which it
is read. An object keeps its members in the order in which they are written, repeated names
included, since this is what a reader that keeps all members makes of it.

A value that is nested no deeper than a reader allows is read back from every text that writes it,
and one that is nested deeper is refused (`gives_readWritten`).
-/

namespace SurfaceBridge

namespace Json

/-! ## Depth -/

mutual

/-- How many lists and objects are open at the innermost place of a value. -/
def depth : Json → Nat
  | .list items => depthOfItems items + 1
  | .object members => depthOfMembers members + 1
  | _ => 0

/-- The depth of the deepest item. -/
def depthOfItems : List Json → Nat
  | [] => 0
  | v :: vs => max (depth v) (depthOfItems vs)

/-- The depth of the deepest member. -/
def depthOfMembers : List (String × Json) → Nat
  | [] => 0
  | (_, v) :: ms => max (depth v) (depthOfMembers ms)

end

theorem depth_list_le {items : List Json} {d : Nat} :
    (Json.list items).depth ≤ d + 1 ↔ ∀ v ∈ items, v.depth ≤ d := by
  have key : depthOfItems items ≤ d ↔ ∀ v ∈ items, v.depth ≤ d := by
    induction items with
    | nil => simp [depthOfItems]
    | cons v vs ih => simp [depthOfItems, ih]
  rw [depth, Nat.add_le_add_iff_right, key]

theorem depth_object_le {members : List (String × Json)} {d : Nat} :
    (Json.object members).depth ≤ d + 1 ↔ ∀ m ∈ members, m.2.depth ≤ d := by
  have key : depthOfMembers members ≤ d ↔ ∀ m ∈ members, m.2.depth ≤ d := by
    induction members with
    | nil => simp [depthOfMembers]
    | cons m ms ih => simp [depthOfMembers, ih]
  rw [depth, Nat.add_le_add_iff_right, key]

/-! ## Texts of a value -/

/-- Blanks, or nothing. -/
structure Gap where
  chars : List Char
  blank : Blanks chars

/-- A string with the pieces in which it is written and their text. -/
structure Quoted where
  value : String
  pieces : List Piece
  body : List Char
  written : BodyText pieces body
  stands : textOf pieces = some value

/-- What is written between quotes, with the quotes. -/
def Quoted.text (q : Quoted) : List Char := '"' :: (q.body ++ ['"'])

/-- A value as it is written in a list, with the blanks on both sides of the comma before it. -/
structure Item where
  before : Gap
  behind : Gap
  value : Json
  text : List Char

/-- A value as it is written in an object, with its name and the blanks around the colon. -/
structure Entry extends Item where
  name : Quoted
  beforeColon : Gap
  behindColon : Gap

/-- A member behind the opening quote of its name. -/
def Entry.behindQuote (e : Entry) : List Char :=
  e.name.body ++ '"' :: (e.beforeColon.chars ++ ':' :: (e.behindColon.chars ++ e.text))

/-- A member as it is written. -/
def Entry.line (e : Entry) : List Char := '"' :: e.behindQuote

/-- The member of an object that is written. -/
def Entry.member (e : Entry) : String × Json := (e.name.value, e.value)

/-- The text of the items that are still to come, up to the closing bracket. -/
def spaced {α : Type} (item : α → Item) (text : α → List Char) (last : Gap) :
    Bool → List α → List Char
  | _, [] => last.chars
  | first, a :: as =>
    (item a).before.chars
      ++ (lead first ++ ((item a).behind.chars ++ (text a ++ spaced item text last false as)))

/-- The texts that write a value. -/
inductive Written : Json → List Char → Prop where
  | null : Written .null ['n', 'u', 'l', 'l']
  | true : Written (.boolean true) ['t', 'r', 'u', 'e']
  | false : Written (.boolean false) ['f', 'a', 'l', 's', 'e']
  | number {n : Number} {s : List Char} (read : readNumber s = .ok (n, [])) :
      Written (.number n) s
  | text (q : Quoted) : Written (.text q.value) q.text
  | list {items : List Item} (last : Gap) (all : ∀ i ∈ items, Written i.value i.text) :
      Written (.list (items.map (·.value))) ('[' :: (spaced id (·.text) last true items ++ [']']))
  | object {entries : List Entry} (last : Gap) (all : ∀ e ∈ entries, Written e.value e.text) :
      Written (.object (entries.map (·.member)))
        ('{' :: (spaced (·.toItem) (·.line) last true entries ++ ['}']))

/-! ## First characters -/

theorem exists_of_readNumber {n : Number} {s rest : List Char} (h : readNumber s = .ok (n, rest)) :
    ∃ c cs, s = c :: cs ∧ (c = '-' ∨ c.isDigit = true) := by
  cases s with
  | nil => cases h
  | cons c cs =>
      refine ⟨c, cs, rfl, ?_⟩
      by_contra hne
      simp only [not_or] at hne
      have hzero : c ≠ '0' := by
        rintro rfl
        exact hne.2 rfl
      simp [readNumber, readUnsigned, hne, stop] at h

theorem Written.exists_cons {v : Json} {s : List Char} (h : Written v s) :
    ∃ c cs, s = c :: cs ∧ Opens c v := by
  cases h with
  | number read => exact exists_of_readNumber read
  | _ => exact ⟨_, _, rfl, rfl⟩

/-- A number stops at a blank and at whatever ends an item. -/
theorem stops_cons {c : Char} (h : isSpace c = true ∨ c = ',' ∨ c = ']' ∨ c = '}')
    (rest : List Char) : Stops (c :: rest) := by
  intro d hd
  cases hd
  simp only [isSpace, Bool.or_eq_true, decide_eq_true_eq] at h
  rcases h with (((rfl | rfl) | rfl) | rfl) | rfl | rfl | rfl <;> decide

theorem stops_gap (gap : Gap) {rest : List Char} (stops : Stops rest) :
    Stops (gap.chars ++ rest) := by
  obtain ⟨chars, blank⟩ := gap
  cases chars with
  | nil => exact stops
  | cons c cs => exact stops_cons (Or.inl (blank c (by simp))) _

section

variable {α : Type} (item : α → Item) (text : α → List Char)

theorem spaced_cons_append (last : Gap) (first : Bool) (a : α) (as : List α) (rest : List Char) :
    spaced item text last first (a :: as) ++ rest
      = (item a).before.chars ++ (lead first ++ ((item a).behind.chars
        ++ (text a ++ (spaced item text last false as ++ rest)))) := by
  simp [spaced]

theorem stops_spaced (last : Gap) (as : List α) {rest : List Char} (stops : Stops rest) :
    Stops (spaced item text last false as ++ rest) := by
  cases as with
  | nil => exact stops_gap last stops
  | cons a as =>
      rw [spaced_cons_append]
      exact stops_gap _ (stops_cons (Or.inr (Or.inl rfl)) _)

/-- Every item takes at least one character, so the length of the text is fuel enough. -/
theorem length_lt_spaced {as : List α} (notNil : ∀ a ∈ as, text a ≠ []) (last : Gap) (first : Bool)
    (rest : List Char) : as.length < (spaced item text last first as ++ rest).length + 1 := by
  induction as generalizing first with
  | nil => simp
  | cons a as ih =>
      have has := ih (fun b hb => notNil b (by simp [hb])) false
      have hpos := List.length_pos_iff.2 (notNil a (by simp))
      rw [spaced_cons_append]
      simp only [List.length_append, List.length_cons] at has ⊢
      omega

end

/-! ## Reading what is written -/

theorem Gives.map {α β : Type} {value : Option α} {rest : List Char} {reading : Reading α}
    (h : Gives value rest reading) (f : α → β) :
    Gives (value.map f) rest (reading.map fun p => (f p.1, p.2)) := by
  cases value with
  | some a =>
      cases h
      rfl
  | none =>
      obtain ⟨e, rfl⟩ := h
      exact ⟨e, rfl⟩

theorem gives_settle {α : Type} (outcome : Except Mismatch α) (rest : List Char) :
    Gives outcome.toOption rest (settle outcome rest) := by
  cases outcome with
  | ok a => rfl
  | error m => exact exists_refuse m rest

theorem skipSpace_gap (gap : Gap) {c : Char} (solid : isSpace c = false) (rest : List Char) :
    skipSpace (gap.chars ++ c :: rest) = c :: rest :=
  skipSpace_blanks gap.blank solid rest

theorem nextItem_gaps (before behind : Gap) (first : Bool) {v : Json} {s : List Char}
    (h : Written v s) (rest : List Char) :
    nextItem first (before.chars ++ (lead first ++ (behind.chars ++ (s ++ rest))))
      = .ok (true, s ++ rest) := by
  obtain ⟨c, cs, rfl, opens⟩ := h.exists_cons
  obtain ⟨solid, -, notEnd, -⟩ := opens.not_end
  have hbehind := skipSpace_gap behind solid (cs ++ rest)
  cases first with
  | true =>
      have hboth : Blanks (before.chars ++ behind.chars) := fun c hc =>
        (List.mem_append.1 hc).elim (before.blank c) (behind.blank c)
      have hskip := skipSpace_blanks hboth solid (cs ++ rest)
      rw [List.append_assoc] at hskip
      simp [nextItem, lead, hskip, notEnd]
  | false =>
      have hskip := skipSpace_gap before (c := ',') rfl (behind.chars ++ (c :: (cs ++ rest)))
      simp [nextItem, lead, hskip, hbehind, notEnd]

theorem nextItem_gap_end (gap : Gap) (first : Bool) (rest : List Char) :
    nextItem first (gap.chars ++ ']' :: rest) = .ok (false, ']' :: rest) := by
  simp [nextItem, skipSpace_gap gap (c := ']') rfl]

/-- The items of a list are read one after the other, and the first for which the reader of items
has nothing ends it. -/
theorem gives_readItems {β : Type} {item : List Char → Reading β} {take : Item → Option β}
    {items : List Item} (written : ∀ i ∈ items, Written i.value i.text)
    (each : ∀ i ∈ items, ∀ rest, Stops rest → Gives (take i) rest (item (i.text ++ rest)))
    {fuel : Nat} (enough : items.length < fuel) (last : Gap) (first : Bool) (acc : List β)
    (rest : List Char) :
    Gives ((items.mapM take).map (acc.reverse ++ ·)) rest
      (readItems item fuel first acc (spaced id (·.text) last first items ++ ']' :: rest)) := by
  induction items generalizing fuel first acc with
  | nil =>
      obtain ⟨fuel, rfl⟩ := Nat.exists_eq_succ_of_ne_zero (Nat.ne_zero_of_lt enough)
      rw [spaced, readItems, nextItem_gap_end]
      simp [gives_some]
  | cons i items ih =>
      obtain ⟨fuel, rfl⟩ := Nat.exists_eq_succ_of_ne_zero (Nat.ne_zero_of_lt enough)
      -- a comma or the end of the list stops a number
      have hstops : Stops (spaced id (·.text) last false items ++ ']' :: rest) :=
        stops_spaced _ _ last items (stops_cons (by simp) rest)
      have hitem := each i (by simp) _ hstops
      rw [spaced_cons_append, readItems, id_eq, nextItem_gaps _ _ _ (written i (by simp)),
        List.mapM_cons]
      dsimp only
      cases ht : take i with
      | none =>
          rw [ht, gives_none] at hitem
          obtain ⟨e, he⟩ := hitem
          rw [he]
          exact ⟨e, rfl⟩
      | some a =>
          rw [ht, gives_some] at hitem
          have hrest := ih (fun j hj => written j (by simp [hj]))
            (fun j hj => each j (by simp [hj])) (by simpa using enough) false (a :: acc)
          rw [hitem]
          dsimp only
          cases hm : items.mapM take with
          | none =>
              rw [hm] at hrest
              exact hrest
          | some as =>
              rw [hm] at hrest
              simpa [gives_some] using hrest

/-- The members of an object are read one after the other, and the first for which the reader of
members has nothing ends it. -/
theorem gives_readEntries {σ : Type} {member : σ → List Char → Reading σ}
    {take : σ → Entry → Option σ} {entries : List Entry}
    (each : ∀ e ∈ entries, ∀ state rest, Stops rest →
      Gives (take state e) rest (member state (e.behindQuote ++ rest)))
    {fuel : Nat} (enough : entries.length < fuel) (last : Gap) (first : Bool) (state : σ)
    (rest : List Char) :
    Gives (entries.foldlM take state) ('}' :: rest)
      (readMembers member fuel first state
        (spaced (·.toItem) (·.line) last first entries ++ '}' :: rest)) := by
  induction entries generalizing fuel first state with
  | nil =>
      obtain ⟨fuel, rfl⟩ := Nat.exists_eq_succ_of_ne_zero (Nat.ne_zero_of_lt enough)
      rw [spaced, readMembers, nextMember_blanks_end last.blank]
      rfl
  | cons e entries ih =>
      obtain ⟨fuel, rfl⟩ := Nat.exists_eq_succ_of_ne_zero (Nat.ne_zero_of_lt enough)
      have hstops : Stops (spaced (·.toItem) (·.line) last false entries ++ '}' :: rest) :=
        stops_spaced _ _ last entries (stops_cons (by simp) rest)
      have hmember := each e (by simp) state _ hstops
      have hnext := nextMember_blanks e.before.blank e.behind.blank first
        (e.behindQuote ++ (spaced (·.toItem) (·.line) last false entries ++ '}' :: rest))
      rw [spaced_cons_append, Entry.line, List.cons_append, readMembers, hnext, List.foldlM_cons]
      dsimp only
      cases ht : take state e with
      | none =>
          rw [ht, gives_none] at hmember
          obtain ⟨problem, hp⟩ := hmember
          exact ⟨problem, by rw [hp]⟩
      | some after =>
          rw [ht, gives_some] at hmember
          rw [hmember]
          exact ih (fun f hf => each f (by simp [hf])) (by simpa using enough) false after

theorem readText_quoted (q : Quoted) (rest : List Char) :
    readText (q.body ++ '"' :: rest) = .ok (q.value, rest) := by
  have hread := gives_readText q.written rest
  rwa [q.stands, gives_some] at hread

theorem readWritten_gap (depth : Nat) (gap : Gap) {c : Char} (solid : isSpace c = false)
    (rest : List Char) :
    readWritten depth (gap.chars ++ c :: rest) = readWritten depth (c :: rest) := by
  have hskip : skipSpace (c :: rest) = c :: rest := by simp [skipSpace, solid]
  unfold readWritten
  rw [readTree, readTree, skipSpace_gap gap solid, hskip]

theorem mapM_ite {α β : Type} (p : α → Prop) [DecidablePred p] (f : α → β) (as : List α) :
    as.mapM (fun a => if p a then some (f a) else none)
      = if ∀ a ∈ as, p a then some (as.map f) else none := by
  induction as with
  | nil => simp
  | cons a as ih =>
      simp only [List.mapM_cons, ih, List.forall_mem_cons, List.map_cons]
      by_cases ha : p a
      · by_cases has : ∀ b ∈ as, p b
        · rw [if_pos ha, if_pos has, if_pos ⟨ha, has⟩]
          rfl
        · have hnot : ¬ (p a ∧ ∀ b ∈ as, p b) := fun h => has h.2
          rw [if_pos ha, if_neg has, if_neg hnot]
          rfl
      · have hnot : ¬ (p a ∧ ∀ b ∈ as, p b) := fun h => ha h.1
        rw [if_neg ha, if_neg hnot]
        rfl

theorem foldlM_ite {α β : Type} (p : α → Prop) [DecidablePred p] (f : α → β) (as : List α)
    (before : List β) :
    as.foldlM (fun bs a => if p a then some (bs ++ [f a]) else none) before
      = if ∀ a ∈ as, p a then some (before ++ as.map f) else none := by
  induction as generalizing before with
  | nil => simp
  | cons a as ih =>
      simp only [List.foldlM_cons, List.forall_mem_cons, List.map_cons]
      by_cases ha : p a
      · rw [if_pos ha]
        show as.foldlM _ (before ++ [f a]) = _
        simp only [ih, ha, true_and, List.append_assoc, List.singleton_append]
      · have hnot : ¬ (p a ∧ ∀ b ∈ as, p b) := fun h => ha h.1
        rw [if_neg ha, if_neg hnot]
        rfl

theorem readWritten_list (depth : Nat) (rest : List Char) :
    readWritten (depth + 1) ('[' :: rest)
      = (readItems (readWritten depth) (rest.length + 1) true [] rest).map
        fun p => (.list p.1, p.2) := readTree_list depth rest

theorem readWritten_tooDeep {c : Char} (opens : c = '[' ∨ c = '{') (rest : List Char) :
    ∃ e, readWritten 0 (c :: rest) = .error e := by
  rcases opens with rfl | rfl
  · rw [readWritten, readTree]
    exact ⟨_, rfl⟩
  · rw [readWritten, readTree]
    exact ⟨_, rfl⟩

theorem Written.text_ne_nil {v : Json} {s : List Char} (h : Written v s) : s ≠ [] := by
  obtain ⟨c, cs, rfl, -⟩ := h.exists_cons
  exact List.cons_ne_nil c cs

/-- The items of a list are read as the values that they write. -/
theorem gives_items {items : List Item} (written : ∀ i ∈ items, Written i.value i.text)
    {depth : Nat}
    (each : ∀ i ∈ items, ∀ rest, Stops rest →
      Gives (if i.value.depth ≤ depth then some i.value else none) rest
        (readWritten depth (i.text ++ rest))) (last : Gap) (rest : List Char) :
    Gives (if ∀ i ∈ items, i.value.depth ≤ depth then some (items.map (·.value)) else none) rest
      (readItems (readWritten depth)
        ((spaced id (·.text) last true items ++ ']' :: rest).length + 1) true []
        (spaced id (·.text) last true items ++ ']' :: rest)) := by
  have henough := length_lt_spaced id (·.text) (fun i hi => (written i hi).text_ne_nil) last true
    (']' :: rest)
  have hread := gives_readItems written each henough last true [] rest
  rw [mapM_ite] at hread
  simpa using hread

/-- A member is read behind the opening quote of its name. -/
theorem gives_enterMember {e : Entry} (written : Written e.value e.text) {depth : Nat}
    (each : ∀ rest, Stops rest →
      Gives (if e.value.depth ≤ depth then some e.value else none) rest
        (readWritten depth (e.text ++ rest)))
    (members : List (String × Json)) {rest : List Char} (stops : Stops rest) :
    Gives (if e.value.depth ≤ depth then some (members ++ [e.member]) else none) rest
      (enterMember (fun name value members => members ++ [(name, value)]) depth members
        (e.behindQuote ++ rest)) := by
  have hvalue := each rest stops
  obtain ⟨c, cs, htext, opens⟩ := written.exists_cons
  have hline : e.behindQuote ++ rest
      = e.name.body ++ '"' :: (e.beforeColon.chars
        ++ ':' :: (e.behindColon.chars ++ c :: (cs ++ rest))) := by
    simp [Entry.behindQuote, htext]
  have hread := readWritten_gap depth e.behindColon opens.not_end.1 (cs ++ rest)
  rw [htext, List.cons_append] at hvalue
  rw [hline]
  unfold enterMember readMember
  rw [readText_quoted]
  dsimp only
  rw [readColon_blanks e.beforeColon.blank]
  dsimp only
  rw [← readWritten, hread]
  by_cases hdepth : e.value.depth ≤ depth
  · rw [if_pos hdepth, gives_some] at hvalue
    rw [if_pos hdepth, hvalue]
    rfl
  · rw [if_neg hdepth, gives_none] at hvalue
    obtain ⟨p, hp⟩ := hvalue
    rw [if_neg hdepth, hp]
    exact ⟨p, rfl⟩

/-- A value is read from every text that writes it if it is not nested too deep, and refused if it
is. -/
theorem gives_readWritten {v : Json} {s : List Char} (h : Written v s) (depth : Nat)
    {rest : List Char} (stops : Stops rest) :
    Gives (if v.depth ≤ depth then some v else none) rest (readWritten depth (s ++ rest)) := by
  induction h generalizing depth rest with
  | null =>
      rw [readWritten, readTree]
      rfl
  | true =>
      rw [readWritten, readTree]
      rfl
  | false =>
      rw [readWritten, readTree]
      rfl
  | @number n s read =>
      obtain ⟨c, cs, rfl, opens⟩ := exists_of_readNumber read
      exact readTree_number depth opens (readNumber_append read stops)
  | text q =>
      have hread := readText_quoted q rest
      have htext : q.text ++ rest = '"' :: (q.body ++ '"' :: rest) := by simp [Quoted.text]
      rw [htext, readWritten, readTree, @skipSpace_of_opens '"' (.text q.value) rfl]
      simp [hread, Except.map, Json.depth, gives_some]
  | @list items last all ih =>
      have htext : '[' :: (spaced id (·.text) last true items ++ [']']) ++ rest
          = '[' :: (spaced id (·.text) last true items ++ ']' :: rest) := by simp
      rw [htext]
      cases depth with
      | zero => exact readWritten_tooDeep (Or.inl rfl) _
      | succ depth =>
          have hread := gives_items all (fun i hi rest stops => ih i hi depth stops) last rest
          have hdepth : (Json.list (items.map (·.value))).depth ≤ depth + 1
              ↔ ∀ i ∈ items, i.value.depth ≤ depth := by
            rw [depth_list_le, List.forall_mem_map]
          rw [readWritten_list]
          have hlist := hread.map Json.list
          rw [apply_ite (Option.map Json.list)] at hlist
          simp only [hdepth]
          exact hlist
  | @object entries last all ih =>
      have htext : '{' :: (spaced (·.toItem) (·.line) last true entries ++ ['}']) ++ rest
          = '{' :: (spaced (·.toItem) (·.line) last true entries ++ '}' :: rest) := by simp
      rw [htext]
      cases depth with
      | zero => exact readWritten_tooDeep (Or.inr rfl) _
      | succ depth =>
          have hmember := fun e he members rest (stops : Stops rest) =>
            gives_enterMember (all e he) (fun _ stops => ih e he depth stops) members stops
          have hline : ∀ e ∈ entries, e.line ≠ [] := fun e _ => List.cons_ne_nil _ _
          have henough := length_lt_spaced Entry.toItem Entry.line hline last true ('}' :: rest)
          have hread := gives_readEntries hmember henough last true [] rest
          have hdepth : (Json.object (entries.map (·.member))).depth ≤ depth + 1
              ↔ ∀ e ∈ entries, e.value.depth ≤ depth := by
            rw [depth_object_le, List.forall_mem_map]
            rfl
          rw [foldlM_ite (fun e : Entry => e.value.depth ≤ depth), List.nil_append] at hread
          rw [readWritten, readTree_object]
          simp only [hdepth]
          by_cases hall : ∀ e ∈ entries, e.value.depth ≤ depth
          · rw [if_pos hall, gives_some] at hread
            rw [if_pos hall, hread]
            rfl
          · rw [if_neg hall, gives_none] at hread
            obtain ⟨p, hp⟩ := hread
            rw [if_neg hall, hp]
            exact ⟨p, rfl⟩

/-! ## The compact text -/

/-- No blanks. -/
def noGap : Gap := ⟨[], blanks_nil⟩

theorem exists_quoted (s : String) :
    ∃ q : Quoted, q.value = s ∧ q.text = quote s ∧ q.body ++ ['"'] = unquoted s := by
  obtain ⟨pieces, written, stands⟩ := exists_pieces s
  exact ⟨⟨s, pieces, _, written, stands⟩, rfl, rfl, rfl⟩

/-- An item without blanks. -/
def compactItem (v : Json) : Item := ⟨noGap, noGap, v, v.print⟩

theorem spaced_compactItems (items : List Json) (first : Bool) :
    spaced id (·.text) noGap first (items.map compactItem) = comingItems first items := by
  induction items generalizing first with
  | nil => rfl
  | cons v vs ih =>
      rw [List.map_cons, spaced, ih]
      rfl

theorem exists_compactEntries {members : List (String × Json)}
    (written : ∀ m ∈ members, Written m.2 m.2.print) (first : Bool) :
    ∃ entries : List Entry, entries.map (·.member) = members
      ∧ (∀ e ∈ entries, Written e.value e.text)
      ∧ spaced (·.toItem) (·.line) noGap first entries = comingMembers first members := by
  induction members generalizing first with
  | nil => exact ⟨[], rfl, by simp, rfl⟩
  | cons m ms ih =>
      obtain ⟨k, v⟩ := m
      obtain ⟨entries, hmembers, hwritten, htext⟩ := ih (fun n hn => written n (by simp [hn])) false
      obtain ⟨q, rfl, -, hbody⟩ := exists_quoted k
      refine ⟨⟨⟨noGap, noGap, v, v.print⟩, q, noGap, noGap⟩ :: entries, ?_, ?_, ?_⟩
      · rw [List.map_cons, hmembers]
        rfl
      · rw [List.forall_mem_cons]
        exact ⟨written (q.value, v) (by simp), hwritten⟩
      · rw [spaced, htext, comingMembers, ← hbody]
        simp [Entry.line, Entry.behindQuote, noGap]

/-- The compact text of a value writes it. -/
theorem Plain.written {depth : Nat} {v : Json} (h : Plain depth v) : Written v v.print := by
  induction h with
  | null => exact .null
  | boolean b =>
      cases b with
      | true => exact .true
      | false => exact .false
  | integer low high =>
      have hread := readNumber_integerText low high ends_nil
      rw [List.append_nil] at hread
      exact .number hread
  | text s =>
      obtain ⟨q, rfl, htext, -⟩ := exists_quoted s
      show Written (.text q.value) (quote q.value)
      rw [← htext]
      exact .text q
  | @list depth items all ih =>
      have hvalues : (items.map compactItem).map (·.value) = items := by
        rw [List.map_map]
        exact List.map_id items
      have hall : ∀ i ∈ items.map compactItem, Written i.value i.text := List.forall_mem_map.2 ih
      have hlist := Written.list noGap hall
      rwa [spaced_compactItems, ← printItems_eq, hvalues] at hlist
  | @object depth members sorted all ih =>
      obtain ⟨entries, hmembers, hwritten, htext⟩ := exists_compactEntries ih true
      have hobject := Written.object noGap hwritten
      rwa [hmembers, htext, ← printMembers_eq] at hobject

theorem Plain.depth_le {depth : Nat} {v : Json} (h : Plain depth v) : v.depth ≤ depth := by
  induction h with
  | list all ih => exact depth_list_le.2 ih
  | object sorted all ih => exact depth_object_le.2 ih
  | _ => exact Nat.zero_le _

end Json

end SurfaceBridge
