import SurfaceBridge.Proofs.Json.Quoting

set_option autoImplicit false

/-! # Values that are read back

`Plain depth v` says that a value is written exactly and not too deep to be read. Reading the text
of such a value, with something behind it that can stand behind a value, gives the value back and
leaves what stands behind it (`readTree_print`).

Lists and objects are read item by item by readers that are also used for other types than
values, so `readItems_coming` and `readMembers_coming` are about any reader of items: what it
`Yields` for each item decides what is read.
-/

namespace SurfaceBridge

namespace Json

/-- A value without doubles, of which the integers fit 64 bits and the members of objects are in
order. Its lists and objects are nested to at most the given depth. -/
inductive Plain : Nat → Json → Prop where
  | null {depth : Nat} : Plain depth .null
  | boolean {depth : Nat} (b : Bool) : Plain depth (.boolean b)
  | integer {depth : Nat} {n : Int} (low : leastInteger ≤ n) (high : n < integerLimit) :
      Plain depth (.number (.integer n))
  | text {depth : Nat} (s : String) : Plain depth (.text s)
  | list {depth : Nat} {items : List Json} (all : ∀ v ∈ items, Plain depth v) :
      Plain (depth + 1) (.list items)
  | object {depth : Nat} {members : List (String × Json)} (sorted : Dictionary.Sorted members)
      (all : ∀ m ∈ members, Plain depth m.2) : Plain (depth + 1) (.object members)

/-- Pairs with plain values make a plain object. -/
theorem plain_ofList {depth : Nat} {pairs : List (String × Json)}
    (plain : ∀ m ∈ pairs, Plain depth m.2) :
    Plain (depth + 1) (.object (Dictionary.ofList pairs)) := by
  have key : ∀ (pairs before : List (String × Json)), (∀ m ∈ pairs, Plain depth m.2) →
      Dictionary.Sorted before → (∀ m ∈ before, Plain depth m.2) →
      Plain (depth + 1)
        (.object (pairs.foldl (fun entries p => Dictionary.insert p.1 p.2 entries) before)) := by
    intro pairs
    induction pairs with
    | nil => exact fun before _ sorted plain => .object sorted plain
    | cons m ms ih =>
        intro before hms sorted hbefore
        refine ih _ (fun d hd => hms d (by simp [hd])) (Dictionary.sorted_insert _ _ sorted) ?_
        intro d hd
        rcases Dictionary.mem_insert hd with rfl | hd
        · exact hms m (by simp)
        · exact hbefore d hd
  exact key pairs [] plain List.Pairwise.nil (by simp)

theorem plain_pair {depth : Nat} {a b : String} {v w : Json} (h : a < b)
    (plainV : Plain depth v) (plainW : Plain depth w) :
    Plain (depth + 1) (.object [(a, v), (b, w)]) := by
  refine .object ?_ ?_
  · simpa [Dictionary.Sorted] using h
  · intro m hm
    simp only [List.mem_cons, List.not_mem_nil, or_false] at hm
    rcases hm with rfl | rfl
    · exact plainV
    · exact plainW

/-! ## The first character -/

/-- The characters with which the text of a value starts. -/
def Opens (c : Char) : Json → Prop
  | .null => c = 'n'
  | .boolean b => c = if b then 't' else 'f'
  | .number _ => c = '-' ∨ c.isDigit = true
  | .text _ => c = '"'
  | .list _ => c = '['
  | .object _ => c = '{'

theorem Plain.exists_print {depth : Nat} {v : Json} (h : Plain depth v) :
    ∃ c cs, v.print = c :: cs ∧ Opens c v := by
  cases h with
  | null => exact ⟨_, _, rfl, rfl⟩
  | boolean b => cases b <;> exact ⟨_, _, rfl, rfl⟩
  | integer low high => exact exists_integerText _
  | text s => exact ⟨_, _, rfl, rfl⟩
  | list all => exact ⟨_, _, rfl, rfl⟩
  | object sorted all => exact ⟨_, _, rfl, rfl⟩

/-- A value starts with no blank and with nothing that ends an item, a list or an object. -/
theorem Opens.not_end {c : Char} {v : Json} (h : Opens c v) :
    isSpace c = false ∧ c ≠ ',' ∧ c ≠ ']' ∧ c ≠ '}' := by
  have hdigit : c.isDigit = true → isSpace c = false ∧ c ≠ ',' ∧ c ≠ ']' ∧ c ≠ '}' := by
    intro hc
    refine ⟨?_, ?_, ?_, ?_⟩
    · by_contra hs
      simp only [isSpace, Bool.not_eq_false, Bool.or_eq_true, decide_eq_true_eq] at hs
      rcases hs with ((rfl | rfl) | rfl) | rfl <;> exact absurd hc (by decide)
    all_goals
      rintro rfl
      exact absurd hc (by decide)
  cases v with
  | boolean b =>
      cases b <;>
        · cases h
          decide
  | number n =>
      rcases h with rfl | hc
      · decide
      · exact hdigit hc
  | _ =>
      cases h
      decide

/-- Which kind of value it is shows in its first character. -/
theorem Opens.exists_text {v : Json} (h : Opens '"' v) : ∃ s, v = .text s := by
  cases v with
  | text s => exact ⟨s, rfl⟩
  | boolean b => cases b <;> simp [Opens] at h
  | _ => simp [Opens] at h

theorem Opens.exists_list {v : Json} (h : Opens '[' v) : ∃ items, v = .list items := by
  cases v with
  | list items => exact ⟨items, rfl⟩
  | boolean b => cases b <;> simp [Opens] at h
  | _ => simp [Opens] at h

theorem Opens.exists_object {v : Json} (h : Opens '{' v) : ∃ members, v = .object members := by
  cases v with
  | object members => exact ⟨members, rfl⟩
  | boolean b => cases b <;> simp [Opens] at h
  | _ => simp [Opens] at h

theorem skipSpace_of_opens {c : Char} {v : Json} (h : Opens c v) (rest : List Char) :
    skipSpace (c :: rest) = c :: rest := by
  simp [skipSpace, h.not_end.1]

/-! ## Items and members that are still to come -/

/-- What stands in front of an item: nothing in front of the first one, else a comma. -/
def lead (first : Bool) : List Char := if first then [] else [',']

/-- The text of the items of a list that are still to come. -/
def comingItems : Bool → List Json → List Char
  | _, [] => []
  | first, v :: vs => lead first ++ (v.print ++ comingItems false vs)

/-- The text of the members of an object that are still to come. -/
def comingMembers : Bool → List (String × Json) → List Char
  | _, [] => []
  | first, (k, v) :: ms =>
    lead first ++ '"' :: (unquoted k ++ ':' :: (v.print ++ comingMembers false ms))

theorem printItems_eq (vs : List Json) : printItems vs = comingItems true vs := by
  induction vs with
  | nil => rfl
  | cons v vs ih =>
      cases vs with
      | nil => simp [printItems, comingItems, lead]
      | cons w ws =>
          rw [printItems, ih]
          · rfl
          · simp

theorem printMembers_eq (ms : List (String × Json)) : printMembers ms = comingMembers true ms := by
  induction ms with
  | nil => rfl
  | cons m ms ih =>
      obtain ⟨k, v⟩ := m
      cases ms with
      | nil => simp [printMembers, comingMembers, lead, quote_eq]
      | cons n ns =>
          rw [printMembers, ih]
          · simp [comingMembers, lead, quote_eq]
          · simp

theorem print_list_append (items : List Json) (rest : List Char) :
    (Json.list items).print ++ rest = '[' :: (comingItems true items ++ ']' :: rest) := by
  simp [print, printItems_eq]

theorem print_object_append (members : List (String × Json)) (rest : List Char) :
    (Json.object members).print ++ rest = '{' :: (comingMembers true members ++ '}' :: rest) := by
  simp [print, printMembers_eq]

theorem comingItems_cons_append (first : Bool) (v : Json) (vs : List Json) (rest : List Char) :
    comingItems first (v :: vs) ++ rest
      = lead first ++ (v.print ++ (comingItems false vs ++ rest)) := by
  simp [comingItems]

theorem comingMembers_cons_append (first : Bool) (k : String) (v : Json)
    (ms : List (String × Json)) (rest : List Char) :
    comingMembers first ((k, v) :: ms) ++ rest
      = lead first ++ '"' :: (unquoted k
        ++ ':' :: (v.print ++ (comingMembers false ms ++ rest))) := by
  simp [comingMembers]

theorem ends_comingItems (vs : List Json) (rest : List Char) :
    Ends (comingItems false vs ++ ']' :: rest) := by
  cases vs with
  | nil => exact ends_cons rest (by simp)
  | cons v vs => exact ends_cons _ (by simp)

theorem ends_comingMembers (ms : List (String × Json)) (rest : List Char) :
    Ends (comingMembers false ms ++ '}' :: rest) := by
  cases ms with
  | nil => exact ends_cons rest (by simp)
  | cons m ms => exact ends_cons _ (by simp)

/-- Every item takes at least one character, so the length of the text is fuel enough. -/
theorem length_lt_comingItems {depth : Nat} {vs : List Json} (plain : ∀ v ∈ vs, Plain depth v)
    (first : Bool) (rest : List Char) :
    vs.length < (comingItems first vs ++ rest).length + 1 := by
  induction vs generalizing first with
  | nil => simp
  | cons v vs ih =>
      obtain ⟨c, cs, hv, -⟩ := (plain v (by simp)).exists_print
      have hvs := ih (fun w hw => plain w (by simp [hw])) false
      rw [comingItems_cons_append, hv]
      simp only [List.length_append, List.length_cons] at hvs ⊢
      omega

theorem length_lt_comingMembers (ms : List (String × Json)) (first : Bool) (rest : List Char) :
    ms.length < (comingMembers first ms ++ rest).length + 1 := by
  induction ms generalizing first with
  | nil => simp
  | cons m ms ih =>
      have hms := ih false
      rw [comingMembers_cons_append]
      simp only [List.length_append, List.length_cons] at hms ⊢
      omega

theorem nextItem_end (first : Bool) (rest : List Char) :
    nextItem first (']' :: rest) = .ok (false, ']' :: rest) := by
  cases first <;> rfl

theorem nextItem_lead {depth : Nat} {v : Json} (h : Plain depth v) (first : Bool)
    (rest : List Char) :
    nextItem first (lead first ++ (v.print ++ rest)) = .ok (true, v.print ++ rest) := by
  obtain ⟨c, cs, hv, hc⟩ := h.exists_print
  obtain ⟨-, hcomma, hlist, -⟩ := hc.not_end
  have hskip := skipSpace_of_opens hc (cs ++ rest)
  rw [hv]
  cases first with
  | true => simp [nextItem, lead, hskip, hlist]
  | false =>
      have hspace : skipSpace (',' :: c :: (cs ++ rest)) = ',' :: c :: (cs ++ rest) := rfl
      simp [nextItem, lead, hspace, hskip, hlist]

theorem nextMember_end (first : Bool) (rest : List Char) :
    nextMember first ('}' :: rest) = .ok (false, '}' :: rest) := by
  cases first <;> rfl

theorem nextMember_lead (first : Bool) (rest : List Char) :
    nextMember first (lead first ++ '"' :: rest) = .ok (true, rest) := by
  cases first <;> rfl

/-! ## What readers yield -/

/-- A reading comes to an outcome: it gives the value and leaves the rest, or it fails. -/
def Yields {ε α : Type} (outcome : Except ε α) (rest : List Char) (reading : Reading α) : Prop :=
  match outcome with
  | .ok a => reading = .ok (a, rest)
  | .error _ => ∃ e, reading = .error e

theorem yields_ok {ε α : Type} {a : α} {rest : List Char} {reading : Reading α} :
    Yields (Except.ok a : Except ε α) rest reading ↔ reading = .ok (a, rest) := Iff.rfl

theorem yields_error {ε α : Type} {m : ε} {rest : List Char} {reading : Reading α} :
    Yields (Except.error m : Except ε α) rest reading ↔ ∃ e, reading = .error e := Iff.rfl

theorem Yields.map {ε α β : Type} {outcome : Except ε α} {rest : List Char} {reading : Reading α}
    (h : Yields outcome rest reading) (f : α → β) :
    Yields (outcome.map f) rest (reading.map fun p => (f p.1, p.2)) := by
  cases outcome with
  | ok a =>
      cases h
      rfl
  | error m =>
      obtain ⟨e, rfl⟩ := h
      exact ⟨e, rfl⟩

section

variable {ε α σ : Type}

/-- A list is read if its items are. -/
theorem readItems_coming {depth : Nat} {item : List Char → Reading α} {take : Json → Except ε α}
    {vs : List Json} (plain : ∀ v ∈ vs, Plain depth v)
    (each : ∀ v ∈ vs, ∀ rest, Ends rest → Yields (take v) rest (item (v.print ++ rest)))
    {fuel : Nat} (enough : vs.length < fuel) (first : Bool) (acc : List α) (rest : List Char) :
    Yields ((vs.mapM take).map (acc.reverse ++ ·)) rest
      (readItems item fuel first acc (comingItems first vs ++ ']' :: rest)) := by
  induction vs generalizing fuel first acc with
  | nil =>
      obtain ⟨fuel, rfl⟩ := Nat.exists_eq_succ_of_ne_zero (Nat.ne_zero_of_lt enough)
      show readItems item (fuel + 1) first acc (']' :: rest) = _
      rw [readItems, nextItem_end]
      simp
  | cons v vs ih =>
      obtain ⟨fuel, rfl⟩ := Nat.exists_eq_succ_of_ne_zero (Nat.ne_zero_of_lt enough)
      have hitem := each v (by simp) _ (ends_comingItems vs rest)
      rw [comingItems_cons_append, readItems, nextItem_lead (plain v (by simp)), List.mapM_cons]
      dsimp only
      cases ht : take v with
      | error m =>
          rw [ht, yields_error] at hitem
          obtain ⟨e, he⟩ := hitem
          rw [he]
          exact ⟨e, rfl⟩
      | ok a =>
          rw [ht, yields_ok] at hitem
          have hrest := ih (fun w hw => plain w (by simp [hw])) (fun w hw => each w (by simp [hw]))
            (by simpa using enough) false (a :: acc)
          rw [hitem]
          cases hm : vs.mapM take with
          | error m =>
              rw [hm] at hrest
              exact hrest
          | ok as =>
              rw [hm] at hrest
              simpa [Yields, Except.map, bind, Except.bind, pure, Except.pure] using hrest

/-- An object is read if its members are. -/
theorem readMembers_coming {member : σ → List Char → Reading σ}
    {take : σ → String × Json → Except ε σ} {ms : List (String × Json)}
    (each : ∀ m ∈ ms, ∀ state rest, Ends rest →
      Yields (take state m) rest (member state (unquoted m.1 ++ ':' :: (m.2.print ++ rest))))
    {fuel : Nat} (enough : ms.length < fuel) (first : Bool) (state : σ) (rest : List Char) :
    Yields (ms.foldlM take state) ('}' :: rest)
      (readMembers member fuel first state (comingMembers first ms ++ '}' :: rest)) := by
  induction ms generalizing fuel first state with
  | nil =>
      obtain ⟨fuel, rfl⟩ := Nat.exists_eq_succ_of_ne_zero (Nat.ne_zero_of_lt enough)
      show readMembers member (fuel + 1) first state ('}' :: rest) = _
      rw [readMembers, nextMember_end]
  | cons m ms ih =>
      obtain ⟨k, v⟩ := m
      obtain ⟨fuel, rfl⟩ := Nat.exists_eq_succ_of_ne_zero (Nat.ne_zero_of_lt enough)
      have hmember := each (k, v) (by simp) state _ (ends_comingMembers ms rest)
      rw [comingMembers_cons_append, readMembers, nextMember_lead, List.foldlM_cons]
      dsimp only
      cases ht : take state (k, v) with
      | error m =>
          rw [ht, yields_error] at hmember
          obtain ⟨e, he⟩ := hmember
          rw [he]
          exact ⟨e, rfl⟩
      | ok after =>
          rw [ht, yields_ok] at hmember
          rw [hmember]
          exact ih (fun w hw => each w (by simp [hw])) (by simpa using enough) false after

end

/-! ## Reading values -/

theorem readColon_colon (rest : List Char) : readColon (':' :: rest) = .ok rest := rfl

/-- Ways to enter members that keep names that come in order in this order. -/
def InOrder (enter : String → Json → List (String × Json) → List (String × Json)) : Prop :=
  ∀ name value members, (∀ m ∈ members, m.1 < name) →
    enter name value members = members ++ [(name, value)]

theorem inOrder_insert : InOrder Dictionary.insert := by
  intro name value members below
  induction members with
  | nil => rfl
  | cons m ms ih =>
      obtain ⟨k, v⟩ := m
      have hlt : k < name := below (k, v) (by simp)
      have hne : name ≠ k := fun h => absurd (h ▸ hlt) (String.lt_irrefl k)
      have hnot : ¬ name < k := String.lt_asymm hlt
      have hms := ih fun m hm => below m (by simp [hm])
      simp [Dictionary.insert, hne, hnot, hms]

theorem inOrder_append :
    InOrder fun name value members => members ++ [(name, value)] :=
  fun _ _ _ _ => rfl

theorem foldlM_enter {enter : String → Json → List (String × Json) → List (String × Json)}
    (ordered : InOrder enter) {before ms : List (String × Json)}
    (sorted : Dictionary.Sorted (before ++ ms)) :
    ms.foldlM (fun members m => Except.ok (enter m.1 m.2 members)) before
      = (Except.ok (before ++ ms) : Except Mismatch _) := by
  induction ms generalizing before with
  | nil => simp [pure, Except.pure]
  | cons m ms ih =>
      have hbelow : ∀ d ∈ before, d.1 < m.1 := fun d hd =>
        (List.pairwise_append.1 sorted).2.2 d hd m (by simp)
      have henter : enter m.1 m.2 before = before ++ [m] := ordered _ _ _ hbelow
      have hms := @ih (before ++ [m]) (by simpa using sorted)
      rw [List.foldlM_cons, henter]
      simpa [bind, Except.bind] using hms

section

variable {enter : String → Json → List (String × Json) → List (String × Json)}

theorem readTree_list (depth : Nat) (rest : List Char) :
    readTree enter (depth + 1) ('[' :: rest)
      = (readItems (readTree enter depth) (rest.length + 1) true [] rest).map
        fun p => (.list p.1, p.2) := by
  rw [readTree]
  rfl

/-- Reads a member behind the opening quote of its name and enters it. -/
def enterMember (enter : String → Json → List (String × Json) → List (String × Json))
    (depth : Nat) (members : List (String × Json)) (s : List Char) :
    Reading (List (String × Json)) :=
  (readMember (readTree enter depth) s).map fun p => (enter p.1.1 p.1.2 members, p.2)

theorem readTree_object (depth : Nat) (rest : List Char) :
    readTree enter (depth + 1) ('{' :: rest)
      = match readMembers (enterMember enter depth) (rest.length + 1) true [] rest with
        | .error e => .error e
        | .ok (members, r) => .ok (.object members, r.tail) := by
  rw [readTree]
  rfl

theorem readTree_number (depth : Nat) {c : Char} {cs rest : List Char} {n : Number}
    (sign : c = '-' ∨ c.isDigit = true) (read : readNumber (c :: cs) = .ok (n, rest)) :
    readTree enter depth (c :: cs) = .ok (.number n, rest) := by
  have hopens : Opens c (.number n) := sign
  -- neither a sign nor a digit starts one of the words
  have hword : c ≠ 'n' ∧ c ≠ 't' ∧ c ≠ 'f' := by
    refine ⟨?_, ?_, ?_⟩ <;>
      · rintro rfl
        rcases sign with hc | hc <;> exact absurd hc (by decide)
  rw [readTree, skipSpace_of_opens hopens]
  dsimp only
  rw [if_neg hword.1, if_neg hword.2.1, if_neg hword.2.2, if_pos sign, read]
  rfl

theorem readTree_integer (depth : Nat) {n : Int} {rest : List Char} (low : leastInteger ≤ n)
    (high : n < integerLimit) (ends : Ends rest) :
    readTree enter depth (integerText n ++ rest) = .ok (.number (.integer n), rest) := by
  obtain ⟨c, cs, hn, hc⟩ := exists_integerText n
  have hread := readNumber_integerText low high ends
  rw [hn, List.cons_append] at hread ⊢
  exact readTree_number depth hc hread

/-- A value is read back from its text. -/
theorem readTree_print (ordered : InOrder enter) {depth : Nat} {v : Json} (h : Plain depth v)
    {rest : List Char} (ends : Ends rest) :
    readTree enter depth (v.print ++ rest) = .ok (v, rest) := by
  induction h generalizing rest with
  | null => rw [readTree]; rfl
  | boolean b => cases b <;> (rw [readTree]; rfl)
  | integer low high => exact readTree_integer _ low high ends
  | text s =>
      have htext : (Json.text s).print ++ rest = '"' :: (unquoted s ++ rest) := rfl
      have hread := readText_unquoted s rest
      rw [htext, readTree, @skipSpace_of_opens '"' (.text s) rfl]
      simp [hread, Except.map]
  | @list depth items all ih =>
      have heach : ∀ v ∈ items, ∀ rest, Ends rest →
          Yields (Except.ok v : Except Mismatch Json) rest
            (readTree enter depth (v.print ++ rest)) :=
        fun v hv rest ends => ih v hv ends
      have henough := length_lt_comingItems all true (']' :: rest)
      have hread := readItems_coming all heach henough true [] rest
      have hitems : (items.mapM fun v => (Except.ok v : Except Mismatch Json)) = .ok items := by
        simpa [pure, Except.pure] using
          List.mapM_pure (m := Except Mismatch) (l := items) (f := fun v => v)
      rw [hitems] at hread
      rw [print_list_append, readTree_list, yields_ok.1 hread]
      rfl
  | @object depth members sorted all ih =>
      have heach : ∀ m ∈ members, ∀ state rest, Ends rest →
          Yields (Except.ok (enter m.1 m.2 state) : Except Mismatch _) rest
            (enterMember enter depth state (unquoted m.1 ++ ':' :: (m.2.print ++ rest))) := by
        intro m hm state rest ends
        simp only [enterMember, readMember, readText_unquoted, readColon_colon, ih m hm ends]
        rfl
      have henough := length_lt_comingMembers members true ('}' :: rest)
      have hread := readMembers_coming heach henough true [] rest
      have hmembers : members.foldlM
          (fun state m => (Except.ok (enter m.1 m.2 state) : Except Mismatch _)) []
            = .ok members := foldlM_enter ordered sorted
      rw [hmembers] at hread
      rw [print_object_append, readTree_object, yields_ok.1 hread]
      rfl

end

theorem read_render {v : Json} (h : Plain depthLimit v) : read v.render = .ok v := by
  have htree : readValue depthLimit v.print = .ok (v, []) := by
    have hread := readTree_print inOrder_insert h ends_nil
    rwa [List.append_nil] at hread
  rw [read, readAll, render, String.toList_ofList, htree]
  rfl

end Json

end SurfaceBridge
