import SurfaceBridge.Json.Decoder
import SurfaceBridge.Proofs.Json.Skipping

set_option autoImplicit false

/-! # The two sides of a decoder

A decoder `Agrees` if reading the text of a value comes to the same as taking the value apart: both
give the same result, or both fail. The problem that is reported may be another one, because a
text is refused at the first problem from the left and a value is not. Agreement is proved for
the ways in which decoders are put together, so it holds of every decoder that is made of them.
-/

namespace SurfaceBridge

namespace Json

/-- Both sides of a decoder come to the same on every plain value. -/
def Decoder.Agrees {α : Type} (d : Decoder α) : Prop :=
  ∀ {depth : Nat} {v : Json}, Plain depth v → ∀ {rest : List Char}, Ends rest →
    Yields (d.fromValue v) rest (d.fromText depth (v.print ++ rest))

/-! ## Parts of decoders -/

theorem exists_refuse {α : Type} (mismatch : Mismatch) (rest : List Char) :
    ∃ e, (refuse mismatch rest : Except ReadError α) = .error e := ⟨_, rfl⟩

theorem exists_refuseKind {α : Type} (expected : String) (s : List Char) :
    ∃ e, (refuseKind expected s : Except ReadError α) = .error e := by
  unfold refuseKind
  cases s with
  | nil => exact ⟨_, rfl⟩
  | cons c rest =>
      dsimp only
      split
      · exact ⟨_, rfl⟩
      · split
        · exact ⟨_, rfl⟩
        · cases readTree (fun _ _ members => members) 0 (c :: rest) with
          | error e => exact ⟨e, rfl⟩
          | ok p => exact ⟨_, rfl⟩

theorem atValue_opens {α : Type} {c : Char} {v : Json} (h : Opens c v)
    (reader : Char → List Char → Reading α) (rest : List Char) :
    atValue reader (c :: rest) = reader c rest := by
  rw [atValue, skipSpace_of_opens h]

theorem yields_settle {α : Type} (outcome : Except Mismatch α) (rest : List Char) :
    Yields outcome rest (settle outcome rest) := by
  cases outcome with
  | ok a => rfl
  | error m => exact exists_refuse m rest

namespace Decoder

variable {α : Type}

theorem agrees_text : text.Agrees := by
  intro depth v h rest ends
  by_cases htext : ∃ s, v = .text s
  · obtain ⟨s, rfl⟩ := htext
    exact readText_unquoted s rest
  · obtain ⟨c, cs, hv, hc⟩ := h.exists_print
    have hquote : c ≠ '"' := by
      rintro rfl
      exact htext hc.exists_text
    have hvalue : ∃ m, text.fromValue v = .error m := by
      cases v with
      | text s => exact absurd ⟨s, rfl⟩ htext
      | _ => exact ⟨_, rfl⟩
    obtain ⟨m, hm⟩ := hvalue
    rw [hm, yields_error, hv, List.cons_append]
    show ∃ e, atValue _ (c :: (cs ++ rest)) = .error e
    rw [atValue_opens hc, if_neg hquote]
    exact exists_refuseKind _ _

theorem agrees_judged (judge : Json → Except Mismatch α) : (judged judge).Agrees := by
  intro depth v hv rest ends
  have hread : readWritten depth (v.print ++ rest) = .ok (v, rest) :=
    readTree_print inOrder_append hv ends
  simp only [judged, hread]
  exact yields_settle (judge v) rest

theorem mapM_fromValue (d : Decoder α) (items : List Json) :
    items.mapM d.fromValue = listFromValues d items := by
  induction items with
  | nil => rfl
  | cons v vs ih =>
      rw [List.mapM_cons, ih, listFromValues]
      cases d.fromValue v with
      | error m => rfl
      | ok a => cases listFromValues d vs <;> rfl

theorem agrees_list {d : Decoder α} (h : d.Agrees) : (list d).Agrees := by
  intro depth v hv rest ends
  by_cases hlist : ∃ items, v = .list items
  · obtain ⟨items, rfl⟩ := hlist
    cases hv with
    | @list depth items all =>
        have heach : ∀ v ∈ items, ∀ rest, Ends rest →
            Yields (d.fromValue v) rest (d.fromText depth (v.print ++ rest)) :=
          fun v hv rest ends => h (all v hv) ends
        have henough := length_lt_comingItems all true (']' :: rest)
        have hread := readItems_coming all heach henough true [] rest
        have hvalue : (items.mapM d.fromValue).map (([] : List α).reverse ++ ·)
            = (list d).fromValue (.list items) := by
          rw [mapM_fromValue]
          show _ = listFromValues d items
          cases listFromValues d items <;> rfl
        rw [hvalue] at hread
        rw [print_list_append]
        exact hread
  · obtain ⟨c, cs, htext, hc⟩ := hv.exists_print
    have hbracket : c ≠ '[' := by
      rintro rfl
      exact hlist hc.exists_list
    have hvalue : ∃ m, (list d).fromValue v = .error m := by
      cases v with
      | list items => exact absurd ⟨items, rfl⟩ hlist
      | _ => exact ⟨_, rfl⟩
    obtain ⟨m, hm⟩ := hvalue
    rw [hm, yields_error, htext, List.cons_append]
    show ∃ e, atValue _ (c :: (cs ++ rest)) = .error e
    rw [atValue_opens hc, if_neg hbracket]
    exact exists_refuseKind _ _

end Decoder

/-! ## Records -/

section

variable {σ α : Type}

/-- Both sides of a field come to the same on every plain value. -/
def Field.Agrees (f : Field σ) : Prop :=
  ∀ (state : σ) {depth : Nat} {v : Json}, Plain depth v → ∀ {rest : List Char}, Ends rest →
    Yields (f.fromValue state v) rest (f.fromText state depth (v.print ++ rest))

theorem Field.agrees_ofDecoder {d : Decoder α} (h : d.Agrees) (names : List String)
    (isOptional : Bool) (get : σ → Option α) (put : α → σ → σ) :
    (Field.ofDecoder names isOptional d get put).Agrees :=
  fun state _ _ hv _ ends => (h hv ends).map fun a => put a state

/-- The end of a list stands behind its last item and nowhere else. -/
theorem yields_readListEnd {depth : Nat} {items : List Json} (plain : ∀ v ∈ items, Plain depth v)
    (first : Bool) (rest : List Char) :
    (items = [] → readListEnd (comingItems first items ++ ']' :: rest) = .ok rest)
      ∧ (items ≠ [] → ∃ e, readListEnd (comingItems first items ++ ']' :: rest) = .error e) := by
  cases items with
  | nil => exact ⟨fun _ => rfl, fun h => absurd rfl h⟩
  | cons v vs =>
      refine ⟨fun h => absurd h (by simp), fun _ => ?_⟩
      obtain ⟨c, cs, hv, hc⟩ := (plain v (by simp)).exists_print
      obtain ⟨-, hcomma, hlist, -⟩ := hc.not_end
      rw [comingItems_cons_append, hv, List.cons_append]
      cases first with
      | true =>
          show ∃ e, readListEnd (c :: (cs ++ (comingItems false vs ++ ']' :: rest))) = .error e
          rw [readListEnd, skipSpace_of_opens hc]
          dsimp only
          rw [if_neg hlist, if_neg hcomma]
          exact ⟨_, rfl⟩
      | false =>
          show ∃ e, readListEnd (',' :: c :: (cs ++ (comingItems false vs ++ ']' :: rest)))
            = .error e
          have hspace : ∀ s, skipSpace (',' :: s) = ',' :: s := fun _ => rfl
          rw [readListEnd, hspace]
          dsimp only
          rw [if_neg (by decide), if_pos rfl, skipSpace_of_opens hc]
          split
          · exact ⟨_, rfl⟩
          · exact ⟨_, rfl⟩

namespace Schema

variable (schema : Schema σ α)

/-- A list of fields is read as it is taken apart, up to the items beyond the last field. -/
theorem yields_readFields {depth : Nat} {fs : List (Field σ)} (agrees : ∀ f ∈ fs, f.Agrees)
    {items : List Json} (plain : ∀ v ∈ items, Plain depth v) (first : Bool) (i j : Nat) (state : σ)
    (rest : List Char) :
    ∃ first', Yields (schema.takeFields fs j (items.take fs.length) state)
      (comingItems first' (items.drop fs.length) ++ ']' :: rest)
      (schema.readFields depth fs i first state (comingItems first items ++ ']' :: rest)) := by
  induction fs generalizing items first i j state with
  | nil => exact ⟨first, rfl⟩
  | cons f fs ih =>
      have hfs : ∀ g ∈ fs, g.Agrees := fun g hg => agrees g (by simp [hg])
      cases items with
      | nil =>
          have hread : schema.readFields depth (f :: fs) i first state
              (comingItems first [] ++ ']' :: rest)
                = if f.isOptional then
                    schema.readFields depth fs (i + 1) first state (']' :: rest)
                  else refuse (.wrongLength i schema.expectedLength) (']' :: rest) := by
            show schema.readFields depth (f :: fs) i first state (']' :: rest) = _
            rw [readFields, nextItem_end]
          have htake : schema.takeFields (f :: fs) j ([] : List Json) state
              = if f.isOptional then schema.takeFields fs j [] state
                else .error (.wrongLength j schema.expectedLength) := by
            rw [takeFields]
          rw [hread, List.take_nil, List.drop_nil, htake]
          by_cases hopt : f.isOptional = true
          · rw [if_pos hopt, if_pos hopt]
            have hrest := ih hfs plain first (i + 1) j state
            rwa [List.take_nil, List.drop_nil] at hrest
          · rw [if_neg hopt, if_neg hopt]
            exact ⟨first, exists_refuse _ _⟩
      | cons v vs =>
          have hv := plain v (by simp)
          have hvs : ∀ w ∈ vs, Plain depth w := fun w hw => plain w (by simp [hw])
          have hfield := agrees f (by simp) state hv (ends_comingItems vs rest)
          rw [comingItems_cons_append, readFields, nextItem_lead hv, List.length_cons,
            List.take_succ_cons, List.drop_succ_cons, takeFields]
          dsimp only
          cases ht : f.fromValue state v with
          | error m =>
              rw [ht, yields_error] at hfield
              obtain ⟨e, he⟩ := hfield
              rw [he]
              exact ⟨first, e, rfl⟩
          | ok after =>
              rw [ht, yields_ok] at hfield
              rw [hfield]
              exact ih hfs hvs false (i + 1) (j + 1) after

/-- Takes one member of an object into a record. -/
def takeMember (state : σ) (m : String × Json) : Except Mismatch σ :=
  match schema.fields.find? fun f => f.names.contains m.1 with
  | none => .ok state
  | some f =>
    if f.isSet state then .error (.duplicateField f.name)
    else f.fromValue state m.2

theorem takeMembers_eq (ms : List (String × Json)) (state : σ) :
    schema.takeMembers ms state = ms.foldlM schema.takeMember state := by
  induction ms generalizing state with
  | nil => rfl
  | cons m ms ih =>
      obtain ⟨k, v⟩ := m
      rw [List.foldlM_cons, takeMembers, takeMember]
      dsimp only
      cases schema.fields.find? fun f => f.names.contains k with
      | none => exact ih state
      | some f =>
          dsimp only
          by_cases hset : f.isSet state = true
          · rw [if_pos hset, if_pos hset]
            rfl
          · rw [if_neg hset, if_neg hset]
            cases f.fromValue state v with
            | error m => rfl
            | ok after => exact ih after

theorem yields_readMember (agrees : ∀ f ∈ schema.fields, f.Agrees) {depth : Nat} {v : Json}
    (hv : Plain depth v) (k : String) (state : σ) {rest : List Char} (ends : Ends rest) :
    Yields (schema.takeMember state (k, v)) rest
      (schema.readMember depth state (unquoted k ++ ':' :: (v.print ++ rest))) := by
  rw [takeMember, readMember, readText_unquoted]
  dsimp only
  cases hfind : schema.fields.find? fun f => f.names.contains k with
  | none =>
      dsimp only
      rw [readColon_colon]
      dsimp only
      rw [skipValue_print hv ends]
      rfl
  | some f =>
      dsimp only
      by_cases hset : f.isSet state = true
      · rw [if_pos hset, if_pos hset]
        exact exists_refuse _ _
      · rw [if_neg hset, if_neg hset, readColon_colon]
        exact agrees f (List.mem_of_find?_eq_some hfind) state hv ends

theorem yields_list (agrees : ∀ f ∈ schema.fields, f.Agrees) (noMore : schema.acceptsMore = false)
    {depth : Nat} {items : List Json} (plain : ∀ v ∈ items, Plain depth v) (rest : List Char) :
    Yields (schema.take (.list items)) rest
      (schema.read (depth + 1) ('[' :: (comingItems true items ++ ']' :: rest))) := by
  obtain ⟨first, hread⟩ := schema.yields_readFields agrees plain true 0 0 schema.start rest
  have hopens : Opens '[' (.list items) := rfl
  rw [take, read, atValue_opens hopens, if_pos rfl]
  dsimp only
  cases ht : schema.takeFields schema.fields 0 (items.take schema.fields.length) schema.start with
  | error m =>
      rw [ht, yields_error] at hread
      obtain ⟨e, he⟩ := hread
      rw [he]
      exact ⟨e, rfl⟩
  | ok state =>
      rw [ht, yields_ok] at hread
      rw [hread]
      dsimp only [settle]
      cases schema.finish state with
      | error m => exact exists_refuse _ _
      | ok a =>
          -- it is left to see whether there are items beyond the last field
          have hplain : ∀ w ∈ items.drop schema.fields.length, Plain depth w :=
            fun w hw => plain w (List.mem_of_mem_drop hw)
          obtain ⟨hend, hmore⟩ := yields_readListEnd hplain first rest
          dsimp only
          by_cases hle : items.length ≤ schema.fields.length
          · rw [hend (List.drop_eq_nil_of_le hle)]
            simp [hle, yields_ok, Except.map]
          · obtain ⟨e, he⟩ := hmore (by simpa using hle)
            rw [he]
            simp [hle, noMore, yields_error, Except.map]

theorem yields_object (agrees : ∀ f ∈ schema.fields, f.Agrees) {depth : Nat}
    {members : List (String × Json)} (plain : ∀ m ∈ members, Plain depth m.2) (rest : List Char) :
    Yields (schema.take (.object members)) rest
      (schema.read (depth + 1) ('{' :: (comingMembers true members ++ '}' :: rest))) := by
  have heach : ∀ m ∈ members, ∀ state rest, Ends rest → Yields (schema.takeMember state m) rest
      (schema.readMember depth state (unquoted m.1 ++ ':' :: (m.2.print ++ rest))) :=
    fun m hm state rest ends => schema.yields_readMember agrees (plain m hm) m.1 state ends
  have henough := length_lt_comingMembers members true ('}' :: rest)
  have hread := readMembers_coming heach henough true schema.start rest
  have hopens : Opens '{' (.object members) := rfl
  rw [take, read, atValue_opens hopens, if_neg (by decide), if_pos rfl, takeMembers_eq]
  dsimp only
  cases ht : members.foldlM schema.takeMember schema.start with
  | error m =>
      rw [ht, yields_error] at hread
      obtain ⟨e, he⟩ := hread
      rw [he]
      exact ⟨e, rfl⟩
  | ok state =>
      rw [ht, yields_ok] at hread
      rw [hread]
      dsimp only [settle]
      cases schema.finish state with
      | error m => exact exists_refuse _ _
      | ok a => rfl

/-- A record whose fields agree is read as it is taken apart. -/
theorem agrees_decoder (agrees : ∀ f ∈ schema.fields, f.Agrees)
    (noMore : schema.acceptsMore = false) : schema.decoder.Agrees := by
  intro depth v hv rest ends
  show Yields (schema.take v) rest (schema.read depth (v.print ++ rest))
  obtain ⟨c, cs, htext, hc⟩ := hv.exists_print
  by_cases hlist : ∃ items, v = .list items
  · obtain ⟨items, rfl⟩ := hlist
    cases hv with
    | list all =>
        rw [print_list_append]
        exact schema.yields_list agrees noMore all rest
  · by_cases hobject : ∃ members, v = .object members
    · obtain ⟨members, rfl⟩ := hobject
      cases hv with
      | object sorted all =>
          rw [print_object_append]
          exact schema.yields_object agrees all rest
    · have hbracket : c ≠ '[' := by
        rintro rfl
        exact hlist hc.exists_list
      have hbrace : c ≠ '{' := by
        rintro rfl
        exact hobject hc.exists_object
      have hvalue : ∃ m, schema.take v = .error m := by
        cases v with
        | list items => exact absurd ⟨items, rfl⟩ hlist
        | object members => exact absurd ⟨members, rfl⟩ hobject
        | _ => exact ⟨_, rfl⟩
      obtain ⟨m, hm⟩ := hvalue
      rw [hm, yields_error, htext, List.cons_append, read, atValue_opens hc, if_neg hbracket,
        if_neg hbrace]
      exact exists_refuseKind _ _

end Schema

end

/-! ## Whole texts -/

/-- What is made of a value is made of its text, and a value is refused exactly if its text is. -/
theorem Decoder.decode_render {α : Type} {d : Decoder α} (h : d.Agrees) {v : Json}
    (plain : Plain depthLimit v) :
    (∃ a, d.fromValue v = .ok a ∧ d.decode v.render = .ok a)
      ∨ ∃ m e, d.fromValue v = .error m ∧ d.decode v.render = .error e := by
  have hread := h plain ends_nil
  rw [List.append_nil] at hread
  have hdecode : d.decode v.render = readAll (d.fromText depthLimit) v.render := rfl
  rw [hdecode, readAll, render, String.toList_ofList]
  cases hv : d.fromValue v with
  | ok a =>
      rw [hv, yields_ok] at hread
      rw [hread]
      exact Or.inl ⟨a, rfl, rfl⟩
  | error m =>
      rw [hv, yields_error] at hread
      obtain ⟨e, he⟩ := hread
      rw [he]
      exact Or.inr ⟨m, e, rfl, rfl⟩

end Json

end SurfaceBridge
