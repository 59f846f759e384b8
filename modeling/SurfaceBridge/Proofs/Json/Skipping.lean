import SurfaceBridge.Proofs.Json.RoundTrip

set_option autoImplicit false

/-! # Values that are skipped

A value of a field that nobody knows is read past by a loop with a stack of open containers.
`skipOn` is what the loop does between two values. Reading past the text of a value comes to
`skipOn` behind it, with the stack it had in front of it (`skipValues_print`), so with no container
open it leaves what stands behind the value (`skipValue_print`).
-/

namespace SurfaceBridge

namespace Json

/-- Goes on behind a value or an opening bracket: closes what ends there and, if a container is
still open, reads past the next value. -/
def skipOn (fuel : Nat) (stack : List Bool) (comma : Bool) (s : List Char) :
    Except ReadError (List Char) :=
  match skipClosers stack comma s with
  | .error e => .error e
  | .ok ([], rest) => .ok rest
  | .ok (isObject :: stack, rest) =>
    if isObject then
      match skipName rest with
      | .error e => .error e
      | .ok rest => skipValues fuel (isObject :: stack) rest
    else skipValues fuel (isObject :: stack) rest

theorem skipOn_of_closers {stack stack' : List Bool} {comma comma' : Bool} {s s' : List Char}
    (h : skipClosers stack comma s = skipClosers stack' comma' s') (fuel : Nat) :
    skipOn fuel stack comma s = skipOn fuel stack' comma' s' := by
  rw [skipOn, skipOn, h]

/-! ## Between values -/

theorem skipOn_listEnd (fuel : Nat) (stack : List Bool) (comma : Bool) (rest : List Char) :
    skipOn fuel (false :: stack) comma (']' :: rest) = skipOn fuel stack true rest :=
  skipOn_of_closers rfl fuel

theorem skipOn_objectEnd (fuel : Nat) (stack : List Bool) (comma : Bool) (rest : List Char) :
    skipOn fuel (true :: stack) comma ('}' :: rest) = skipOn fuel stack true rest :=
  skipOn_of_closers rfl fuel

theorem skipOn_item {depth : Nat} {v : Json} (h : Plain depth v) (fuel : Nat) (stack : List Bool)
    (first : Bool) (rest : List Char) :
    skipOn fuel (false :: stack) (!first) (lead first ++ (v.print ++ rest))
      = skipValues fuel (false :: stack) (v.print ++ rest) := by
  obtain ⟨c, cs, hv, hc⟩ := h.exists_print
  have hclosers : skipClosers (false :: stack) (!first) (lead first ++ (v.print ++ rest))
      = .ok (false :: stack, v.print ++ rest) := by
    rw [hv]
    cases first with
    | true => simp [skipClosers, lead, skipSpace_of_opens hc, hc.not_end.2.2.1]
    | false =>
        have hspace : skipSpace (',' :: c :: (cs ++ rest)) = ',' :: c :: (cs ++ rest) := rfl
        simp [skipClosers, lead, hspace]
  rw [skipOn, hclosers]
  rfl

theorem skipOn_member (fuel : Nat) (stack : List Bool) (first : Bool) (k : String)
    (rest : List Char) :
    skipOn fuel (true :: stack) (!first) (lead first ++ '"' :: (unquoted k ++ ':' :: rest))
      = skipValues fuel (true :: stack) rest := by
  have hclosers : skipClosers (true :: stack) (!first)
      (lead first ++ '"' :: (unquoted k ++ ':' :: rest))
        = .ok (true :: stack, '"' :: (unquoted k ++ ':' :: rest)) := by
    cases first <;> rfl
  have hname : skipName ('"' :: (unquoted k ++ ':' :: rest)) = .ok rest := by
    have hspace : skipSpace ('"' :: (unquoted k ++ ':' :: rest))
        = '"' :: (unquoted k ++ ':' :: rest) := rfl
    simp only [skipName, hspace, skipText_unquoted, readColon_colon]
  rw [skipOn, hclosers]
  dsimp only
  rw [if_pos rfl, hname]

/-! ## Values -/

theorem skipScalar_integerText {n : Int} {c : Char} {cs : List Char} (hn : integerText n = c :: cs)
    {rest : List Char} (ends : Ends rest) : skipScalar c (cs ++ rest) = .ok rest := by
  have hskip : skipUnsigned (naturalText n.natAbs ++ rest) = .ok rest :=
    skipUnsigned_naturalText ends
  by_cases hneg : n < 0
  · rw [integerText, if_pos hneg] at hn
    cases hn
    exact hskip
  · rw [integerText, if_neg hneg] at hn
    have hdigit : c.isDigit = true := isDigit_of_mem_naturalText (hn ▸ List.mem_cons_self)
    have hword : c ≠ 'n' ∧ c ≠ 't' ∧ c ≠ 'f' ∧ c ≠ '-' := by
      refine ⟨?_, ?_, ?_, ?_⟩ <;>
        · rintro rfl
          exact absurd hdigit (by decide)
    rw [hn] at hskip
    rw [skipScalar, if_neg hword.1, if_neg hword.2.1, if_neg hword.2.2.1, if_neg hword.2.2.2,
      if_pos hdigit]
    exact hskip

theorem skipValues_list (fuel : Nat) (stack : List Bool) (rest : List Char) :
    skipValues (fuel + 1) stack ('[' :: rest) = skipOn fuel (false :: stack) false rest := by
  rw [skipValues]
  rfl

theorem skipValues_object (fuel : Nat) (stack : List Bool) (rest : List Char) :
    skipValues (fuel + 1) stack ('{' :: rest) = skipOn fuel (true :: stack) false rest := by
  rw [skipValues]
  rfl

/-- Reading past a text comes to going on behind it, with fuel left for what follows. -/
def SkipsTo (reading : Nat → List Char → Except ReadError (List Char)) (before : List Char)
    (stack : List Bool) (rest : List Char) : Prop :=
  ∀ fuel, before.length < fuel →
    ∃ left, rest.length < left ∧ reading fuel before = skipOn left stack true rest

theorem skipsTo_items {depth : Nat} {items : List Json} (plain : ∀ v ∈ items, Plain depth v)
    (each : ∀ v ∈ items, ∀ stack rest, Ends rest →
      SkipsTo (skipValues · stack) (v.print ++ rest) stack rest)
    (stack : List Bool) (first : Bool) (rest : List Char) :
    SkipsTo (skipOn · (false :: stack) (!first)) (comingItems first items ++ ']' :: rest) stack
      rest := by
  induction items generalizing first with
  | nil =>
      intro fuel henough
      refine ⟨fuel, ?_, skipOn_listEnd fuel stack _ rest⟩
      simp only [comingItems, List.nil_append, List.length_cons] at henough
      omega
  | cons v vs ih =>
      intro fuel henough
      have hv := plain v (by simp)
      rw [comingItems_cons_append, List.length_append] at henough
      -- first past the item, then past those behind it
      obtain ⟨left, hleft, hitem⟩ := each v (by simp) (false :: stack) _ (ends_comingItems vs rest)
        fuel (by omega)
      obtain ⟨left', hleft', hrest⟩ := ih (fun w hw => plain w (by simp [hw]))
        (fun w hw => each w (by simp [hw])) false left hleft
      refine ⟨left', hleft', ?_⟩
      dsimp only at hitem hrest ⊢
      rw [comingItems_cons_append, skipOn_item hv, hitem]
      exact hrest

theorem skipsTo_members {members : List (String × Json)}
    (each : ∀ m ∈ members, ∀ stack rest, Ends rest →
      SkipsTo (skipValues · stack) (m.2.print ++ rest) stack rest)
    (stack : List Bool) (first : Bool) (rest : List Char) :
    SkipsTo (skipOn · (true :: stack) (!first)) (comingMembers first members ++ '}' :: rest) stack
      rest := by
  induction members generalizing first with
  | nil =>
      intro fuel henough
      refine ⟨fuel, ?_, skipOn_objectEnd fuel stack _ rest⟩
      simp only [comingMembers, List.nil_append, List.length_cons] at henough
      omega
  | cons m ms ih =>
      obtain ⟨k, v⟩ := m
      intro fuel henough
      rw [comingMembers_cons_append] at henough
      simp only [List.length_append, List.length_cons] at henough
      obtain ⟨left, hleft, hmember⟩ := each (k, v) (by simp) (true :: stack) _
        (ends_comingMembers ms rest) fuel (by
          simp only [List.length_append, List.length_cons]
          omega)
      obtain ⟨left', hleft', hrest⟩ := ih (fun w hw => each w (by simp [hw])) false left hleft
      refine ⟨left', hleft', ?_⟩
      dsimp only at hmember hrest ⊢
      rw [comingMembers_cons_append, skipOn_member, hmember]
      exact hrest

/-- A value that is no list and no object is read past at once. -/
theorem skipsTo_scalar (v : Json) {c : Char} {cs rest : List Char} (hv : v.print = c :: cs)
    (hc : Opens c v) (noList : c ≠ '[') (noObject : c ≠ '{')
    (skip : skipScalar c (cs ++ rest) = .ok rest) (stack : List Bool) :
    SkipsTo (skipValues · stack) (v.print ++ rest) stack rest := by
  intro fuel henough
  obtain ⟨fuel, rfl⟩ := Nat.exists_eq_succ_of_ne_zero (Nat.ne_zero_of_lt henough)
  rw [hv] at henough ⊢
  simp only [List.cons_append, List.length_cons, List.length_append] at henough
  refine ⟨fuel, by omega, ?_⟩
  dsimp only
  rw [List.cons_append, skipValues, skipSpace_of_opens hc]
  simp only [noList, noObject, skip, if_false]
  rfl

/-- Every value takes at least one character, so the length of the text is fuel enough. -/
theorem skipValues_print {depth : Nat} {v : Json} (h : Plain depth v) (stack : List Bool)
    {rest : List Char} (ends : Ends rest) :
    SkipsTo (skipValues · stack) (v.print ++ rest) stack rest := by
  induction h generalizing stack rest with
  | null => exact skipsTo_scalar .null rfl rfl (by decide) (by decide) rfl stack
  | boolean b =>
      cases b
      · exact skipsTo_scalar (.boolean false) rfl rfl (by decide) (by decide) rfl stack
      · exact skipsTo_scalar (.boolean true) rfl rfl (by decide) (by decide) rfl stack
  | @integer depth n low high =>
      obtain ⟨c, cs, hn, hc⟩ := exists_integerText n
      have hscalar := skipScalar_integerText hn ends
      refine skipsTo_scalar (.number (.integer n)) hn hc ?_ ?_ hscalar stack <;>
        · rintro rfl
          rcases hc with hc | hc <;> exact absurd hc (by decide)
  | text s =>
      have hscalar : skipScalar '"' (unquoted s ++ rest) = .ok rest := skipText_unquoted s rest
      exact skipsTo_scalar (.text s) rfl rfl (by decide) (by decide) hscalar stack
  | @list depth items all ih =>
      intro fuel henough
      obtain ⟨fuel, rfl⟩ := Nat.exists_eq_succ_of_ne_zero (Nat.ne_zero_of_lt henough)
      rw [print_list_append, List.length_cons] at henough
      obtain ⟨left, hleft, hitems⟩ := skipsTo_items all
        (fun v hv stack rest ends => ih v hv stack ends) stack true rest fuel (by omega)
      refine ⟨left, hleft, ?_⟩
      dsimp only at hitems ⊢
      rw [print_list_append, skipValues_list]
      exact hitems
  | @object depth members sorted all ih =>
      intro fuel henough
      obtain ⟨fuel, rfl⟩ := Nat.exists_eq_succ_of_ne_zero (Nat.ne_zero_of_lt henough)
      rw [print_object_append, List.length_cons] at henough
      obtain ⟨left, hleft, hmembers⟩ := skipsTo_members
        (fun m hm stack rest ends => ih m hm stack ends) stack true rest fuel (by omega)
      refine ⟨left, hleft, ?_⟩
      dsimp only at hmembers ⊢
      rw [print_object_append, skipValues_object]
      exact hmembers

theorem skipValue_print {depth : Nat} {v : Json} (h : Plain depth v) {rest : List Char}
    (ends : Ends rest) : skipValue (v.print ++ rest) = .ok rest := by
  obtain ⟨left, -, hskip⟩ := skipValues_print h [] ends ((v.print ++ rest).length + 1)
    (Nat.lt_succ_self _)
  exact hskip

end Json

end SurfaceBridge
