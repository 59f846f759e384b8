import SurfaceBridge.Proofs.Json.Writing
import SurfaceBridge.Proofs.Protocol.Payloads

set_option autoImplicit false

/-! # Highlighting tables

`IsRow pattern name v` says that the value `v` is an accepted way to give a row of a highlighting
table. An object may have its members in any order and may have others besides; what counts is
which values stand under the names that are looked for (`valuesUnder`). The decoder of a row accepts
these values and no others (`highlightEntry_eq_some_iff`).

`decode_table` carries this over to whole tables, whether they are sent as they are or as a text
that writes them.
-/

namespace SurfaceBridge

open Json (Gap Gives Stops Written depthLimit gives_none gives_some)

/-! ## The accepted rows -/

/-- The values that an object has under any of some names. -/
def valuesUnder (names : List String) (members : List (String × Json)) : List Json :=
  (members.filter fun m => names.contains m.1).map (·.2)

/-- The names under which the class of a row may stand. -/
def classNames : List String := ["token", "class", "tokenClass", "range"]

/-- A pattern, or that there is none, as a value. -/
def patternValue : Option String → Json
  | none => .null
  | some pattern => .text pattern

/-- The values that give a row with a pattern, or none, and the name of a class. -/
inductive IsRow (pattern : Option String) (name : String) : Json → Prop where
  | pair : IsRow pattern name (.list [patternValue pattern, .text name])
  | object {members : List (String × Json)}
      (patterned : valuesUnder ["pattern"] members = [patternValue pattern]
        ∨ pattern = none ∧ valuesUnder ["pattern"] members = [])
      (classed : valuesUnder classNames members = [.text name]) :
      IsRow pattern name (.object members)

/-- The rules of the rows that have a pattern that is not empty, with the names of their classes. -/
def rulesOf (rows : List (Option String × String)) : List (String × String) :=
  rows.filterMap fun row =>
    match row.1 with
    | some pattern => if pattern = "" then none else some (pattern, row.2)
    | none => none

/-- The table that the rows stand for. -/
def tableOf (rows : List (Option String × String)) : List (String × TokenClass) :=
  (rulesOf rows).map fun rule => (rule.1, TokenClass.ofName rule.2)

/-- The ways to deliver a value: as it is, or as a text that writes it. -/
inductive Delivered (v : Json) : Json → Prop where
  | whole : Delivered v v
  | text {s : List Char} (before after : Gap) (written : Written v s) :
      Delivered v (.text (String.ofList (before.chars ++ (s ++ after.chars))))

/-- The compact text of a value is a way to deliver it. -/
theorem delivered_render {depth : Nat} {v : Json} (plain : Json.Plain depth v) :
    Delivered v (.text v.render) := by
  have htext := Delivered.text Json.noGap Json.noGap plain.written
  rwa [Json.noGap, List.nil_append, List.append_nil] at htext

/-! ## A single row -/

/-- What the decoder of patterns makes of a value. -/
def patternOf (v : Json) : Option (Option String) :=
  ((Json.Decoder.optional .text).fromValue v).toOption

/-- What the decoder of classes makes of a value. -/
def classOf (v : Json) : Option TokenClass := (TokenClass.decoder.fromValue v).toOption

theorem patternOf_eq_some_iff {v : Json} {pattern : Option String} :
    patternOf v = some pattern ↔ v = patternValue pattern := by
  constructor
  · intro h
    cases v with
    | null =>
        cases h
        rfl
    | text s =>
        cases h
        rfl
    | _ => cases h
  · rintro rfl
    cases pattern <;> rfl

theorem classOf_eq_some_iff {v : Json} {kind : TokenClass} :
    classOf v = some kind ↔ ∃ name, v = .text name ∧ kind = TokenClass.ofName name := by
  constructor
  · intro h
    cases v with
    | text s =>
        cases h
        exact ⟨s, rfl, rfl⟩
    | _ => cases h
  · rintro ⟨name, rfl, rfl⟩
    rfl

/-- Sets a field that has not been set. -/
def setOnce {α : Type} (decode : Json → Option α) : Option α → Json → Option (Option α)
  | none, v => (decode v).map some
  | some _, _ => none

/-- A field that is set by the values under its names, at most once. -/
def once {α : Type} (decode : Json → Option α) (state : Option α) (values : List Json) :
    Option (Option α) :=
  values.foldlM (setOnce decode) state

theorem once_cons {α : Type} (decode : Json → Option α) (state : Option α) (v : Json)
    (vs : List Json) :
    once decode state (v :: vs)
      = (setOnce decode state v).bind fun after => once decode after vs := rfl

theorem once_none_eq_some_iff {α : Type} {decode : Json → Option α} {values : List Json}
    {result : Option α} :
    once decode none values = some result
      ↔ values = [] ∧ result = none
        ∨ ∃ v a, values = [v] ∧ decode v = some a ∧ result = some a := by
  rcases values with _ | ⟨v, _ | ⟨w, ws⟩⟩
  · simp [once, eq_comm]
  · cases hv : decode v <;> simp [once, setOnce, hv, eq_comm]
  · cases hv : decode v <;> simp [once, setOnce, hv]

theorem valuesUnder_cons (names : List String) (m : String × Json) (ms : List (String × Json)) :
    valuesUnder names (m :: ms)
      = if names.contains m.1 then m.2 :: valuesUnder names ms else valuesUnder names ms := by
  unfold valuesUnder
  rw [List.filter_cons]
  split <;> rfl

/-- The field for the pattern of a row. -/
def patternField : Json.Field HighlightDraft :=
  .ofDecoder ["pattern"] true (.optional .text) (·.pattern) fun v d => { d with pattern := some v }

/-- The field for the class of a row. -/
def classField : Json.Field HighlightDraft :=
  .ofDecoder classNames false TokenClass.decoder (·.kind) fun v d => { d with kind := some v }

theorem find?_fields (name : String) :
    (HighlightDraft.schema.fields.find? fun f => f.names.contains name)
      = if name = "pattern" then some patternField
        else if classNames.contains name then some classField else none := by
  have hfields : HighlightDraft.schema.fields = [patternField, classField] := rfl
  have hpattern : patternField.names.contains name = decide (name = "pattern") := by
    simp [patternField, Json.Field.ofDecoder]
  have hclass : classField.names.contains name = classNames.contains name := rfl
  rw [hfields, List.find?_cons, List.find?_cons, hpattern, hclass]
  by_cases hname : name = "pattern"
  · simp [hname]
  · cases classNames.contains name <;> simp [hname]

/-- A member sets the field that it belongs to, if this has not been set. -/
theorem toOption_takeMember (d : HighlightDraft) (name : String) (v : Json) :
    (HighlightDraft.schema.takeMember d (name, v)).toOption
      = if name = "pattern" then
          (setOnce patternOf d.pattern v).map fun pattern => { d with pattern := pattern }
        else if classNames.contains name then
          (setOnce classOf d.kind v).map fun kind => { d with kind := kind }
        else some d := by
  obtain ⟨pattern, kind⟩ := d
  rw [Json.Schema.takeMember, find?_fields]
  by_cases hpattern : name = "pattern"
  · rw [if_pos hpattern, if_pos hpattern]
    cases pattern with
    | some p => rfl
    | none =>
        show (((Json.Decoder.optional .text).fromValue v).map _).toOption
          = ((patternOf v).map some).map _
        unfold patternOf
        cases (Json.Decoder.optional .text).fromValue v <;> rfl
  · rw [if_neg hpattern, if_neg hpattern]
    cases classNames.contains name with
    | false => rfl
    | true =>
        rw [if_pos rfl, if_pos rfl]
        cases kind with
        | some k => rfl
        | none =>
            show ((TokenClass.decoder.fromValue v).map _).toOption = ((classOf v).map some).map _
            unfold classOf
            cases TokenClass.decoder.fromValue v <;> rfl

theorem toOption_takeMembers_cons (m : String × Json) (ms : List (String × Json))
    (d : HighlightDraft) :
    (HighlightDraft.schema.takeMembers (m :: ms) d).toOption
      = (HighlightDraft.schema.takeMember d m).toOption.bind fun d =>
          (HighlightDraft.schema.takeMembers ms d).toOption := by
  simp only [Json.Schema.takeMembers_eq, List.foldlM_cons]
  cases HighlightDraft.schema.takeMember d m <;> rfl

/-- The two fields of a row are set independently of one another. -/
theorem toOption_takeMembers (ms : List (String × Json)) (d : HighlightDraft) :
    (HighlightDraft.schema.takeMembers ms d).toOption
      = (once patternOf d.pattern (valuesUnder ["pattern"] ms)).bind fun pattern =>
          (once classOf d.kind (valuesUnder classNames ms)).map fun kind => ⟨pattern, kind⟩ := by
  induction ms generalizing d with
  | nil => rfl
  | cons m ms ih =>
      obtain ⟨name, v⟩ := m
      rw [toOption_takeMembers_cons, toOption_takeMember, valuesUnder_cons, valuesUnder_cons]
      by_cases hpattern : name = "pattern"
      · subst hpattern
        have hunder : ["pattern"].contains "pattern" = true := rfl
        have hother : classNames.contains "pattern" = false := by decide
        rw [if_pos rfl, hunder, if_pos rfl, hother, if_neg Bool.false_ne_true, once_cons,
          Option.bind_map, Option.bind_assoc]
        simp only [Function.comp_def, ih]
      · have hunder : ["pattern"].contains name = false := by simpa using hpattern
        rw [if_neg hpattern, hunder, if_neg Bool.false_ne_true]
        cases classNames.contains name with
        | false => exact ih d
        | true =>
            rw [if_pos rfl, if_pos rfl, once_cons, Option.bind_map]
            simp only [Function.comp_def, ih]
            -- the class is set in front of the patterns that are still to come
            cases setOnce classOf d.kind v with
            | none => cases once patternOf d.pattern (valuesUnder ["pattern"] ms) <;> rfl
            | some kind => rfl

theorem finish_eq (d : HighlightDraft) :
    (HighlightDraft.schema.finish d).toOption
      = d.kind.map fun kind => (d.pattern.getD none, kind) := by
  obtain ⟨pattern, kind⟩ := d
  cases kind <;> rfl

theorem highlightEntry_pair (pattern kind : Json) :
    highlightEntry (.list [pattern, kind])
      = (patternOf pattern).bind fun p => (classOf kind).map fun k => (p, k) := by
  unfold highlightEntry patternOf classOf
  dsimp only
  cases (Json.Decoder.optional .text).fromValue pattern with
  | error m => rfl
  | ok p => cases TokenClass.decoder.fromValue kind <;> rfl

theorem highlightEntry_object (members : List (String × Json)) :
    highlightEntry (.object members)
      = (once patternOf none (valuesUnder ["pattern"] members)).bind fun pattern =>
          (once classOf none (valuesUnder classNames members)).bind fun kind =>
            kind.map fun kind => (pattern.getD none, kind) := by
  have htake := toOption_takeMembers members HighlightDraft.schema.start
  have hentry : highlightEntry (.object members)
      = (HighlightDraft.schema.takeMembers members HighlightDraft.schema.start).toOption.bind
        fun d => (HighlightDraft.schema.finish d).toOption := by
    unfold highlightEntry
    dsimp only
    cases HighlightDraft.schema.takeMembers members HighlightDraft.schema.start <;> rfl
  rw [hentry, htake, Option.bind_assoc]
  congr 1
  funext pattern
  rw [Option.bind_map]
  congr 1
  funext kind
  exact finish_eq ⟨pattern, kind⟩

theorem once_patternOf_iff {values : List Json} {pattern : Option String} :
    (∃ p, once patternOf none values = some p ∧ p.getD none = pattern)
      ↔ values = [patternValue pattern] ∨ pattern = none ∧ values = [] := by
  simp only [once_none_eq_some_iff, patternOf_eq_some_iff]
  constructor
  · rintro ⟨p, ⟨rfl, rfl⟩ | ⟨v, q, rfl, rfl, rfl⟩, rfl⟩
    · exact Or.inr ⟨rfl, rfl⟩
    · exact Or.inl rfl
  · rintro (rfl | ⟨rfl, rfl⟩)
    · exact ⟨some pattern, Or.inr ⟨_, pattern, rfl, rfl, rfl⟩, rfl⟩
    · exact ⟨none, Or.inl ⟨rfl, rfl⟩, rfl⟩

theorem once_classOf_iff {values : List Json} {kind : TokenClass} :
    once classOf none values = some (some kind)
      ↔ ∃ name, kind = TokenClass.ofName name ∧ values = [.text name] := by
  simp only [once_none_eq_some_iff, classOf_eq_some_iff]
  constructor
  · rintro (⟨-, hnone⟩ | ⟨v, k, rfl, ⟨name, rfl, rfl⟩, hkind⟩)
    · cases hnone
    · cases hkind
      exact ⟨name, rfl, rfl⟩
  · rintro ⟨name, rfl, rfl⟩
    exact Or.inr ⟨_, _, rfl, ⟨name, rfl, rfl⟩, rfl⟩

theorem highlightEntry_object_iff {members : List (String × Json)} {pattern : Option String}
    {kind : TokenClass} :
    highlightEntry (.object members) = some (pattern, kind)
      ↔ (∃ p, once patternOf none (valuesUnder ["pattern"] members) = some p
            ∧ p.getD none = pattern)
        ∧ once classOf none (valuesUnder classNames members) = some (some kind) := by
  simp only [highlightEntry_object, Option.bind_eq_some_iff, Option.map_eq_some_iff,
    Prod.mk.injEq]
  constructor
  · rintro ⟨p, hp, _, hk, k, rfl, hpattern, rfl⟩
    exact ⟨⟨p, hp, hpattern⟩, hk⟩
  · rintro ⟨⟨p, hp, hpattern⟩, hk⟩
    exact ⟨p, hp, _, hk, kind, rfl, hpattern, rfl⟩

/-- The decoder of a row accepts the values that give a row, and no others. -/
theorem highlightEntry_eq_some_iff {v : Json} {pattern : Option String} {kind : TokenClass} :
    highlightEntry v = some (pattern, kind)
      ↔ ∃ name, kind = TokenClass.ofName name ∧ IsRow pattern name v := by
  constructor
  · intro h
    by_cases hobject : ∃ members, v = .object members
    · obtain ⟨members, rfl⟩ := hobject
      obtain ⟨hpattern, hclass⟩ := highlightEntry_object_iff.1 h
      obtain ⟨name, hname, classed⟩ := once_classOf_iff.1 hclass
      exact ⟨name, hname, .object (once_patternOf_iff.1 hpattern) classed⟩
    · have hpair : ∃ p k, v = .list [p, k] := by
        unfold highlightEntry at h
        split at h
        · exact ⟨_, _, rfl⟩
        · exact absurd ⟨_, rfl⟩ hobject
        · cases h
      obtain ⟨p, k, rfl⟩ := hpair
      simp only [highlightEntry_pair, Option.bind_eq_some_iff, Option.map_eq_some_iff,
        Prod.mk.injEq, patternOf_eq_some_iff, classOf_eq_some_iff] at h
      obtain ⟨_, rfl, _, ⟨name, rfl, rfl⟩, rfl, rfl⟩ := h
      exact ⟨name, rfl, .pair⟩
  · rintro ⟨name, rfl, row⟩
    cases row with
    | pair =>
        rw [highlightEntry_pair, patternOf_eq_some_iff.2 rfl,
          classOf_eq_some_iff.2 ⟨name, rfl, rfl⟩]
        rfl
    | object patterned classed =>
        exact highlightEntry_object_iff.2
          ⟨once_patternOf_iff.2 patterned, once_classOf_iff.2 ⟨name, rfl, classed⟩⟩

theorem highlightEntry_eq_none {v : Json} (noRow : ∀ pattern name, ¬ IsRow pattern name v) :
    highlightEntry v = none := by
  by_contra hsome
  obtain ⟨⟨pattern, kind⟩, hrow⟩ := Option.ne_none_iff_exists'.1 hsome
  obtain ⟨name, -, row⟩ := highlightEntry_eq_some_iff.1 hrow
  exact noRow pattern name row

/-! ## Rows and rules -/

theorem name_ofName (name : String) : (TokenClass.ofName name).name = name := by
  unfold TokenClass.ofName
  split <;> rfl

/-- The rules of a table have the names that were given. -/
theorem names_tableOf (rows : List (Option String × String)) :
    (tableOf rows).map (fun rule => (rule.1, rule.2.name)) = rulesOf rows := by
  have hrule : (fun rule : String × TokenClass => (rule.1, rule.2.name))
      ∘ (fun rule : String × String => (rule.1, TokenClass.ofName rule.2)) = id := by
    funext rule
    exact Prod.ext rfl (name_ofName rule.2)
  rw [tableOf, List.map_map, hrule, List.map_id]

theorem mapM_highlightEntry {rows : List (Option String × String)} {values : List Json}
    (shaped : List.Forall₂ (fun row v => IsRow row.1 row.2 v) rows values) :
    values.mapM highlightEntry
      = some (rows.map fun row => (row.1, TokenClass.ofName row.2)) := by
  induction shaped with
  | nil => rfl
  | cons row _ ih =>
      rw [List.mapM_cons, highlightEntry_eq_some_iff.2 ⟨_, rfl, row⟩, ih]
      rfl

theorem filledRow_tableOf (rows : List (Option String × String)) :
    (rows.map fun row => (row.1, TokenClass.ofName row.2)).filterMap filledRow = tableOf rows := by
  rw [tableOf, rulesOf, List.filterMap_map, List.map_filterMap]
  congr 1
  funext row
  obtain ⟨pattern, name⟩ := row
  cases pattern with
  | none => rfl
  | some pattern =>
      by_cases hempty : pattern = ""
      · subst hempty
        rfl
      · have hfull : pattern.isEmpty = false := by simpa using hempty
        simp [filledRow, hempty, hfull]

/-! ## Whole tables -/

theorem fromValue_highlightDecoder (v : Json) :
    (highlightDecoder.fromValue v).toOption = highlightEntry v := by
  unfold highlightDecoder Json.Decoder.judged
  dsimp only
  cases highlightEntry v <;> rfl

/-- A row as it is decoded from a text, where it must not be nested too deep. -/
def writtenEntry (v : Json) : Option (Option String × TokenClass) :=
  if v.depth < depthLimit then highlightEntry v else none

theorem gives_writtenEntry {v : Json} {s : List Char} (written : Written v s) {rest : List Char}
    (stops : Stops rest) :
    Gives (writtenEntry v) rest (highlightDecoder.fromText 126 (s ++ rest)) := by
  have hread := Json.gives_readWritten written 126 stops
  have hdecode : highlightDecoder.fromText 126 (s ++ rest)
      = (Json.readWritten 126 (s ++ rest)).bind fun p =>
          Json.settle (highlightDecoder.fromValue p.1) p.2 := by
    unfold highlightDecoder Json.Decoder.judged
    dsimp only
    cases Json.readWritten 126 (s ++ rest) <;> rfl
  have hlimit : v.depth < depthLimit ↔ v.depth ≤ 126 := Nat.lt_succ_iff
  rw [hdecode, writtenEntry]
  simp only [hlimit]
  by_cases fits : v.depth ≤ 126
  · rw [if_pos fits, gives_some] at hread
    rw [if_pos fits, hread, ← fromValue_highlightDecoder]
    exact Json.gives_settle (highlightDecoder.fromValue v) rest
  · rw [if_neg fits, gives_none] at hread
    obtain ⟨e, he⟩ := hread
    rw [if_neg fits, he]
    exact ⟨e, rfl⟩

/-- What is decoded from a text that writes the rows. -/
theorem decode_table_text {values : List Json} {s : List Char} (written : Written (.list values) s)
    (before after : Gap) :
    ((Json.Decoder.list highlightDecoder).decode
      (String.ofList (before.chars ++ (s ++ after.chars)))).toOption
        = values.mapM writtenEntry := by
  cases written with
  | @list items last all =>
      let inner := Json.spaced id (·.text) last true items ++ ']' :: after.chars
      have htext : before.chars
          ++ ('[' :: (Json.spaced id (·.text) last true items ++ [']']) ++ after.chars)
            = before.chars ++ '[' :: inner := by simp [inner]
      have hopen : (Json.Decoder.list highlightDecoder).fromText depthLimit
          (before.chars ++ '[' :: inner)
            = Json.readItems (highlightDecoder.fromText 126) (inner.length + 1) true [] inner := by
        show Json.atValue _ (before.chars ++ '[' :: inner) = _
        rw [Json.atValue, Json.skipSpace_gap before (c := '[') rfl]
        rfl
      have heach : ∀ i ∈ items, ∀ rest, Stops rest → Gives (writtenEntry i.value) rest
          (highlightDecoder.fromText 126 (i.text ++ rest)) :=
        fun i hi rest stops => gives_writtenEntry (all i hi) stops
      have henough := Json.length_lt_spaced id (·.text) (fun i hi => (all i hi).text_ne_nil) last
        true (']' :: after.chars)
      have hread := Json.gives_readItems all heach henough last true [] after.chars
      have hrows : (items.map (·.value)).mapM writtenEntry
          = items.mapM fun i => writtenEntry i.value := List.mapM_map ..
      have hend : Json.skipSpace after.chars = [] := Json.skipSpace_of_blanks after.blank
      rw [Json.Decoder.decode, Json.readAll, String.toList_ofList, htext, hopen, hrows]
      cases hm : items.mapM fun i => writtenEntry i.value with
      | none =>
          rw [hm, Option.map_none, gives_none] at hread
          obtain ⟨e, he⟩ := hread
          rw [he]
          rfl
      | some rows =>
          rw [hm, Option.map_some, gives_some] at hread
          rw [hread]
          dsimp only
          rw [hend]
          rfl

theorem decode_table_value (values : List Json) :
    ((Json.Decoder.list highlightDecoder).fromValue (.list values)).toOption
      = values.mapM highlightEntry := by
  show (Json.Decoder.listFromValues highlightDecoder values).toOption = _
  induction values with
  | nil => rfl
  | cons v vs ih =>
      rw [List.mapM_cons, ← ih, Json.Decoder.listFromValues, ← fromValue_highlightDecoder]
      cases highlightDecoder.fromValue v with
      | error m => rfl
      | ok row => cases Json.Decoder.listFromValues highlightDecoder vs <;> rfl

theorem mapM_eq_none {α β : Type} {f : α → Option β} {as : List α} {a : α} (mem : a ∈ as)
    (refused : f a = none) : as.mapM f = none := by
  induction as with
  | nil => cases mem
  | cons b bs ih =>
      rw [List.mapM_cons]
      rcases List.mem_cons.1 mem with rfl | mem
      · rw [refused]
        rfl
      · rw [ih mem]
        cases f b <;> rfl

theorem mapM_writtenEntry {values : List Json} (nested : ∀ v ∈ values, v.depth < depthLimit) :
    values.mapM writtenEntry = values.mapM highlightEntry := by
  induction values with
  | nil => rfl
  | cons v vs ih =>
      have hv : writtenEntry v = highlightEntry v := if_pos (nested v (by simp))
      rw [List.mapM_cons, List.mapM_cons, hv, ih fun w hw => nested w (by simp [hw])]

/-- The rows decide what is decoded, whichever way they are delivered. -/
theorem decodePayload_table (method : String) {values : List Json} {params : Json}
    (delivered : Delivered (.list values) params) :
    (decodePayload (.list highlightDecoder) method params).toOption = values.mapM highlightEntry
      ∨ (decodePayload (.list highlightDecoder) method params).toOption
        = values.mapM writtenEntry := by
  cases delivered with
  | whole =>
      rw [decodePayload_of_not_text _ _ (by simp), ← decode_table_value]
      left
      cases (Json.Decoder.list highlightDecoder).fromValue (.list values) <;> rfl
  | text before after written =>
      rw [decodePayload_text, ← decode_table_text written before after]
      right
      cases (Json.Decoder.list highlightDecoder).decode _ <;> rfl

namespace ServerNotification

/-- The rows that a payload holds make a table. -/
theorem decode_of_rows {params : Json} {decoded : List (Option String × TokenClass)}
    (h : (decodePayload (.list highlightDecoder) "ov/semanticHighlightingUpdated" params).toOption
      = some decoded) :
    decode "ov/semanticHighlightingUpdated" params
      = .ok (some (.highlighting (decoded.filterMap filledRow))) := by
  rw [decode_highlighting]
  cases hd : decodePayload (.list highlightDecoder) "ov/semanticHighlightingUpdated" params with
  | error p =>
      rw [hd] at h
      cases h
  | ok rows =>
      rw [hd] at h
      cases h
      rfl

/-- A payload that does not hold rows is malformed. -/
theorem decode_of_no_rows {params : Json}
    (h : (decodePayload (.list highlightDecoder) "ov/semanticHighlightingUpdated" params).toOption
      = none) :
    ∃ problem, decode "ov/semanticHighlightingUpdated" params
      = .error (.malformed "ov/semanticHighlightingUpdated" problem) := by
  rw [decode_highlighting]
  cases hd : decodePayload (.list highlightDecoder) "ov/semanticHighlightingUpdated" params with
  | error p =>
      obtain ⟨problem, rfl⟩ := decodePayload_error hd
      exact ⟨problem, rfl⟩
  | ok rows =>
      rw [hd] at h
      cases h

/-- A table of which every value gives a row is decoded to the rules of the rows that have a
pattern, in their order and with the names that were given. It does not matter which way a row or
the table is written. A table with a value that gives no row is malformed as a whole. -/
theorem decode_table {rows : List (Option String × String)} {values : List Json}
    (shaped : List.Forall₂ (fun row v => IsRow row.1 row.2 v) rows values)
    (nested : ∀ v ∈ values, v.depth < depthLimit) :
    (∀ params, Delivered (.list values) params →
        decode "ov/semanticHighlightingUpdated" params = .ok (some (.highlighting (tableOf rows))))
      ∧ (tableOf rows).map (fun rule => (rule.1, rule.2.name)) = rulesOf rows
      ∧ ∀ (listed : List Json) (bad params : Json), bad ∈ listed →
        (∀ pattern name, ¬ IsRow pattern name bad) → Delivered (.list listed) params →
        ∃ problem, decode "ov/semanticHighlightingUpdated" params
          = .error (.malformed "ov/semanticHighlightingUpdated" problem) := by
  have hrows := mapM_highlightEntry shaped
  have hwritten := mapM_writtenEntry nested
  refine ⟨fun params delivered => ?_, names_tableOf rows,
    fun listed bad params hmem noRow delivered => ?_⟩
  · rw [← filledRow_tableOf]
    refine decode_of_rows ?_
    rcases decodePayload_table "ov/semanticHighlightingUpdated" delivered with h | h
    · rw [h, hrows]
    · rw [h, hwritten, hrows]
  · have hbad := highlightEntry_eq_none noRow
    have hbadWritten : writtenEntry bad = none := by simp [writtenEntry, hbad]
    refine decode_of_no_rows ?_
    rcases decodePayload_table "ov/semanticHighlightingUpdated" delivered with h | h
    · rw [h, mapM_eq_none hmem hbad]
    · rw [h, mapM_eq_none hmem hbadWritten]

/-- A table with a pair, two objects, and rows without a pattern; and the same with a row of one
value in front. -/
theorem decode_table_mixed :
    ∃ values : List Json, values = [.list [.text "if", .text "keyword"],
        .list [.null, .text "number"],
        .object [("class", .text "string"), ("pattern", .text "")],
        .object [("note", .list [.null]), ("tokenClass", .text "comment")],
        .object [("pattern", .text "@"), ("range", .text "decorator")]]
      ∧ decode "ov/semanticHighlightingUpdated" (.text (Json.list values).render)
        = .ok (some (.highlighting [("if", .keyword), ("@", .custom "decorator")]))
      ∧ ∃ problem, decode "ov/semanticHighlightingUpdated" (.list (.list [.text "if"] :: values))
        = .error (.malformed "ov/semanticHighlightingUpdated" problem) := by
  refine ⟨_, rfl, ?_⟩
  generalize hvalues : [Json.list [.text "if", .text "keyword"], _, _, _, _] = values
  have shaped : List.Forall₂ (fun row v => IsRow row.1 row.2 v)
      [(some "if", "keyword"), (none, "number"), (some "", "string"), (none, "comment"),
        (some "@", "decorator")] values := by
    rw [← hvalues]
    exact .cons .pair (.cons .pair (.cons (.object (Or.inl rfl) rfl)
      (.cons (.object (Or.inr ⟨rfl, rfl⟩) rfl) (.cons (.object (Or.inl rfl) rfl) .nil))))
  have hplain : ∀ v ∈ values, Json.Plain 126 v := by
    rw [← hvalues]
    simp only [List.forall_mem_cons, List.not_mem_nil, false_imp_iff, implies_true, and_true]
    refine ⟨.list ?_, .list ?_, Json.plain_pair (by decide) (.text _) (.text _),
      Json.plain_pair (by decide) (.list ?_) (.text _),
      Json.plain_pair (by decide) (.text _) (.text _)⟩
    · simpa using ⟨.text _, .text _⟩
    · simpa using ⟨.null, .text _⟩
    · simpa using .null
  have hnested : ∀ v ∈ values, v.depth < depthLimit := fun v hv =>
    Nat.lt_succ_of_le (hplain v hv).depth_le
  have hbad : ∀ pattern name, ¬ IsRow pattern name (.list [.text "if"]) := by
    intro pattern name row
    generalize hv : Json.list [.text "if"] = v at row
    cases row with
    | pair => simp at hv
    | object => cases hv
  obtain ⟨decoded, -, refused⟩ := decode_table shaped hnested
  exact ⟨decoded _ (delivered_render (.list hplain)),
    refused _ _ _ List.mem_cons_self hbad .whole⟩

end ServerNotification

end SurfaceBridge
