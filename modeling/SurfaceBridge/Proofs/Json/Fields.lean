import SurfaceBridge.Dictionary
import SurfaceBridge.Json.Decoder

set_option autoImplicit false

/-! # What a record takes from a value

The value of a field stands under its name in an object and at its index in a list (`Json.at?`). A
record under construction has a place for each of its fields. If a schema has a field with a place
of its own (`Schema.Keeps`), this place has afterwards what the decoder of the field makes of its
value, and it is empty if there is no such value (`Schema.exists_holds`). Neither the number of the
other fields nor the order of the members matters, and the same goes for records within records
(`Schema.Keeps.holds_find?`).
-/

namespace SurfaceBridge

namespace Json

/-- Where the value of a field stands: its name in an object and its index in a list. -/
structure Slot where
  name : String
  index : Nat

/-- The value of a field. -/
def at? (slot : Slot) : Json → Option Json
  | .object members => Dictionary.lookup slot.name members
  | .list items => items[slot.index]?
  | _ => none

/-- The value of a field of a record within records. -/
def find? : List Slot → Json → Option Json
  | [], v => some v
  | slot :: path, v => (v.at? slot).bind (find? path)

theorem find?_append (path : List Slot) (slot : Slot) (v : Json) :
    find? (path ++ [slot]) v = (find? path v).bind (at? slot) := by
  induction path generalizing v with
  | nil =>
      show (v.at? slot).bind some = v.at? slot
      cases v.at? slot <;> rfl
  | cons s path ih =>
      have hrest : find? (path ++ [slot]) = fun w => (find? path w).bind (at? slot) := funext ih
      show (v.at? s).bind (find? (path ++ [slot])) = ((v.at? s).bind (find? path)).bind (at? slot)
      rw [hrest, Option.bind_assoc]

variable {σ α β : Type}

/-- What a decoder makes of a value, if there is one. -/
inductive Decoder.Holds (d : Decoder β) : Option Json → Option β → Prop
  | leftOut : Holds d none none
  | given {v : Json} {b : β} (decodes : d.fromValue v = .ok b) : Holds d (some v) (some b)

/-- A field that does not have a name and that changes nothing under `get`. -/
structure Field.Spares (f : Field σ) (name : String) (get : σ → Option β) : Prop where
  name_not_mem : name ∉ f.names
  get_eq : ∀ {state after : σ} {v : Json}, f.fromValue state v = .ok after → get after = get state

theorem Field.fromValue_ofDecoder {names : List String} {isOptional : Bool} {d : Decoder α}
    {place : σ → Option α} {put : α → σ → σ} {state after : σ} {v : Json}
    (h : (Field.ofDecoder names isOptional d place put).fromValue state v = .ok after) :
    ∃ a, d.fromValue v = .ok a ∧ put a state = after := by
  have hmap : (d.fromValue v).map (fun a => put a state) = .ok after := h
  cases hv : d.fromValue v with
  | error m =>
      rw [hv] at hmap
      cases hmap
  | ok a =>
      rw [hv] at hmap
      cases hmap
      exact ⟨a, rfl, rfl⟩

theorem Field.spares_ofDecoder {names : List String} {isOptional : Bool} {d : Decoder α}
    {place : σ → Option α} {put : α → σ → σ} {name : String} {get : σ → Option β}
    (notMem : name ∉ names) (apart : ∀ a state, get (put a state) = get state) :
    (Field.ofDecoder names isOptional d place put).Spares name get := by
  refine ⟨notMem, fun h => ?_⟩
  obtain ⟨a, -, rfl⟩ := fromValue_ofDecoder h
  exact apart a _

theorem Field.forall_spares_cons {names : List String} {isOptional : Bool} {d : Decoder α}
    {place : σ → Option α} {put : α → σ → σ} {name : String} {get : σ → Option β}
    {fs : List (Field σ)} (notMem : name ∉ names) (apart : ∀ a state, get (put a state) = get state)
    (spares : ∀ f ∈ fs, f.Spares name get) :
    ∀ f ∈ Field.ofDecoder names isOptional d place put :: fs, f.Spares name get :=
  List.forall_mem_cons.2 ⟨spares_ofDecoder notMem apart, spares⟩

namespace Schema

/-- A schema has a field at a slot that is decoded by `d`, has its place under `get`, and may be
left out. No other field has its name or touches its place. -/
structure Keeps (schema : Schema σ α) (slot : Slot) (d : Decoder β) (get : σ → Option β) :
    Prop where
  own : ∃ put, schema.fields[slot.index]? = some (.ofDecoder [slot.name] true d get put)
    ∧ ∀ b state, get (put b state) = some b
  others : ∀ f ∈ schema.fields.take slot.index ++ schema.fields.drop (slot.index + 1),
    f.Spares slot.name get
  start : get schema.start = none

namespace Keeps

variable {schema : Schema σ α} {slot : Slot} {d : Decoder β} {get : σ → Option β}

theorem exists_fields (keeps : schema.Keeps slot d get) :
    ∃ before put after, schema.fields = before ++ .ofDecoder [slot.name] true d get put :: after
      ∧ before.length = slot.index ∧ (∀ f ∈ before, f.Spares slot.name get)
      ∧ (∀ f ∈ after, f.Spares slot.name get) ∧ ∀ b state, get (put b state) = some b := by
  obtain ⟨put, hput, hget⟩ := keeps.own
  obtain ⟨hlt, hown⟩ := List.getElem?_eq_some_iff.1 hput
  refine ⟨schema.fields.take slot.index, put, schema.fields.drop (slot.index + 1), ?_,
    List.length_take_of_le (Nat.le_of_lt hlt),
    fun f hf => keeps.others f (List.mem_append_left _ hf),
    fun f hf => keeps.others f (List.mem_append_right _ hf), hget⟩
  rw [← hown, ← List.drop_eq_getElem_cons hlt, List.take_append_drop]

/-! ## Objects -/

theorem find?_fields (keeps : schema.Keeps slot d get) :
    ∃ put, schema.fields.find? (fun f => f.names.contains slot.name)
        = some (.ofDecoder [slot.name] true d get put)
      ∧ ∀ b state, get (put b state) = some b := by
  obtain ⟨before, put, after, hfields, -, hbefore, -, hget⟩ := keeps.exists_fields
  have hnone : before.find? (fun f => f.names.contains slot.name) = none :=
    List.find?_eq_none.2 fun f hf => by simpa using (hbefore f hf).name_not_mem
  refine ⟨put, ?_, hget⟩
  rw [hfields, List.find?_append, hnone, Option.none_or]
  exact List.find?_cons_of_pos (by simp [Field.ofDecoder])

theorem spares_of_ne (keeps : schema.Keeps slot d get) {name : String} (ne : slot.name ≠ name)
    {f : Field σ} (found : schema.fields.find? (fun f => f.names.contains name) = some f) :
    f.Spares slot.name get := by
  obtain ⟨before, put, after, hfields, -, hbefore, hafter, -⟩ := keeps.exists_fields
  have hname : name ∈ f.names := by simpa using List.find?_some found
  have hmem := List.mem_of_find?_eq_some found
  rw [hfields] at hmem
  rcases List.mem_append.1 hmem with hf | hf
  · exact hbefore f hf
  · rcases List.mem_cons.1 hf with rfl | hf
    · exact absurd (List.mem_singleton.1 hname).symm ne
    · exact hafter f hf

/-- A member fills the place if it has the name of the field, and otherwise leaves it as it is. A
second member with the name is refused, so the place has been empty. -/
theorem takeMembers_cons (keeps : schema.Keeps slot d get) {name : String} {v : Json}
    {members : List (String × Json)} {state after : σ}
    (h : schema.takeMembers ((name, v) :: members) state = .ok after) :
    ∃ next, schema.takeMembers members next = .ok after
      ∧ (slot.name = name ∧ get state = none ∧ d.Holds (some v) (get next)
        ∨ slot.name ≠ name ∧ get next = get state) := by
  rw [takeMembers] at h
  by_cases heq : slot.name = name
  · subst heq
    obtain ⟨put, hfind, hget⟩ := keeps.find?_fields
    simp only [hfind] at h
    split at h
    · cases h
    next hset =>
      have hnone : get state = none := by simpa [Field.ofDecoder] using hset
      cases hnext : (Field.ofDecoder [slot.name] true d get put).fromValue state v with
      | error m =>
          rw [hnext] at h
          cases h
      | ok next =>
          rw [hnext] at h
          obtain ⟨b, hb, rfl⟩ := Field.fromValue_ofDecoder hnext
          refine ⟨put b state, h, Or.inl ⟨rfl, hnone, ?_⟩⟩
          rw [hget]
          exact .given hb
  · cases hfind : schema.fields.find? (fun f => f.names.contains name) with
    | none =>
        rw [hfind] at h
        exact ⟨state, h, Or.inr ⟨heq, rfl⟩⟩
    | some f =>
        simp only [hfind] at h
        split at h
        · cases h
        · cases hnext : f.fromValue state v with
          | error m =>
              rw [hnext] at h
              cases h
          | ok next =>
              rw [hnext] at h
              have hget := (keeps.spares_of_ne heq hfind).get_eq hnext
              exact ⟨next, h, Or.inr ⟨heq, hget⟩⟩

theorem get_takeMembers (keeps : schema.Keeps slot d get) {b : β}
    {members : List (String × Json)} {state after : σ} (filled : get state = some b)
    (h : schema.takeMembers members state = .ok after) : get after = some b := by
  induction members generalizing state with
  | nil =>
      cases h
      exact filled
  | cons m members ih =>
      obtain ⟨next, hnext, ⟨-, hempty, -⟩ | ⟨-, hget⟩⟩ := keeps.takeMembers_cons h
      · rw [filled] at hempty
        cases hempty
      · exact ih (hget.trans filled) hnext

theorem holds_takeMembers (keeps : schema.Keeps slot d get) {members : List (String × Json)}
    {state after : σ} (empty : get state = none)
    (h : schema.takeMembers members state = .ok after) :
    d.Holds (Dictionary.lookup slot.name members) (get after) := by
  induction members generalizing state with
  | nil =>
      cases h
      rw [empty]
      exact .leftOut
  | cons m members ih =>
      obtain ⟨name, v⟩ := m
      obtain ⟨next, hnext, ⟨heq, -, hv⟩ | ⟨hne, hget⟩⟩ := keeps.takeMembers_cons h
      · rw [Dictionary.lookup, if_pos heq]
        -- the place is filled now, so the members behind this one leave it as it is
        cases hb : get next with
        | none =>
            rw [hb] at hv
            cases hv
        | some b =>
            rw [keeps.get_takeMembers hb hnext, ← hb]
            exact hv
      · rw [Dictionary.lookup, if_neg hne]
        exact ih (hget.trans empty) hnext

/-! ## Lists -/

theorem get_takeFields {fs : List (Field σ)} (spares : ∀ f ∈ fs, f.Spares slot.name get)
    {i : Nat} {items : List Json} {state after : σ}
    (h : schema.takeFields fs i items state = .ok after) : get after = get state := by
  induction fs generalizing i items state with
  | nil =>
      cases h
      rfl
  | cons f fs ih =>
      have hrest : ∀ g ∈ fs, g.Spares slot.name get := fun g hg =>
        spares g (List.mem_cons_of_mem f hg)
      cases items with
      | nil =>
          rw [takeFields] at h
          split at h
          · exact ih hrest h
          · cases h
      | cons v items =>
          rw [takeFields] at h
          cases hnext : f.fromValue state v with
          | error m =>
              rw [hnext] at h
              cases h
          | ok next =>
              rw [hnext] at h
              exact (ih hrest h).trans ((spares f List.mem_cons_self).get_eq hnext)

theorem holds_takeFields {before after : List (Field σ)} {put : β → σ → σ}
    (sparesBefore : ∀ f ∈ before, f.Spares slot.name get)
    (sparesAfter : ∀ f ∈ after, f.Spares slot.name get)
    (put_get : ∀ b state, get (put b state) = some b) {i : Nat} {items : List Json}
    {state final : σ} (empty : get state = none)
    (h : schema.takeFields (before ++ .ofDecoder [slot.name] true d get put :: after) i items state
      = .ok final) :
    d.Holds items[before.length]? (get final) := by
  induction before generalizing i items state with
  | nil =>
      rw [List.nil_append] at h
      cases items with
      | nil =>
          rw [takeFields] at h
          have hrest : schema.takeFields after i [] state = .ok final := h
          rw [get_takeFields sparesAfter hrest, empty]
          exact .leftOut
      | cons v items =>
          rw [takeFields] at h
          cases hnext : (Field.ofDecoder [slot.name] true d get put).fromValue state v with
          | error m =>
              rw [hnext] at h
              cases h
          | ok next =>
              rw [hnext] at h
              obtain ⟨b, hb, rfl⟩ := Field.fromValue_ofDecoder hnext
              rw [get_takeFields sparesAfter h, put_get]
              exact .given hb
  | cons f before ih =>
      have hrest : ∀ g ∈ before, g.Spares slot.name get := fun g hg =>
        sparesBefore g (List.mem_cons_of_mem f hg)
      rw [List.cons_append] at h
      cases items with
      | nil =>
          rw [takeFields] at h
          split at h
          · exact ih hrest empty h
          · cases h
      | cons v items =>
          rw [takeFields] at h
          cases hnext : f.fromValue state v with
          | error m =>
              rw [hnext] at h
              cases h
          | ok next =>
              rw [hnext] at h
              have hget := (sparesBefore f List.mem_cons_self).get_eq hnext
              exact ih hrest (hget.trans empty) h

end Keeps

/-! ## Records -/

/-- A record is finished from what the decoders of its fields make of their values. -/
theorem exists_holds {schema : Schema σ α} {v : Json} {a : α} (h : schema.take v = .ok a) :
    ∃ state, schema.finish state = .ok a ∧ ∀ {β : Type} {slot : Slot} {d : Decoder β}
      {get : σ → Option β}, schema.Keeps slot d get → d.Holds (v.at? slot) (get state) := by
  cases v with
  | object members =>
      rw [take] at h
      cases hstate : schema.takeMembers members schema.start with
      | error m =>
          rw [hstate] at h
          cases h
      | ok state =>
          rw [hstate] at h
          exact ⟨state, h, fun keeps => keeps.holds_takeMembers keeps.start hstate⟩
  | list items =>
      rw [take] at h
      cases hstate : schema.takeFields schema.fields 0 (items.take schema.fields.length)
          schema.start with
      | error m =>
          rw [hstate] at h
          cases h
      | ok state =>
          rw [hstate] at h
          dsimp only at h
          cases ha : schema.finish state with
          | error m =>
              rw [ha] at h
              cases h
          | ok b =>
              rw [ha] at h
              dsimp only at h
              split at h
              · cases h
                refine ⟨state, ha, fun {β slot d get} keeps => ?_⟩
                obtain ⟨before, put, after, hfields, hlength, hbefore, hafter, hget⟩ :=
                  keeps.exists_fields
                -- items beyond the last field are judged only later, and none is at the index
                have hlt : slot.index < schema.fields.length := by
                  rw [hfields, List.length_append, List.length_cons, ← hlength]
                  omega
                have hitem : (items.take schema.fields.length)[slot.index]?
                    = items[slot.index]? := List.getElem?_take_of_lt hlt
                show d.Holds items[slot.index]? (get state)
                rw [← hitem, ← hlength]
                rw [hfields] at hstate
                rw [hfields]
                exact Keeps.holds_takeFields hbefore hafter hget keeps.start hstate
              · cases h
  | _ => cases h

/-- A field of a record within records, if the record is all that is made of its fields. Where the
record is left out, the field is too. -/
theorem Keeps.holds_find? {schema : Schema σ σ} (finish : ∀ state, schema.finish state = .ok state)
    {slot : Slot} {d : Decoder β} {get : σ → Option β} (keeps : schema.Keeps slot d get)
    {path : List Slot} {v : Json} {record : Option σ}
    (h : schema.decoder.Holds (v.find? path) record) :
    d.Holds (v.find? (path ++ [slot])) (get (record.getD schema.start)) := by
  rw [find?_append]
  generalize v.find? path = w at h
  cases h with
  | leftOut =>
      rw [Option.getD_none, keeps.start]
      exact .leftOut
  | given decodes =>
      obtain ⟨state, hstate, hholds⟩ := exists_holds decodes
      rw [finish] at hstate
      cases hstate
      exact hholds keeps

end Schema

end Json

end SurfaceBridge
