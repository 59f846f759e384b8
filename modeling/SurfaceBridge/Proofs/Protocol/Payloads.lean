import SurfaceBridge.Proofs.Json.Sides
import SurfaceBridge.Protocol.ServerNotification

set_option autoImplicit false

/-! # Payloads in two forms

The payload of a table or of generated code may be sent as it is or as a text that holds it.
`decode_stringified` says that this makes no difference to what is decoded, nor to whether it is
refused, for payloads of any shape.
-/

namespace SurfaceBridge

open Json (Plain depthLimit)

theorem agrees_table : (Json.Decoder.list highlightDecoder).Agrees :=
  Json.Decoder.agrees_list (Json.Decoder.agrees_judged _)

theorem agrees_code : CodeDraft.schema.decoder.Agrees := by
  refine CodeDraft.schema.agrees_decoder ?_ rfl
  have hfield : ∀ names get put, (Json.Field.ofDecoder names false Json.Decoder.text get put :
      Json.Field CodeDraft).Agrees :=
    fun names => Json.Field.agrees_ofDecoder Json.Decoder.agrees_text names false
  intro f hf
  simp only [CodeDraft.schema, List.mem_cons, List.not_mem_nil, or_false] at hf
  rcases hf with rfl | rfl <;> exact hfield _ _ _

theorem decodePayload_text {α : Type} (d : Json.Decoder α) (method text : String) :
    decodePayload d method (.text text)
      = (d.decode text).mapError fun e => .malformed method e.problem := by
  unfold decodePayload
  dsimp only
  cases d.decode text <;> rfl

theorem decodePayload_of_not_text {α : Type} (d : Json.Decoder α) (method : String) {v : Json}
    (notText : ∀ s, v ≠ .text s) :
    decodePayload d method v
      = (d.fromValue v).mapError fun m => .malformed method (.mismatch m) := by
  unfold decodePayload
  cases v with
  | text s => exact absurd rfl (notText s)
  | _ =>
      dsimp only
      cases d.fromValue _ <;> rfl

theorem decodePayload_error {α : Type} {d : Json.Decoder α} {method : String} {params : Json}
    {p : PayloadError} (h : decodePayload d method params = .error p) :
    ∃ problem, p = .malformed method problem := by
  unfold decodePayload at h
  split at h <;> split at h <;> cases h <;> exact ⟨_, rfl⟩

/-- A payload and the text that holds it are decoded to the same, or both are refused. -/
theorem decodePayload_render {α : Type} {d : Json.Decoder α} (agrees : d.Agrees) (method : String)
    {v : Json} (plain : Plain depthLimit v) (notText : ∀ s, v ≠ .text s) :
    (∃ a, decodePayload d method v = .ok a ∧ decodePayload d method (.text v.render) = .ok a)
      ∨ ∃ p q, decodePayload d method v = .error (.malformed method p)
        ∧ decodePayload d method (.text v.render) = .error (.malformed method q) := by
  rw [decodePayload_of_not_text d method notText, decodePayload_text]
  rcases Json.Decoder.decode_render agrees plain with ⟨a, hv, ht⟩ | ⟨m, e, hv, ht⟩
  · exact Or.inl ⟨a, by rw [hv]; rfl, by rw [ht]; rfl⟩
  · exact Or.inr ⟨.mismatch m, e.problem, by rw [hv]; rfl, by rw [ht]; rfl⟩

namespace ServerNotification

theorem decode_highlighting (params : Json) :
    decode "ov/semanticHighlightingUpdated" params
      = (decodePayload (.list highlightDecoder) "ov/semanticHighlightingUpdated" params).map
        fun rows => some (.highlighting (rows.filterMap filledRow)) := rfl

theorem decode_generatedCode (params : Json) :
    decode "ov/generatedCodeUpdated" params
      = (decodePayload CodeDraft.schema.decoder "ov/generatedCodeUpdated" params).map
        fun code => some (.generatedCode code.1 code.2) := rfl

theorem method_of_decode {method : String} {params : Json}
    {n : ServerNotification} (h : decode method params = .ok (some n)) : n.method = method := by
  unfold decode at h
  split at h
  · cases hd : decodePayload (.list highlightDecoder) "ov/semanticHighlightingUpdated" params with
    | error p => simp [hd, Except.map] at h
    | ok rows =>
        simp only [hd, Except.map, Except.ok.injEq, Option.some.injEq] at h
        rw [← h]
        rfl
  · cases hd : decodePayload CodeDraft.schema.decoder "ov/generatedCodeUpdated" params with
    | error p => simp [hd, Except.map] at h
    | ok code =>
        simp only [hd, Except.map, Except.ok.injEq, Option.some.injEq] at h
        rw [← h]
        rfl
  · split at h <;> cases h
    rfl
  · unfold messageOf at h
    dsimp only at h
    split at h <;> cases h
    rfl
  · unfold messageOf at h
    dsimp only at h
    split at h <;> cases h
    rfl
  · cases h

/-- A value that is no text, and the text that writes it, are the same payload: both decode to the
same notification, or both are malformed. -/
theorem decode_stringified (v : Json) (plain : Plain depthLimit v) (notText : ∀ s, v ≠ .text s)
    (method : String)
    (decoded : method = "ov/semanticHighlightingUpdated" ∨ method = "ov/generatedCodeUpdated") :
    (∃ n, decode method v = .ok (some n) ∧ decode method (.text v.render) = .ok (some n))
      ∨ ∃ p q, decode method v = .error (.malformed method p)
        ∧ decode method (.text v.render) = .error (.malformed method q) := by
  rcases decoded with rfl | rfl
  · rw [decode_highlighting, decode_highlighting]
    rcases decodePayload_render agrees_table "ov/semanticHighlightingUpdated" plain notText with
      ⟨rows, hv, ht⟩ | ⟨p, q, hv, ht⟩
    · rw [hv, ht]
      exact Or.inl ⟨_, rfl, rfl⟩
    · rw [hv, ht]
      exact Or.inr ⟨p, q, rfl, rfl⟩
  · rw [decode_generatedCode, decode_generatedCode]
    rcases decodePayload_render agrees_code "ov/generatedCodeUpdated" plain notText with
      ⟨code, hv, ht⟩ | ⟨p, q, hv, ht⟩
    · rw [hv, ht]
      exact Or.inl ⟨_, rfl, rfl⟩
    · rw [hv, ht]
      exact Or.inr ⟨p, q, rfl, rfl⟩

/-- A row with another name for its class and a member that nobody knows. -/
theorem decode_stringified_row :
    ∃ v : Json, v = .list [.object [("class", .text "keyword"), ("note", .list [.null]),
        ("pattern", .text "if")]]
      ∧ decode "ov/semanticHighlightingUpdated" (.text v.render)
        = .ok (some (.highlighting [("if", .keyword)])) := by
  refine ⟨_, rfl, ?_⟩
  have hrow : Plain 126 (.object [("class", .text "keyword"), ("note", .list [.null]),
      ("pattern", .text "if")]) := by
    refine .object ?_ ?_
    · simp only [Dictionary.Sorted, List.pairwise_cons, List.mem_cons, List.not_mem_nil, or_false,
        forall_eq_or_imp, forall_eq, false_imp_iff, implies_true, List.Pairwise.nil, and_true]
      decide
    · intro m hm
      simp only [List.mem_cons, List.not_mem_nil, or_false] at hm
      rcases hm with rfl | rfl | rfl
      · exact .text _
      · refine .list ?_
        simpa using .null
      · exact .text _
  have hplain := Plain.list fun v hv => (List.mem_singleton.1 hv ▸ hrow : Plain 126 v)
  have hvalue : decode "ov/semanticHighlightingUpdated" (.list [.object
      [("class", .text "keyword"), ("note", .list [.null]), ("pattern", .text "if")]])
        = .ok (some (.highlighting [("if", .keyword)])) := by
    cbv
  rcases decode_stringified _ hplain (by simp) "ov/semanticHighlightingUpdated" (Or.inl rfl) with
    ⟨n, hv, ht⟩ | ⟨p, q, hv, -⟩
  · rw [hvalue] at hv
    cases hv
    exact ht
  · rw [hvalue] at hv
    cases hv

end ServerNotification

end SurfaceBridge
