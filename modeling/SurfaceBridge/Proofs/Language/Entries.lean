import SurfaceBridge.Language.Registry
import SurfaceBridge.Proofs.Text.ByteOrder

set_option autoImplicit false

/-! # The entries of a registry

The languages of a registry can be read off the operations on it: under an id stands the language
that was registered last with it, after the changes that have been made to it since. What an
operation does to the language with an id is said by `get?_perform`, and no operation disturbs the
order of the ids or puts a language under an id that is not its own (`InOrder`).

An operation that changes a language in place gives it other comments and other aliases, so the id
cannot be lost.
-/

namespace SurfaceBridge

/-- A language with other comments and other aliases, which may depend on what it was before. -/
def Language.revise (f : Language → CommentSyntax × List String) (l : Language) : Language :=
  { l with comments := (f l).1, aliases := (f l).2 }

/-- An operation on a registry. -/
inductive RegistryOperation where
  | register (l : Language)
  | edit (id : String) (f : Language → CommentSyntax × List String)
  | setLineComment (id token : String)

namespace RegistryOperation

/-- The language that an operation registers with an id. -/
def registered? (id : String) : RegistryOperation → Option Language
  | .register l => if l.id = id then some l else none
  | _ => none

/-- How an operation changes the language with an id. -/
def revision? (id : String) : RegistryOperation → Option (Language → Language)
  | .register _ => none
  | .edit other f => if other = id then some (.revise f) else none
  | .setLineComment other token => if other = id then some (.withLineComment token) else none

/-- The language with an id after the changes that some operations make to it, in their order. -/
def changed (id : String) (ops : List RegistryOperation) (l : Language) : Language :=
  (ops.filterMap (revision? id)).foldl (fun l f => f l) l

theorem changed_cons_none {id : String} {op : RegistryOperation} (h : op.revision? id = none)
    (ops : List RegistryOperation) (l : Language) :
    changed id (op :: ops) l = changed id ops l := by
  rw [changed, List.filterMap_cons_none h, changed]

theorem changed_cons_some {id : String} {op : RegistryOperation} {f : Language → Language}
    (h : op.revision? id = some f) (ops : List RegistryOperation) (l : Language) :
    changed id (op :: ops) l = changed id ops (f l) := by
  rw [changed, List.filterMap_cons_some h, List.foldl_cons, changed]

/-- A change keeps the id of the language. -/
theorem id_of_change {id : String} {op : RegistryOperation} {f : Language → Language}
    (h : op.revision? id = some f) (l : Language) : (f l).id = l.id := by
  cases op with
  | register k => cases h
  | edit other g =>
      obtain ⟨-, hf⟩ := Option.ite_none_right_eq_some.1 h
      cases hf
      rfl
  | setLineComment other token =>
      obtain ⟨-, hf⟩ := Option.ite_none_right_eq_some.1 h
      cases hf
      rfl

/-- Nothing is registered with an id by operations of which none registers a language that has
it. -/
theorem registered?_eq_none {id : String} {ops : List RegistryOperation}
    (h : ∀ l, .register l ∈ ops → l.id ≠ id) : ∀ op ∈ ops, op.registered? id = none := by
  intro op hop
  cases op with
  | register l => exact if_neg (h l hop)
  | edit other f => rfl
  | setLineComment other token => rfl

end RegistryOperation

namespace LanguageRegistry

open RegistryOperation (registered? revision? changed)

/-- A registry after an operation. -/
def perform (op : RegistryOperation) (r : LanguageRegistry) : LanguageRegistry :=
  match op with
  | .register l => r.register l
  | .edit id f => r.edit id (.revise f)
  | .setLineComment id token => (r.setLineComment id token).2

/-- A registry after some operations. -/
def after (ops : List RegistryOperation) (r : LanguageRegistry) : LanguageRegistry :=
  ops.foldl (fun r op => r.perform op) r

variable (r : LanguageRegistry)

theorem after_cons (op : RegistryOperation) (ops : List RegistryOperation) :
    r.after (op :: ops) = (r.perform op).after ops := rfl

theorem after_append (ops more : List RegistryOperation) :
    r.after (ops ++ more) = (r.after ops).after more := List.foldl_append

/-! ## Single languages -/

theorem get?_register (l : Language) (id : String) :
    (r.register l).get? id = if id = l.id then some l else r.get? id :=
  Dictionary.lookup_insert ..

theorem get?_edit (id other : String) (f : Language → Language) :
    (r.edit id f).get? other = if other = id then (r.get? other).map f else r.get? other :=
  Dictionary.lookup_modify ..

/-- What an operation does to the language with an id: it registers another one, or changes it, or
leaves it alone. -/
theorem get?_perform (op : RegistryOperation) (id : String) :
    (r.perform op).get? id
      = match op.registered? id, op.revision? id with
        | some l, _ => some l
        | none, some f => (r.get? id).map f
        | none, none => r.get? id := by
  cases op with
  | register l =>
      show (r.register l).get? id = _
      rw [get?_register]
      by_cases h : id = l.id
      · simp [registered?, h]
      · simp [registered?, revision?, h, Ne.symm h]
  | edit other f =>
      show (r.edit other (.revise f)).get? id = _
      rw [get?_edit]
      by_cases h : id = other
      · simp [registered?, revision?, h]
      · simp [registered?, revision?, h, Ne.symm h]
  | setLineComment other token =>
      show (r.edit other (.withLineComment token)).get? id = _
      rw [get?_edit]
      by_cases h : id = other
      · simp [registered?, revision?, h]
      · simp [registered?, revision?, h, Ne.symm h]

/-- Without another registration a language is changed and nothing else. -/
theorem get?_after_of_not_registered {id : String} {ops : List RegistryOperation}
    (h : ∀ op ∈ ops, op.registered? id = none) :
    (r.after ops).get? id = (r.get? id).map (changed id ops) := by
  induction ops generalizing r with
  | nil => exact Option.map_id'.symm
  | cons op ops ih =>
      have hop : op.registered? id = none := h op List.mem_cons_self
      rw [after_cons, ih (r.perform op) fun op hop => h op (List.mem_cons_of_mem _ hop),
        get?_perform, hop]
      cases hchange : op.revision? id with
      | none =>
          refine congrArg (fun f => (r.get? id).map f) (funext fun l => ?_)
          exact (RegistryOperation.changed_cons_none hchange ops l).symm
      | some f =>
          show ((r.get? id).map f).map (changed id ops) = _
          rw [Option.map_map]
          refine congrArg (fun f => (r.get? id).map f) (funext fun l => ?_)
          exact (RegistryOperation.changed_cons_some hchange ops l).symm

/-- Under the id of a language that was registered stands this language with its changes, unless
another one has been registered since. -/
theorem get?_after_register (before later : List RegistryOperation) {l : Language}
    (last : ∀ k, .register k ∈ later → k.id ≠ l.id) :
    (r.after (before ++ .register l :: later)).get? l.id = some (changed l.id later l) := by
  rw [after_append, after_cons,
    get?_after_of_not_registered _ (RegistryOperation.registered?_eq_none last)]
  show (((r.after before).register l).get? l.id).map _ = _
  rw [get?_register, if_pos rfl]
  rfl

/-! ## All ids -/

theorem mem_ids_iff {id : String} : id ∈ r.ids ↔ ∃ l, r.get? id = some l :=
  Dictionary.mem_keys_iff

theorem get?_eq_none {id : String} (h : id ∉ r.ids) : r.get? id = none :=
  Option.eq_none_iff_forall_ne_some.2 fun l hl => h (r.mem_ids_iff.2 ⟨l, hl⟩)

theorem exists_ite_map {α : Type} {p : Prop} [Decidable p] {f : α → α} {o : Option α} :
    (∃ a, (if p then o.map f else o) = some a) ↔ ∃ a, o = some a := by
  cases o <;> by_cases h : p <;> simp [h]

theorem mem_ids_perform {op : RegistryOperation} {id : String} :
    id ∈ (r.perform op).ids ↔ id ∈ r.ids ∨ ∃ l, op = .register l ∧ l.id = id := by
  rw [mem_ids_iff, mem_ids_iff]
  cases op with
  | register l =>
      show (∃ k, (r.register l).get? id = some k) ↔ _
      rw [get?_register]
      by_cases h : id = l.id
      · simp [h]
      · simp [h, Ne.symm h]
  | edit other f =>
      show (∃ k, (r.edit other (.revise f)).get? id = some k) ↔ _
      rw [get?_edit, exists_ite_map]
      simp
  | setLineComment other token =>
      show (∃ k, (r.edit other (.withLineComment token)).get? id = some k) ↔ _
      rw [get?_edit, exists_ite_map]
      simp

/-- The ids of a registry are those that it had and those of the languages registered since. -/
theorem mem_ids_after {ops : List RegistryOperation} {id : String} :
    id ∈ (r.after ops).ids ↔ id ∈ r.ids ∨ ∃ l, .register l ∈ ops ∧ l.id = id := by
  induction ops generalizing r with
  | nil => simp [after]
  | cons op ops ih =>
      rw [after_cons, ih, mem_ids_perform]
      constructor
      · rintro ((h | ⟨l, rfl, h⟩) | ⟨l, hl, h⟩)
        · exact Or.inl h
        · exact Or.inr ⟨l, List.mem_cons_self, h⟩
        · exact Or.inr ⟨l, List.mem_cons_of_mem _ hl, h⟩
      · rintro (h | ⟨l, hl, h⟩)
        · exact Or.inl (Or.inl h)
        · rcases List.mem_cons.1 hl with hl | hl
          · exact Or.inl (Or.inr ⟨l, hl.symm, h⟩)
          · exact Or.inr ⟨l, hl, h⟩

/-- A registry with its ids in order, in which each language stands under its own id. -/
structure InOrder : Prop where
  sorted : Dictionary.Sorted r.languages
  own : ∀ {id l}, r.get? id = some l → l.id = id

variable {r}

theorem InOrder.perform (h : r.InOrder) (op : RegistryOperation) : (r.perform op).InOrder where
  sorted := by
    cases op with
    | register l => exact Dictionary.sorted_insert l.id l h.sorted
    | edit id f => exact Dictionary.sorted_modify id _ h.sorted
    | setLineComment id token => exact Dictionary.sorted_modify id _ h.sorted
  own := by
    intro id l hl
    rw [get?_perform] at hl
    split at hl
    next k _ hregistered =>
      cases hl
      cases op with
      | register k =>
          obtain ⟨hid, hk⟩ := Option.ite_none_right_eq_some.1 hregistered
          cases hk
          exact hid
      | edit other f => cases hregistered
      | setLineComment other token => cases hregistered
    next f _ hchange =>
      obtain ⟨k, hk, rfl⟩ := Option.map_eq_some_iff.1 hl
      rw [RegistryOperation.id_of_change hchange]
      exact h.own hk
    next => exact h.own hl

theorem InOrder.after (h : r.InOrder) (ops : List RegistryOperation) : (r.after ops).InOrder := by
  induction ops generalizing r with
  | nil => exact h
  | cons op ops ih => exact ih (h.perform op)

theorem InOrder.ids_lt (h : r.InOrder) : r.ids.Pairwise (· < ·) := List.pairwise_map.2 h.sorted

theorem inOrder_empty : empty.InOrder := ⟨List.Pairwise.nil, fun h => (by cases h)⟩

/-! ## The token of line comments -/

/-- A registry before and after the token of line comments of a language has been replaced, and
whether the language was known. The token is the only thing that is replaced, also by an empty one,
which is no token for comments. -/
structure Relined (id token : String) (r : LanguageRegistry) (known : Bool)
    (s : LanguageRegistry) : Prop where
  known_iff : known = true ↔ id ∈ r.ids
  entry : ∀ l, r.get? id = some l → ∃ l', s.get? id = some l'
    ∧ l'.id = l.id ∧ l'.aliases = l.aliases
    ∧ l'.comments = ⟨some token, l.comments.blockStart, l.comments.blockEnd⟩
    ∧ (l'.comments.hasLine = true ↔ token ≠ "")
    ∧ l'.comments.hasBlock = l.comments.hasBlock
  others : ∀ other, other ≠ id → s.get? other = r.get? other
  ids : s.ids = r.ids
  unknown : id ∉ r.ids → s = r

/-- An edit of a language that is not known changes nothing. -/
theorem edit_of_unknown {id : String} (unknown : id ∉ r.ids) (f : Language → Language) :
    r.edit id f = r :=
  congrArg mk (Dictionary.modify_of_lookup f (r.get?_eq_none unknown))

theorem hasLine_withLine (token : String) (c : CommentSyntax) :
    (c.withLine token).hasLine = true ↔ token ≠ "" := by
  show (!token.isEmpty) = true ↔ _
  rw [Bool.not_eq_true', ← Bool.not_eq_true, String.isEmpty_iff]

theorem relined_setLineComment (r : LanguageRegistry) (id token : String) :
    Relined id token r (r.setLineComment id token).1 (r.setLineComment id token).2 where
  known_iff := by
    rw [mem_ids_iff]
    exact Option.isSome_iff_exists
  entry := by
    intro l hl
    refine ⟨l.withLineComment token, ?_, rfl, rfl, rfl, hasLine_withLine token l.comments, rfl⟩
    show (r.edit id (.withLineComment token)).get? id = _
    rw [get?_edit, if_pos rfl, hl]
    rfl
  others := by
    intro other hother
    show (r.edit id (.withLineComment token)).get? other = _
    rw [get?_edit, if_neg hother]
  ids := Dictionary.keys_modify ..
  unknown := fun unknown => edit_of_unknown unknown _

/-! ## Registries to begin with -/

/-- A registry to begin with, and the operations by which it has come about: an empty one, or the
one with the languages that are known from the start. -/
inductive Begins : LanguageRegistry → List RegistryOperation → Prop where
  | empty : Begins .empty []
  | initial : Begins .initial [.register .code, .register .schema]

theorem Begins.eq_after {founding : List RegistryOperation} (h : Begins r founding) :
    r = LanguageRegistry.empty.after founding := by
  cases h <;> rfl

/-- What a registry holds is what the operations on it say. Each id is there once, in the order of
the bytes, and it is there if a language has been registered with it. Under it stands the language
that was registered last with it, after the changes made to this language since and no others.
Replacing a token of line comments replaces this token, and only if the language is known; an
operation on a language that is not known does nothing. -/
theorem entries_of_operations {founding : List RegistryOperation} (begins : Begins r founding)
    (ops : List RegistryOperation) :
    (r.after ops).ids.Pairwise (fun a b => Text.bytes a < Text.bytes b)
      ∧ (r.after ops).ids.Nodup
      ∧ (∀ id, id ∈ (r.after ops).ids ↔ ∃ l, .register l ∈ founding ++ ops ∧ l.id = id)
      ∧ (∀ before l later, founding ++ ops = before ++ .register l :: later →
        (∀ k, .register k ∈ later → k.id ≠ l.id) →
        (r.after ops).get? l.id = some (changed l.id later l))
      ∧ (∀ id l, (r.after ops).get? id = some l → l.id = id)
      ∧ (∀ id token, Relined id token (r.after ops) ((r.after ops).setLineComment id token).1
        ((r.after ops).setLineComment id token).2)
      ∧ ∀ id f, id ∉ (r.after ops).ids → (r.after ops).edit id (.revise f) = r.after ops := by
  have hr : r.after ops = LanguageRegistry.empty.after (founding ++ ops) := by
    rw [after_append, ← begins.eq_after]
  have horder : (r.after ops).InOrder := by
    rw [hr]
    exact inOrder_empty.after (founding ++ ops)
  refine ⟨?bytes, ?once, fun id => ?mem, fun before l later hops last => ?entry,
    fun id l => horder.own, fun id token => relined_setLineComment _ id token,
    fun id f unknown => edit_of_unknown unknown _⟩
  case bytes => exact horder.ids_lt.imp Text.lt_iff_bytes_lt.1
  case once => exact horder.ids_lt.imp String.ne_of_lt
  case mem =>
      rw [hr, mem_ids_after]
      exact or_iff_right List.not_mem_nil
  case entry =>
      rw [hr, hops]
      exact get?_after_register _ before later last

/-- A language that is known from the start is replaced by another one, which is edited and then
gets an empty token. A language that is not known gets a token, too. -/
theorem entries_of_operations_replaced :
    ∃ ops, ops = [.setLineComment "ov" "%", .register ⟨"ov", .ofBlock "(*" "*)", []⟩,
        .edit "ov" fun l => (l.comments, l.aliases ++ ["Ov"]), .setLineComment "ov" "",
        .setLineComment "cobol" "*"]
      ∧ Begins .initial [.register .code, .register .schema]
      ∧ (initial.after ops).get? "ov" = some ⟨"ov", ⟨some "", some "(*", some "*)"⟩, ["Ov"]⟩
      ∧ (initial.after ops).get? "yaml" = some .schema
      ∧ "cobol" ∉ (initial.after ops).ids
      ∧ (initial.after ops).setLineComment "cobol" "*" = (false, initial.after ops) := by
  refine ⟨_, rfl, .initial, ?_⟩
  generalize hops : [RegistryOperation.setLineComment "ov" "%",
    .register ⟨"ov", .ofBlock "(*" "*)", []⟩,
    .edit "ov" fun l => (l.comments, l.aliases ++ ["Ov"]), .setLineComment "ov" "",
    .setLineComment "cobol" "*"] = ops
  obtain ⟨-, -, hmem, hentry, -, hrelined, -⟩ := entries_of_operations .initial ops
  have hcobol : "cobol" ∉ (initial.after ops).ids := by
    rw [hmem, ← hops]
    rintro ⟨l, hl, hid⟩
    simp only [List.cons_append, List.nil_append, List.mem_cons, List.not_mem_nil, or_false,
      reduceCtorEq, false_or, RegistryOperation.register.injEq] at hl
    rcases hl with rfl | rfl | rfl <;> exact absurd hid (by decide)
  have hknown := (hrelined "cobol" "*").known_iff
  refine ⟨?_, ?_, hcobol, Prod.ext ?_ ((hrelined "cobol" "*").unknown hcobol)⟩
  · refine (hentry [.register .code, .register .schema, .setLineComment "ov" "%"]
      ⟨"ov", .ofBlock "(*" "*)", []⟩ _ (by rw [← hops]; rfl) ?_).trans rfl
    intro k hk
    simp at hk
  · refine (hentry [.register .code] .schema _ (by rw [← hops]; rfl) ?_).trans rfl
    intro k hk
    have hk' : k = ⟨"ov", .ofBlock "(*" "*)", []⟩ := by simpa using hk
    rw [hk']
    decide
  · exact Bool.eq_false_iff.2 fun h => hcobol (hknown.1 h)

end LanguageRegistry

end SurfaceBridge
