import SurfaceBridge.Proofs.Editor.Saving

set_option autoImplicit false

/-! # The history of a content store

What a store holds, counts and has told its subscribers can all be read off the operations on it:
the last of them that concerns a key says what its value is, the writes among them are counted, and
each write makes a round of calls to those who have subscribed before it.

A name does not tell two subscribers apart, so a subscriber is known by its position among them, and
this is its position in each round (`round_of_subscriber`).
-/

namespace SurfaceBridge

/-- An operation on a content store. -/
inductive ContentOperation where
  | set (k : ContentKey) (value : String)
  | remove (k : ContentKey)
  | subscribe (name : String)

namespace ContentOperation

/-- What the value of a key is by an operation; nothing if it concerns another key or none. -/
def said? (k : ContentKey) : ContentOperation → Option (Option String)
  | .set l value => if l = k then some (some value) else none
  | .remove l => if l = k then some none else none
  | .subscribe _ => none

/-- The key and the value that an operation writes. -/
def write? : ContentOperation → Option (ContentKey × String)
  | .set k value => some (k, value)
  | _ => none

/-- The name under which somebody subscribes. -/
def subscriber? : ContentOperation → Option String
  | .subscribe name => some name
  | _ => none

/-- What some operations write, in their order. -/
def writes (ops : List ContentOperation) : List (ContentKey × String) := ops.filterMap write?

/-- Who subscribes in the course of some operations. -/
def joined (ops : List ContentOperation) : List String := ops.filterMap subscriber?

/-- The calls that operations make, a round for each write: everybody who has subscribed by then is
called once, in the order in which they have come. There are some subscribers at the beginning. -/
def rounds (names : List String) : List ContentOperation → List (List ContentCall)
  | [] => []
  | .set k value :: ops => (names.map fun name => ⟨name, k, value⟩) :: rounds names ops
  | .remove _ :: ops => rounds names ops
  | .subscribe name :: ops => rounds (names ++ [name]) ops

theorem length_rounds (names : List String) (ops : List ContentOperation) :
    (rounds names ops).length = (writes ops).length := by
  induction ops generalizing names with
  | nil => rfl
  | cons op ops ih =>
      cases op with
      | set k value => exact congrArg (· + 1) (ih names)
      | remove k => exact ih names
      | subscribe name => exact ih (names ++ [name])

/-- Somebody who has subscribed is called once in each round. -/
theorem rounds_of_subscribed {names : List String} {i : Nat} {name : String}
    (subscribed : names[i]? = some name) (ops : List ContentOperation) :
    (rounds names ops).map (fun round => round[i]?)
      = (writes ops).map fun w => some ⟨name, w.1, w.2⟩ := by
  induction ops generalizing names with
  | nil => rfl
  | cons op ops ih =>
      cases op with
      | set k value =>
          have hcall : (names.map fun name => (⟨name, k, value⟩ : ContentCall))[i]?
              = some ⟨name, k, value⟩ := by
            rw [List.getElem?_map, subscribed]
            rfl
          rw [rounds, List.map_cons, hcall, ih subscribed]
          rfl
      | remove k => exact ih subscribed
      | subscribe other =>
          refine ih ?_
          rw [List.getElem?_append_left (List.getElem?_eq_some_iff.1 subscribed).1, subscribed]

/-- Nobody is called before they have subscribed. The rounds at the beginning are too short for
whoever comes next. -/
theorem rounds_append (names : List String) (before later : List ContentOperation) :
    (rounds names (before ++ later)).map
        (fun round => round[names.length + (joined before).length]?)
      = List.replicate (writes before).length none
        ++ (rounds (names ++ joined before) later).map
          fun round => round[names.length + (joined before).length]? := by
  induction before generalizing names with
  | nil => simp [writes, joined]
  | cons op before ih =>
      cases op with
      | set k value =>
          have hshort : (names.map fun name => (⟨name, k, value⟩ : ContentCall))[
              names.length + (joined before).length]? = none :=
            List.getElem?_eq_none (by simp)
          show (names.map fun name => (⟨name, k, value⟩ : ContentCall))[
              names.length + (joined before).length]?
            :: (rounds names (before ++ later)).map
              (fun round => round[names.length + (joined before).length]?) = _
          rw [hshort, ih names]
          rfl
      | remove k => exact ih names
      | subscribe name =>
          have hrest := ih (names ++ [name])
          have hlength : (names ++ [name]).length + (joined before).length
              = names.length + (joined (.subscribe name :: before)).length := by
            have hcons : joined (.subscribe name :: before) = name :: joined before := rfl
            rw [hcons, List.length_append, List.length_singleton, List.length_cons]
            omega
          rw [hlength, List.append_assoc] at hrest
          exact hrest

/-- In the round of a write, a subscriber is called if it has come before the write. -/
theorem round_of_subscriber (before : List ContentOperation) (name : String)
    (later : List ContentOperation) :
    (rounds [] (before ++ .subscribe name :: later)).map
        (fun round => round[(joined before).length]?)
      = List.replicate (writes before).length none
        ++ (writes later).map fun w => some ⟨name, w.1, w.2⟩ := by
  have hrounds := rounds_append [] before (.subscribe name :: later)
  have hposition : (joined before ++ [name])[(joined before).length]? = some name := by
    simp
  rw [List.length_nil, Nat.zero_add, List.nil_append, rounds,
    rounds_of_subscribed hposition later] at hrounds
  exact hrounds

end ContentOperation

namespace ContentStore

open ContentOperation (rounds round_of_subscriber length_rounds said? joined writes)

/-! ## Runs -/

/-- A store after an operation. -/
def perform (op : ContentOperation) (c : ContentStore) : ContentStore :=
  match op with
  | .set k value => c.set k value
  | .remove k => (c.remove k).2
  | .subscribe name => c.subscribe name

/-- A store after some operations. -/
def after (ops : List ContentOperation) (c : ContentStore) : ContentStore :=
  ops.foldl (fun c op => c.perform op) c

variable (c : ContentStore)

theorem after_cons (op : ContentOperation) (ops : List ContentOperation) :
    c.after (op :: ops) = (c.perform op).after ops := rfl

theorem after_append (ops more : List ContentOperation) :
    c.after (ops ++ more) = (c.after ops).after more := List.foldl_append

theorem get?_perform (op : ContentOperation) (k : ContentKey) :
    (c.perform op).get? k = (op.said? k).getD (c.get? k) := by
  cases op with
  | set l value =>
      show (c.values.put l (some value)).get? k = _
      rw [ContentValues.get?_put]
      by_cases hl : l = k
      · simp [said?, hl]
      · simp [said?, hl, Ne.symm hl, get?]
  | remove l =>
      show (c.values.put l none).get? k = _
      rw [ContentValues.get?_put]
      by_cases hl : l = k
      · simp [said?, hl]
      · simp [said?, hl, Ne.symm hl, get?]
  | subscribe name => rfl

/-- The last operation that concerns a key says what its value is. -/
theorem get?_after (ops : List ContentOperation) (k : ContentKey) :
    (c.after ops).get? k = (ops.filterMap (said? k)).getLastD (c.get? k) := by
  induction ops generalizing c with
  | nil => rfl
  | cons op ops ih =>
      rw [after_cons, ih, get?_perform]
      cases h : op.said? k with
      | none => simp [h]
      | some value => rw [List.filterMap_cons_some h, List.getLastD_cons]; rfl

/-- The revision counts the writes. -/
theorem revision_after (ops : List ContentOperation) (le : c.revision ≤ Counter.limit64) :
    (c.after ops).revision = min (c.revision + (writes ops).length) Counter.limit64 := by
  induction ops generalizing c with
  | nil => exact (Nat.min_eq_left le).symm
  | cons op ops ih =>
      cases op with
      | set k value =>
          have hlength : (writes (.set k value :: ops)).length = (writes ops).length + 1 := rfl
          have hnext : (c.set k value).revision = Counter.next Counter.limit64 c.revision := rfl
          have hle : (c.set k value).revision ≤ Counter.limit64 := Counter.next_le _ _
          rw [after_cons, perform, ih (c.set k value) hle, hlength, hnext, Counter.next]
          split <;> omega
      | remove k => exact ih (c.remove k).2 le
      | subscribe name => exact ih (c.subscribe name) le

theorem calls_after (ops : List ContentOperation) :
    (c.after ops).calls = c.calls ++ (rounds c.subscribers ops).flatten := by
  induction ops generalizing c with
  | nil => exact (List.append_nil _).symm
  | cons op ops ih =>
      rw [after_cons, ih]
      cases op with
      | set k value => exact List.append_assoc _ _ _
      | remove k => rfl
      | subscribe name => rfl

/-- Below its limit, the revision of a store tells whether something has been written. -/
theorem revision_after_ne_iff (ops : List ContentOperation) (lt : c.revision < Counter.limit64) :
    (c.after ops).revision ≠ c.revision ↔ ∃ k value, .set k value ∈ ops := by
  have hwritten : (writes ops).length ≠ 0 ↔ ∃ k value, .set k value ∈ ops := by
    rw [ne_eq, List.length_eq_zero_iff, writes, List.filterMap_eq_nil_iff]
    constructor
    · intro h
      by_contra hnone
      refine h fun op hop => ?_
      cases op with
      | set k value => exact absurd ⟨k, value, hop⟩ hnone
      | remove k => rfl
      | subscribe name => rfl
    · rintro ⟨k, value, hop⟩ hnone
      cases hnone _ hop
  rw [← hwritten, c.revision_after ops (Nat.le_of_lt lt)]
  omega

/-! ## Stores to begin with -/

/-- A store to which nothing has happened: a new one, or one that has just been loaded. -/
inductive IsFresh : ContentStore → Prop where
  | new : IsFresh empty
  | loaded {f : StoredFile} {c : ContentStore} (ok : load f = .ok c) : IsFresh c

theorem IsFresh.eq_ofValues {c : ContentStore} (h : c.IsFresh) : c = ofValues c.values := by
  cases h with
  | new => rfl
  | loaded ok => exact (exists_of_load ok).1

/-- A store is what its history says. The value of a key is that of the last write, unless the key
has been removed since, and what has been loaded if there was neither a write nor a removal. The
revision is the number of writes, as far as 64 bits go, so that it tells whether a run has written
anything. There is a round of calls for each write and for nothing else, and each subscriber is
called once in each round since it has come, with what has been written, whoever else there is. -/
theorem history_of_run {c : ContentStore} (fresh : c.IsFresh) (ops : List ContentOperation) :
    (∀ k, (c.after ops).get? k = (ops.filterMap (said? k)).getLastD (c.get? k))
      ∧ (c.after ops).revision = min (writes ops).length Counter.limit64
      ∧ (∀ run, (c.after ops).revision < Counter.limit64 →
        ((c.after (ops ++ run)).revision ≠ (c.after ops).revision
          ↔ ∃ k value, .set k value ∈ run))
      ∧ (c.after ops).calls = (rounds [] ops).flatten
      ∧ (rounds [] ops).length = (writes ops).length
      ∧ ∀ (before : List ContentOperation) (name : String) (later : List ContentOperation),
        ops = before ++ .subscribe name :: later →
        (rounds [] ops).map (fun round => round[(joined before).length]?)
          = List.replicate (writes before).length none
            ++ (writes later).map fun w => some ⟨name, w.1, w.2⟩ := by
  have hvalues := fresh.eq_ofValues
  have hrevision : c.revision = 0 := by rw [hvalues]; rfl
  have hcalls : c.calls = [] := by rw [hvalues]; rfl
  have hsubscribers : c.subscribers = [] := by rw [hvalues]; rfl
  refine ⟨c.get?_after ops, ?revision, fun run lt => ?told, ?calls, length_rounds [] ops, ?round⟩
  case revision =>
      rw [c.revision_after ops (by rw [hrevision]; exact Nat.zero_le _), hrevision, Nat.zero_add]
  case told =>
      rw [after_append]
      exact (c.after ops).revision_after_ne_iff run lt
  case calls =>
      rw [calls_after, hcalls, hsubscribers, List.nil_append]
  case round =>
      rintro before name later rfl
      exact round_of_subscriber before name later

/-- Two subscribers under one name, of whom the second comes after a write and a removal. The same
value is written twice, and both hear it. -/
theorem history_of_run_sameName :
    ∃ ops, ops = [.subscribe "reader", .set .code "a", .remove .code, .subscribe "reader",
        .set .culture "de", .set .culture "de"]
      ∧ empty.IsFresh
      ∧ (empty.after ops).revision < Counter.limit64
      ∧ (empty.after ops).get? .code = none
      ∧ (empty.after ops).get? .culture = some "de"
      ∧ (empty.after ops).revision = 3
      ∧ (empty.after (ops ++ [.remove .culture])).revision = (empty.after ops).revision
      ∧ (rounds [] ops).map (fun round => round[0]?)
        = [some ⟨"reader", .code, "a"⟩, some ⟨"reader", .culture, "de"⟩,
          some ⟨"reader", .culture, "de"⟩]
      ∧ (rounds [] ops).map (fun round => round[1]?)
        = [none, some ⟨"reader", .culture, "de"⟩, some ⟨"reader", .culture, "de"⟩] := by
  generalize hops : [ContentOperation.subscribe "reader", .set .code "a", .remove .code,
    .subscribe "reader", .set .culture "de", .set .culture "de"] = ops
  obtain ⟨hget, hrevision, htold, -, -, hround⟩ := history_of_run .new ops
  have hthree : (empty.after ops).revision = 3 := by
    rw [hrevision, ← hops]
    decide
  have hlt : (empty.after ops).revision < Counter.limit64 := by
    rw [hthree]
    decide
  have hremoved : ¬∃ k value,
      ContentOperation.set k value ∈ [ContentOperation.remove .culture] := by
    rintro ⟨k, value, hmem⟩
    cases List.mem_singleton.1 hmem
  refine ⟨ops, rfl, .new, hlt, ?_, ?_, hthree, ?_, ?_, ?_⟩
  · rw [hget, ← hops]
    rfl
  · rw [hget, ← hops]
    rfl
  · exact not_not.1 ((htold [.remove .culture] hlt).not.2 hremoved)
  · exact hround [] "reader" _ hops.symm
  · have hsecond := hround [.subscribe "reader", .set .code "a", .remove .code] "reader"
      [.set .culture "de", .set .culture "de"] hops.symm
    exact hsecond

end ContentStore

end SurfaceBridge
