set_option autoImplicit false

/-! # Dictionaries with string keys

A dictionary is a list of entries in strictly increasing order of their keys, compared code
point by code point. The order makes two dictionaries with the same entries equal, and it is
the order in which entries are listed and written.

`lookup_insert` and `lookup_modify` say what the two operations do to every key, `sorted_insert`
and `sorted_modify` that they keep the order.
-/

namespace SurfaceBridge

namespace Dictionary

variable {α : Type}

/-- The keys increase strictly, so none occurs twice. -/
def Sorted (entries : List (String × α)) : Prop :=
  entries.Pairwise fun a b => a.1 < b.1

/-- The value stored under a key. -/
def lookup (key : String) : List (String × α) → Option α
  | [] => none
  | (k, v) :: rest => if key = k then some v else lookup key rest

/-- Stores a value under a key in its place in the order, over any value already there. -/
def insert (key : String) (value : α) : List (String × α) → List (String × α)
  | [] => [(key, value)]
  | (k, v) :: rest =>
    if key = k then (key, value) :: rest
    else if key < k then (key, value) :: (k, v) :: rest
    else (k, v) :: insert key value rest

/-- Changes the value under a key; an absent key stays absent. -/
def modify (key : String) (f : α → α) : List (String × α) → List (String × α)
  | [] => []
  | (k, v) :: rest => if key = k then (k, f v) :: rest else (k, v) :: modify key f rest

/-- The keys in order. -/
def keys (entries : List (String × α)) : List String := entries.map (·.1)

/-- Enters pairs one after the other, so that the last value of a repeated key stays. -/
def ofList (pairs : List (String × α)) : List (String × α) :=
  pairs.foldl (fun entries p => insert p.1 p.2 entries) []

@[simp] theorem lookup_nil (key : String) : lookup key ([] : List (String × α)) = none := rfl

theorem lookup_insert (key other : String) (value : α) (entries : List (String × α)) :
    lookup other (insert key value entries)
      = if other = key then some value else lookup other entries := by
  induction entries with
  | nil => simp [insert, lookup]
  | cons e rest ih =>
    obtain ⟨k, v⟩ := e
    by_cases hk : key = k
    · subst hk
      by_cases ho : other = key <;> simp [insert, lookup, ho]
    · by_cases hlt : key < k
      · simp [insert, lookup, hk, hlt]
      · by_cases ho : other = k
        · subst ho
          have : ¬ other = key := fun h => hk h.symm
          simp [insert, lookup, hk, hlt, this]
        · simp [insert, lookup, hk, hlt, ho, ih]

theorem mem_insert {key : String} {value : α} {entries : List (String × α)} {e : String × α}
    (h : e ∈ insert key value entries) : e = (key, value) ∨ e ∈ entries := by
  induction entries with
  | nil => simpa [insert] using h
  | cons d rest ih =>
    obtain ⟨k, v⟩ := d
    simp only [insert] at h
    split at h
    · rcases List.mem_cons.1 h with rfl | h
      · exact Or.inl rfl
      · exact Or.inr (by simp [h])
    · split at h
      · rcases List.mem_cons.1 h with rfl | h
        · exact Or.inl rfl
        · exact Or.inr h
      · rcases List.mem_cons.1 h with rfl | h
        · exact Or.inr (by simp)
        · exact (ih h).imp id fun h => by simp [h]

theorem sorted_insert (key : String) (value : α) {entries : List (String × α)}
    (sorted : Sorted entries) : Sorted (insert key value entries) := by
  induction entries with
  | nil => simp [insert, Sorted]
  | cons e rest ih =>
    obtain ⟨k, v⟩ := e
    have hrest := List.pairwise_cons.1 sorted
    by_cases hk : key = k
    · subst hk
      simpa [insert, Sorted] using hrest
    · by_cases hlt : key < k
      · simp only [insert, hk, hlt, if_true, if_false]
        refine List.pairwise_cons.2 ⟨fun e he => ?_, sorted⟩
        rcases List.mem_cons.1 he with rfl | he
        · exact hlt
        · exact String.lt_trans hlt (hrest.1 e he)
      · simp only [insert, hk, hlt, if_false]
        refine List.pairwise_cons.2 ⟨fun e he => ?_, ih hrest.2⟩
        rcases mem_insert he with rfl | he
        · exact Std.lt_of_le_of_ne (Std.not_lt.1 hlt) fun h => hk h.symm
        · exact hrest.1 e he

theorem lookup_modify (key other : String) (f : α → α) (entries : List (String × α)) :
    lookup other (modify key f entries)
      = if other = key then (lookup other entries).map f else lookup other entries := by
  induction entries with
  | nil => simp [modify, lookup]
  | cons e rest ih =>
    obtain ⟨k, v⟩ := e
    by_cases hk : key = k
    · subst hk
      by_cases ho : other = key <;> simp [modify, lookup, ho]
    · by_cases ho : other = k
      · subst ho
        have : ¬ other = key := fun h => hk h.symm
        simp [modify, lookup, hk, this]
      · simp [modify, lookup, hk, ho, ih]

theorem keys_modify (key : String) (f : α → α) (entries : List (String × α)) :
    keys (modify key f entries) = keys entries := by
  induction entries with
  | nil => rfl
  | cons e rest ih =>
    obtain ⟨k, v⟩ := e
    by_cases hk : key = k
    · simp [modify, keys, hk]
    · simpa [modify, keys, hk] using ih

/-- Changing what is not there changes nothing. -/
theorem modify_of_lookup {key : String} (f : α → α) {entries : List (String × α)}
    (absent : lookup key entries = none) : modify key f entries = entries := by
  induction entries with
  | nil => rfl
  | cons e rest ih =>
    obtain ⟨k, v⟩ := e
    by_cases hk : key = k
    · simp [lookup, hk] at absent
    · simp only [lookup, hk, if_false] at absent
      simp [modify, hk, ih absent]

theorem sorted_modify (key : String) (f : α → α) {entries : List (String × α)}
    (sorted : Sorted entries) : Sorted (modify key f entries) := by
  have hkeys : (keys (modify key f entries)).Pairwise (· < ·) := by
    rw [keys_modify]
    exact List.pairwise_map.2 sorted
  exact List.pairwise_map.1 hkeys

theorem mem_keys_iff {key : String} {entries : List (String × α)} :
    key ∈ keys entries ↔ ∃ value, lookup key entries = some value := by
  induction entries with
  | nil => simp [keys]
  | cons e rest ih =>
    obtain ⟨k, v⟩ := e
    by_cases hk : key = k
    · simp [keys, lookup, hk]
    · simpa [keys, lookup, hk] using ih

end Dictionary

end SurfaceBridge
