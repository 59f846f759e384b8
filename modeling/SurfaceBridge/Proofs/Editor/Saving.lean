import SurfaceBridge.Editor.ContentFile
import SurfaceBridge.Proofs.Json.Recognizing

set_option autoImplicit false

/-! # Saving and loading the content store

A text that is an object (`Json.ObjectText`) is loaded if each of its members is an entry: a key
with a text. Then the last entry of a key counts, and otherwise loading fails, whatever stands
before or behind the member that is no entry (`load_objectText`).

What is saved is such a text, with one entry for each key that has a value, so loading it gives the
values back (`load_savedFile`). With this, all else about saving comes down to values.
-/

namespace SurfaceBridge

open Json (Member ObjectText MemberText MembersText Gives textOf)

/-! ## Entries -/

/-- The entry of the content store that a member is, if its name is that of a key and its value is
a text. -/
def ContentKey.entryOf (m : Member) : Option (ContentKey × String) :=
  (m.name?.bind ContentKey.ofName?).bind fun k => m.text?.map fun s => (k, s)

theorem ContentKey.entryOf_eq_none {m : Member} :
    entryOf m = none ↔ m.name?.bind ContentKey.ofName? = none ∨ m.text? = none := by
  unfold entryOf
  cases m.name?.bind ContentKey.ofName? <;> simp

/-- The value of the last entry of a key. -/
def ContentKey.lastOf (k : ContentKey) (entries : List (ContentKey × String)) : Option String :=
  ((entries.filter fun p => p.1 = k).getLast?).map Prod.snd

theorem ContentKey.lastOf_cons (k : ContentKey) (p : ContentKey × String)
    (entries : List (ContentKey × String)) :
    k.lastOf (p :: entries) = (k.lastOf entries).or (if p.1 = k then some p.2 else none) := by
  unfold lastOf
  by_cases hp : p.1 = k
  · rw [List.filter_cons_of_pos (by simpa using hp), if_pos hp, List.getLast?_cons]
    cases (entries.filter fun p => p.1 = k).getLast? <;> rfl
  · rw [List.filter_cons_of_neg (by simpa using hp), if_neg hp, Option.or_none]

namespace ContentValues

/-- The values after a member has been read, if it is an entry. -/
def take (v : ContentValues) (m : Member) : Option ContentValues :=
  (ContentKey.entryOf m).map fun p => v.put p.1 (some p.2)

theorem take_mk (v : ContentValues) (ps : List Json.Piece) (value : Option (List Json.Piece)) :
    v.take ⟨ps, value⟩
      = (textOf ps).bind fun n => (ContentKey.ofName? n).bind fun k =>
        (value.bind textOf).map fun s => v.put k (some s) := by
  unfold take ContentKey.entryOf Member.name? Member.text?
  cases textOf ps with
  | none => rfl
  | some n =>
      simp only [Option.bind_some]
      cases ContentKey.ofName? n with
      | none => rfl
      | some k =>
          simp only [Option.bind_some]
          cases value.bind textOf <;> rfl

theorem keyOf_eq_ok {n : String} {k : ContentKey} :
    keyOf n = .ok k ↔ ContentKey.ofName? n = some k := by
  unfold keyOf
  cases ContentKey.ofName? n <;> simp

theorem ext_get? {v w : ContentValues} (h : ∀ k, v.get? k = w.get? k) : v = w := by
  obtain ⟨schema, code, culture, language⟩ := v
  have hschema : schema = w.schema := h .schema
  have hcode : code = w.code := h .code
  have hculture : culture = w.culture := h .culture
  have hlanguage : language = w.language := h .language
  rw [hschema, hcode, hculture, hlanguage]

/-- A member that is no entry ends the reading. -/
theorem foldlM_take_eq_none {ms : List Member} :
    ∀ v : ContentValues, ms.foldlM take v = none ↔ ∃ m ∈ ms, ContentKey.entryOf m = none := by
  induction ms with
  | nil => simp
  | cons m ms ih =>
      intro v
      rw [List.foldlM_cons]
      cases hm : ContentKey.entryOf m with
      | none => simp [take, hm]
      | some p =>
          have htake : take v m = some (v.put p.1 (some p.2)) := by rw [take, hm]; rfl
          rw [htake]
          show ms.foldlM take (v.put p.1 (some p.2)) = none ↔ _
          rw [ih]
          simp [hm]

/-- Of several entries of a key the last one counts. -/
theorem get?_of_foldlM_take (k : ContentKey) {ms : List Member} {v w : ContentValues}
    (h : ms.foldlM take v = some w) :
    w.get? k = (k.lastOf (ms.filterMap ContentKey.entryOf)).or (v.get? k) := by
  induction ms generalizing v with
  | nil =>
      cases h
      rfl
  | cons m ms ih =>
      rw [List.foldlM_cons] at h
      cases hm : ContentKey.entryOf m with
      | none => simp [take, hm] at h
      | some p =>
          have htake : take v m = some (v.put p.1 (some p.2)) := by rw [take, hm]; rfl
          rw [htake] at h
          rw [ih h, get?_put, List.filterMap_cons, hm, ContentKey.lastOf_cons, Option.or_assoc]
          by_cases hk : p.1 = k
          · rw [if_pos hk, if_pos hk.symm, Option.some_or]
          · rw [if_neg hk, if_neg (Ne.symm hk), Option.none_or]

/-! ## Loading -/

/-- A member is read as the entry that it is, and if it is none the reading fails. -/
theorem gives_readMember (depth : Nat) (v : ContentValues) (m : Member) (t rest : List Char)
    (h : MemberText m ('"' :: t)) : Gives (v.take m) rest (v.readMember depth (t ++ rest)) := by
  cases h with
  | @mk ps body before behind s value name blankBefore blankBehind written =>
      have hassoc : body ++ '"' :: (before ++ ':' :: (behind ++ s)) ++ rest
          = body ++ '"' :: (before ++ ':' :: (behind ++ (s ++ rest))) := by simp
      have hname := Json.gives_readText name (before ++ ':' :: (behind ++ (s ++ rest)))
      rw [hassoc, take_mk, readMember]
      cases hn : textOf ps with
      | none =>
          rw [hn, Json.gives_none] at hname
          obtain ⟨e, he⟩ := hname
          rw [he]
          exact ⟨e, rfl⟩
      | some n =>
          rw [hn, Json.gives_some] at hname
          rw [hname, Option.bind_some]
          cases hk : ContentKey.ofName? n with
          | none =>
              simp only [keyOf, hk]
              exact Json.exists_refuse _ _
          | some k =>
              have hvalue := Json.gives_text written blankBehind depth rest
              simp only [keyOf_eq_ok.2 hk, Option.bind_some, Json.readColon_blanks blankBefore]
              cases hs : value.bind textOf with
              | none =>
                  rw [hs, Json.gives_none] at hvalue
                  obtain ⟨e, he⟩ := hvalue
                  rw [he]
                  exact ⟨e, rfl⟩
              | some s' =>
                  rw [hs, Json.gives_some] at hvalue
                  rw [hvalue]
                  rfl

theorem fromText_object (depth : Nat) {before : List Char} (blank : Json.Blanks before)
    (rest : List Char) :
    decoder.fromText (depth + 1) (before ++ '{' :: rest)
      = match Json.readMembers (readMember depth) (rest.length + 1) true .empty rest with
        | .error e => .error e
        | .ok (v, rest) => (Json.readObjectEnd rest).map fun rest => (v, rest) := by
  have hskip : Json.skipSpace (before ++ '{' :: rest) = '{' :: rest :=
    Json.skipSpace_blanks blank rfl rest
  show Json.atValue _ (before ++ '{' :: rest) = _
  rw [Json.atValue, hskip]
  exact if_pos rfl

/-- A text that is an object is decoded to its entries. -/
theorem decode_objectText {ms : List Member} {text : String} (h : ObjectText ms text.toList) :
    match ms.foldlM take empty with
    | some v => decoder.decode text = .ok v
    | none => ∃ e, decoder.decode text = .error e := by
  generalize hs : text.toList = s at h
  cases h with
  | @mk before s after blankBefore members blankAfter =>
      have henough : ms.length < (s ++ '}' :: after).length + 1 := by
        have hle := Json.length_le_of_membersText members
        rw [List.length_append]
        omega
      have hmembers := Json.gives_readMembers (gives_readMember 126) members henough empty after
      have hobject := fromText_object 126 blankBefore (s ++ '}' :: after)
      unfold Json.Decoder.decode Json.readAll
      rw [hs, show Json.depthLimit = 126 + 1 from rfl, hobject]
      cases hv : ms.foldlM take empty with
      | none =>
          rw [hv, Json.gives_none] at hmembers
          obtain ⟨e, he⟩ := hmembers
          exact ⟨e, by rw [he]⟩
      | some v =>
          rw [hv, Json.gives_some] at hmembers
          have hend : Json.readObjectEnd ('}' :: after) = .ok after := rfl
          simp only [hmembers, hend, Except.map, Json.skipSpace_of_blanks blankAfter]

/-- A value that is no text is not made up for by a later one. -/
example : (decoder.decode "\x7b\"Code\":1,\"Code\":\"a\"\x7d").toOption = none := by cbv

theorem exists_of_readMember {depth : Nat} {v w : ContentValues} {s rest : List Char}
    (h : v.readMember depth s = .ok (w, rest)) :
    ∃ m t, s = t ++ rest ∧ MemberText m ('"' :: t) ∧ v.take m = some w := by
  unfold readMember at h
  -- all three parts of the member have been read
  split at h
  · cases h
  rename_i n behindName hname
  split at h
  · cases h
  rename_i k hk
  split at h
  · cases h
  rename_i behindColon hcolon
  cases hvalue : Json.Decoder.text.fromText depth behindColon with
  | error e =>
      rw [hvalue] at h
      cases h
  | ok p =>
      obtain ⟨value, behindValue⟩ := p
      rw [hvalue] at h
      cases h
      obtain ⟨ps, body, rfl, hps, hn⟩ := Json.exists_of_readText hname
      obtain ⟨before, hbefore, rfl⟩ := Json.exists_of_readColon hcolon
      obtain ⟨behind, qs, written, hbehind, rfl, hwritten, hv⟩ := Json.exists_of_decodedText hvalue
      refine ⟨⟨ps, some qs⟩, body ++ '"' :: (before ++ ':' :: (behind ++ written)), by simp,
        .mk hps hbefore hbehind hwritten, ?_⟩
      rw [take_mk, hn, Option.bind_some, keyOf_eq_ok.1 hk, Option.bind_some, Option.bind_some, hv]
      rfl

theorem exists_of_fromText {depth : Nat} {v : ContentValues} {s rest : List Char}
    (h : decoder.fromText (depth + 1) s = .ok (v, rest)) :
    ∃ before ms t, Json.Blanks before ∧ s = before ++ '{' :: (t ++ '}' :: rest)
      ∧ MembersText true ms t ∧ ms.foldlM take empty = some v := by
  simp only [decoder, Json.atValue] at h
  split at h
  · cases h
  · rename_i c more hskip
    obtain ⟨before, hbefore, rfl⟩ := Json.exists_of_skipSpace hskip
    split at h
    · rename_i brace
      split at h
      · cases h
      · rename_i w left hmembers
        obtain ⟨ms, t, more', rfl, rfl, hms, hfold⟩ :=
          Json.exists_of_readMembers (@exists_of_readMember depth) hmembers
        cases h
        exact ⟨before, ms, t, hbefore, by rw [brace], hms, hfold⟩
    · obtain ⟨e, he⟩ := Json.exists_refuseKind (α := ContentValues × List Char) "a map" (c :: more)
      rw [he] at h
      cases h

/-- Nothing else is decoded. -/
theorem exists_of_decode {text : String} {v : ContentValues} (h : decoder.decode text = .ok v) :
    ∃ ms, ObjectText ms text.toList ∧ ms.foldlM take empty = some v := by
  unfold Json.Decoder.decode Json.readAll at h
  split at h
  · cases h
  · rename_i after hread
    split at h
    · rename_i hskip
      cases h
      have hdeep : decoder.fromText (126 + 1) text.toList = .ok (v, after) := hread
      obtain ⟨before, ms, t, hbefore, htext, hms, hfold⟩ := exists_of_fromText hdeep
      rw [htext]
      exact ⟨ms, .mk hbefore hms (Json.blanks_of_skipSpace hskip), hfold⟩
    · cases h

/-! ## What is saved -/

/-- The line of a value that is saved. -/
def line (p : ContentKey × String) : List Char :=
  ['\n', ' ', ' '] ++ Json.quote p.1.name ++ [':', ' '] ++ Json.quote p.2

theorem save_eq (v : ContentValues) :
    v.save = match v.toList with
      | [] => ['{', '}']
      | entries => '{' :: ((entries.map line).intersperse [',']).flatten ++ ['\n', '}'] := rfl

theorem ofName?_name (k : ContentKey) : ContentKey.ofName? k.name = some k := by
  cases k <;> rfl

/-- A value is saved as a member that is its entry. -/
theorem exists_memberText (p : ContentKey × String) :
    ∃ m, MemberText m (Json.quote p.1.name ++ [':', ' '] ++ Json.quote p.2)
      ∧ ContentKey.entryOf m = some p := by
  obtain ⟨ps, hps, hname⟩ := Json.exists_pieces p.1.name
  obtain ⟨qs, hqs, hvalue⟩ := Json.exists_pieces p.2
  refine ⟨⟨ps, some qs⟩, ?_, ?_⟩
  · have hblank : Json.Blanks [' '] := by simp [Json.Blanks, Json.isSpace]
    have hmember := MemberText.mk hps Json.blanks_nil hblank (.text hqs)
    simpa [Json.quote] using hmember
  · simp [ContentKey.entryOf, Member.name?, Member.text?, hname, hvalue, ofName?_name]

/-- The lines of the values are members, each behind a comma except the first. -/
theorem exists_membersText (p : ContentKey × String) (entries : List (ContentKey × String))
    (first : Bool) :
    ∃ ms, MembersText first ms
        (Json.lead first ++ (((p :: entries).map line).intersperse [',']).flatten ++ ['\n'])
      ∧ ms.map ContentKey.entryOf = (p :: entries).map some := by
  obtain ⟨m, hm, hentry⟩ := exists_memberText p
  have hbehind : Json.Blanks ['\n', ' ', ' '] := by simp [Json.Blanks, Json.isSpace]
  induction entries generalizing p first m with
  | nil =>
      have hlast : Json.Blanks ['\n'] := by simp [Json.Blanks, Json.isSpace]
      have hmembers : MembersText first [m] _ := .member Json.blanks_nil hbehind hm (.done hlast)
      refine ⟨[m], ?_, by simp [hentry]⟩
      simpa [line] using hmembers
  | cons q entries ih =>
      obtain ⟨n, hn, hentry'⟩ := exists_memberText q
      obtain ⟨ms, hms, hentries⟩ := ih q false n hn hentry'
      have hmembers : MembersText first (m :: ms) _ := .member Json.blanks_nil hbehind hm hms
      refine ⟨m :: ms, ?_, by simp [hentry, hentries]⟩
      simpa [line, Json.lead] using hmembers

/-- What is saved is an object with the entries of the values. -/
theorem exists_objectText (v : ContentValues) :
    ∃ ms, ObjectText ms v.save ∧ ms.map ContentKey.entryOf = v.toList.map some := by
  rw [save_eq]
  cases hv : v.toList with
  | nil =>
      have hmembers : MembersText true [] [] := .done Json.blanks_nil
      exact ⟨[], .mk Json.blanks_nil hmembers Json.blanks_nil, rfl⟩
  | cons p entries =>
      obtain ⟨ms, hms, hentries⟩ := exists_membersText p entries true
      refine ⟨ms, ?_, hentries⟩
      have hobject := ObjectText.mk Json.blanks_nil hms Json.blanks_nil
      simpa [Json.lead] using hobject

/-- Each key has at most one entry, which is the one with its value. -/
theorem lastOf_toList (v : ContentValues) (k : ContentKey) : k.lastOf v.toList = v.get? k := by
  obtain ⟨_ | schema, _ | code, _ | culture, _ | language⟩ := v <;> cases k <;> rfl

end ContentValues

/-- A file with a text. -/
def StoredFile.ofText (s : String) : StoredFile := .file s.toUTF8

theorem StoredFile.readText_ofText (s : String) : (ofText s).readText = .ok s := by
  have hvalid : String.fromUTF8? s.toUTF8 = some s := by
    simp [String.fromUTF8?, String.fromUTF8, s.isValidUTF8]
  simp only [ofText, readText, hvalid]

theorem StoredFile.eq_of_readText {f : StoredFile} {s : String} (h : f.readText = .ok s) :
    f = ofText s := by
  cases f with
  | file bytes =>
      simp only [readText] at h
      split at h
      · cases h
      · rename_i t hvalid
        cases h
        unfold String.fromUTF8? at hvalid
        split at hvalid
        · cases hvalid
          rfl
        · cases hvalid
  | _ => cases h

namespace ContentStore

/-- What becomes of a text that is an object when it is loaded. One member that is no entry is
enough for it to be refused; otherwise the last entry of each key is what the store has. -/
theorem load_objectText {ms : List Member} {text : String} (h : ObjectText ms text.toList) :
    ((∃ m ∈ ms, ContentKey.entryOf m = none) →
        ∃ e, load (.ofText text) = .error (.json e text))
      ∧ ((∀ m ∈ ms, ContentKey.entryOf m ≠ none) →
        ∃ v : ContentValues, load (.ofText text) = .ok (ofValues v)
          ∧ ∀ k, v.get? k = k.lastOf (ms.filterMap ContentKey.entryOf)) := by
  have hdecode := ContentValues.decode_objectText h
  have hnone : ms.foldlM ContentValues.take .empty = none
      ↔ ∃ m ∈ ms, ContentKey.entryOf m = none := ContentValues.foldlM_take_eq_none .empty
  unfold load
  rw [StoredFile.readText_ofText]
  dsimp only
  cases hv : ms.foldlM ContentValues.take .empty with
  | none =>
      rw [hv] at hdecode
      obtain ⟨e, he⟩ := hdecode
      refine ⟨fun _ => ⟨e, by rw [he]⟩, fun all => ?_⟩
      obtain ⟨m, hm, hentry⟩ := hnone.1 hv
      exact absurd hentry (all m hm)
  | some v =>
      rw [hv] at hdecode
      have hdecode : ContentValues.decoder.decode text = .ok v := hdecode
      refine ⟨fun bad => ?_, fun _ => ⟨v, by rw [hdecode], fun k => ?_⟩⟩
      · rw [hnone.2 bad] at hv
        cases hv
      · have hempty : ContentValues.empty.get? k = none := by cases k <;> rfl
        rw [ContentValues.get?_of_foldlM_take k hv, hempty, Option.or_none]

/-- The file to which a store is saved. -/
def savedFile (c : ContentStore) : StoredFile := .ofText (String.ofList c.values.save)

/-- Loading what has been saved gives the values back, and nothing else. -/
theorem load_savedFile (c : ContentStore) : load c.savedFile = .ok (ofValues c.values) := by
  obtain ⟨ms, hms, hentries⟩ := c.values.exists_objectText
  have htext : ObjectText ms (String.ofList c.values.save).toList := by
    rwa [String.toList_ofList]
  have hall : ∀ m ∈ ms, ContentKey.entryOf m ≠ none := by
    intro m hm hnone
    have hmem : ContentKey.entryOf m ∈ ms.map ContentKey.entryOf := List.mem_map_of_mem hm
    rw [hentries, hnone] at hmem
    simp at hmem
  have hlist : ms.filterMap ContentKey.entryOf = c.values.toList :=
    calc ms.filterMap ContentKey.entryOf
        = (ms.map ContentKey.entryOf).filterMap id := by simp [List.filterMap_map]
      _ = (c.values.toList.map some).filterMap id := by rw [hentries]
      _ = c.values.toList := by simp [List.filterMap_map]
  obtain ⟨v, hload, hvalues⟩ := (load_objectText htext).2 hall
  have hsame : v = c.values := ContentValues.ext_get? fun k => by
    rw [hvalues, hlist, ContentValues.lastOf_toList]
  rw [savedFile, hload, hsame]

/-- A file that is loaded is not there, or its text is an object of which every member is an
entry. -/
theorem exists_of_load {f : StoredFile} {c : ContentStore} (h : load f = .ok c) :
    c = ofValues c.values
      ∧ (f = .absent ∨ ∃ text ms, f = .ofText text ∧ ObjectText ms text.toList
        ∧ ∀ m ∈ ms, ContentKey.entryOf m ≠ none) := by
  unfold load at h
  split at h
  · rename_i habsent
    cases h
    refine ⟨rfl, Or.inl ?_⟩
    cases f with
    | absent => rfl
    | file bytes =>
        simp only [StoredFile.readText] at habsent
        split at habsent <;> cases habsent
    | _ => cases habsent
  · cases h
  · rename_i text htext
    split at h
    · cases h
    · rename_i v hdecode
      cases h
      obtain ⟨ms, hms, hfold⟩ := ContentValues.exists_of_decode hdecode
      refine ⟨rfl, Or.inr ⟨text, ms, StoredFile.eq_of_readText htext, hms, fun m hm hnone => ?_⟩⟩
      have hfail := (ContentValues.foldlM_take_eq_none .empty).2 ⟨m, hm, hnone⟩
      rw [hfold] at hfail
      cases hfail

theorem savedFile_eq_iff {c c' : ContentStore} :
    c.savedFile = c'.savedFile ↔ ∀ k, c.get? k = c'.get? k := by
  constructor
  · intro same k
    have hload := c.load_savedFile
    rw [same, c'.load_savedFile] at hload
    exact congrArg (fun d => d.get? k) (Except.ok.inj hload).symm
  · intro same
    rw [savedFile, savedFile, ContentValues.ext_get? same]

/-- The texts that are loaded, and what they are loaded as. -/
theorem load_ofText_iff {text : String} {c : ContentStore} :
    load (.ofText text) = .ok c
      ↔ ∃ ms, ObjectText ms text.toList ∧ (∀ m ∈ ms, ContentKey.entryOf m ≠ none)
        ∧ c = ofValues c.values ∧ ∀ k, c.get? k = k.lastOf (ms.filterMap ContentKey.entryOf) := by
  constructor
  · intro h
    obtain ⟨hvalues, habsent | ⟨text', ms, hfile, hms, hall⟩⟩ := exists_of_load h
    · cases habsent
    · have htext : text = text' := by
        have hread := StoredFile.readText_ofText text
        rw [hfile, StoredFile.readText_ofText] at hread
        exact (Except.ok.inj hread).symm
      subst htext
      obtain ⟨v, hload, hlast⟩ := (load_objectText hms).2 hall
      rw [h] at hload
      cases hload
      exact ⟨ms, hms, hall, rfl, hlast⟩
  · rintro ⟨ms, hms, hall, hvalues, hlast⟩
    obtain ⟨v, hload, hv⟩ := (load_objectText hms).2 hall
    have hsame : v = c.values := ContentValues.ext_get? fun k => by rw [hv, ← hlast]; rfl
    rw [hload, hsame, ← hvalues]

/-- Every store comes back from the file to which it is saved, with its values and without the
writes and the subscribers that it had. Every store that has been loaded comes back as it was. The
file to which a store is saved says what its values are, and nothing else. A text is loaded if it is
an object of which all members are entries, and then the last entry of each key counts; if one of
the members has another name or no text as its value, the text is refused. -/
theorem saved_and_loaded :
    (∀ c : ContentStore, ∃ c', load c.savedFile = .ok c' ∧ (∀ k, c'.get? k = c.get? k)
        ∧ c'.revision = 0 ∧ c'.subscribers = [])
      ∧ (∀ f c, load f = .ok c → load c.savedFile = .ok c)
      ∧ (∀ c c' : ContentStore, c.savedFile = c'.savedFile ↔ ∀ k, c.get? k = c'.get? k)
      ∧ (∀ text c, load (.ofText text) = .ok c
        ↔ ∃ ms, ObjectText ms text.toList ∧ (∀ m ∈ ms, ContentKey.entryOf m ≠ none)
          ∧ c = ofValues c.values
          ∧ ∀ k, c.get? k = k.lastOf (ms.filterMap ContentKey.entryOf))
      ∧ ∀ text ms, ObjectText ms text.toList →
        (∃ m ∈ ms, m.name?.bind ContentKey.ofName? = none ∨ m.text? = none) →
        ∃ e, load (.ofText text) = .error (.json e text) := by
  refine ⟨fun c => ⟨_, c.load_savedFile, fun _ => rfl, rfl, rfl⟩, fun f c h => ?_,
    fun c c' => savedFile_eq_iff, fun text c => load_ofText_iff, fun text ms hms bad => ?_⟩
  · rw [c.load_savedFile, ← (exists_of_load h).1]
  · obtain ⟨m, hm, hbad⟩ := bad
    exact (load_objectText hms).1 ⟨m, hm, ContentKey.entryOf_eq_none.2 hbad⟩

end ContentStore

end SurfaceBridge
