import Mathlib
import SurfaceBridge.Editor.Workspace

set_option autoImplicit false

/-! # The log of changes

The surfaces share one queue of changes, and their documents are opened, replaced, relabelled and
closed while changes wait in it. So a change that waits cannot be compared with the documents that
are there. It is compared with the calls of the workspace instead.

`documentOf s calls` reads off the calls alone what must be on a surface: the last opening of it, if
it has not been closed since, with the last text and language that it has been given since, and with
a version that counts these texts. `document_after` says that the workspace keeps this document, and
`log_of_calls` that the changes which have been taken, followed by those that wait, are the changes
that the calls have returned, each made from this document.
-/

namespace SurfaceBridge

/-! ## Calls and answers -/

/-- A call that can change a workspace. -/
inductive WorkspaceCall where
  | openDocument (s : Surface) (uri language text : String)
  | close (s : Surface)
  | setText (s : Surface) (text : String)
  | setLanguage (s : Surface) (language : String)
  | setClassifier (language : String) (c : Classifier)
  | editLanguages (f : LanguageRegistry → LanguageRegistry)
  | takeChanges

/-- What the caller gets back. -/
inductive WorkspaceAnswer where
  | done
  | changed (c : Change)
  | closed (d : Option Document)
  | taken (cs : List Change)
  | refused (e : SurfaceNotOpen)

/-- The change that a call has made. -/
def WorkspaceAnswer.made : WorkspaceAnswer → List Change
  | .changed c => [c]
  | _ => []

/-- The changes that a call has taken from the queue. -/
def WorkspaceAnswer.took : WorkspaceAnswer → List Change
  | .taken cs => cs
  | _ => []

namespace Workspace

/-- A call: its answer and the workspace after it. -/
def perform (call : WorkspaceCall) (w : Workspace) : WorkspaceAnswer × Workspace :=
  match call with
  | .openDocument s uri language text => (.done, w.openDocument s uri language text)
  | .close s => (.closed (w.close s).1, (w.close s).2)
  | .setText s text =>
    match w.setText s text with
    | .error e => (.refused e, w)
    | .ok (c, w) => (.changed c, w)
  | .setLanguage s language =>
    match w.setLanguage s language with
    | .error e => (.refused e, w)
    | .ok w => (.done, w)
  | .setClassifier language c => (.done, w.setClassifier language c)
  | .editLanguages f => (.done, w.withLanguages f)
  | .takeChanges => (.taken w.takeChanges.1, w.takeChanges.2)

/-- The workspace after some calls. -/
def after (calls : List WorkspaceCall) (w : Workspace) : Workspace :=
  calls.foldl (fun w call => (w.perform call).2) w

/-- The answers to some calls. -/
def answers : List WorkspaceCall → Workspace → List WorkspaceAnswer
  | [], _ => []
  | call :: calls, w => (w.perform call).1 :: answers calls (w.perform call).2

/-- The changes that some calls have made, in the order of the calls. -/
def madeIn (calls : List WorkspaceCall) (w : Workspace) : List Change :=
  (w.answers calls).flatMap WorkspaceAnswer.made

/-- The changes that some calls have taken from the queue. -/
def takenIn (calls : List WorkspaceCall) (w : Workspace) : List Change :=
  (w.answers calls).flatMap WorkspaceAnswer.took

theorem after_concat (calls : List WorkspaceCall) (call : WorkspaceCall) (w : Workspace) :
    w.after (calls ++ [call]) = ((w.after calls).perform call).2 := by
  rw [after, List.foldl_append]
  rfl

/-! ## The queue -/

/-- What waited before a call and what the call has made is what it has taken and what waits after
it. -/
theorem took_append_changes (call : WorkspaceCall) (w : Workspace) :
    (w.perform call).1.took ++ (w.perform call).2.changes
      = w.changes ++ (w.perform call).1.made := by
  cases call with
  | setText s text =>
      simp only [perform, setText]
      cases w.document s with
      | none => exact (List.append_nil _).symm
      | some d => rfl
  | setLanguage s language =>
      simp only [perform, setLanguage]
      cases w.document s <;> exact (List.append_nil _).symm
  | takeChanges => rfl
  | _ => exact (List.append_nil _).symm

theorem takenIn_append_changes (calls : List WorkspaceCall) (w : Workspace) :
    w.takenIn calls ++ (w.after calls).changes = w.changes ++ w.madeIn calls := by
  induction calls generalizing w with
  | nil => exact (List.append_nil _).symm
  | cons call calls ih =>
      have hstep := w.took_append_changes call
      have hrest := ih (w.perform call).2
      calc w.takenIn (call :: calls) ++ (w.after (call :: calls)).changes
          = (w.perform call).1.took ++ ((w.perform call).2.takenIn calls
              ++ ((w.perform call).2.after calls).changes) := List.append_assoc ..
        _ = ((w.perform call).1.took ++ (w.perform call).2.changes)
              ++ (w.perform call).2.madeIn calls := by rw [hrest, List.append_assoc]
        _ = w.changes ++ w.madeIn (call :: calls) := by rw [hstep, List.append_assoc]; rfl

end Workspace

/-! ## The document of a surface -/

namespace WorkspaceCall

/-- Whether a call opens or closes a surface. -/
def turns (s : Surface) : WorkspaceCall → Bool
  | .openDocument t _ _ _ => t = s
  | .close t => t = s
  | _ => false

/-- The text that a call gives to a surface. -/
def text? (s : Surface) : WorkspaceCall → Option String
  | .setText t text => if t = s then some text else none
  | _ => none

/-- The language that a call gives to a surface. -/
def language? (s : Surface) : WorkspaceCall → Option String
  | .setLanguage t language => if t = s then some language else none
  | _ => none

/-- The last call that has opened or closed a surface. -/
def lastTurn? (s : Surface) (calls : List WorkspaceCall) : Option WorkspaceCall :=
  (calls.filter (turns s)).getLast?

/-- The calls after the last that has opened or closed a surface. -/
def sinceTurn (s : Surface) (calls : List WorkspaceCall) : List WorkspaceCall :=
  calls.rtakeWhile fun call => !call.turns s

/-- The texts that calls give to a surface. -/
def texts (s : Surface) (calls : List WorkspaceCall) : List String := calls.filterMap (text? s)

/-- The languages that calls give to a surface. -/
def languages (s : Surface) (calls : List WorkspaceCall) : List String :=
  calls.filterMap (language? s)

/-- The document of a surface that was opened and then got some calls: it has the last text and the
last language that they give to it. Its version is one more than the number of the texts, or the
largest of 64 bits. -/
def documentSince (s : Surface) (uri language text : String) (since : List WorkspaceCall) :
    Document where
  uri := uri
  language := (languages s since).getLastD language
  text := (texts s since).getLastD text
  version := min (1 + (texts s since).length) Counter.limit64

/-- What must be on a surface after some calls: nothing, unless the last of them that has opened or
closed it has opened it. -/
def documentOf (s : Surface) (calls : List WorkspaceCall) : Option Document :=
  match lastTurn? s calls with
  | some (.openDocument _ uri language text) =>
    some (documentSince s uri language text (sinceTurn s calls))
  | _ => none

/-- The change that the last of some calls must make: it replaces a text, and the document that must
be there afterwards is the one that has changed. -/
def changeOf? (calls : List WorkspaceCall) : Option Change :=
  match calls.getLast? with
  | some (.setText s text) =>
    (documentOf s calls).map fun d => ⟨s, d.uri, d.language, d.version, text⟩
  | _ => none

/-- The changes that calls must make, in their order. Each call is the last of some first calls. -/
def changesOf (calls : List WorkspaceCall) : List Change := calls.inits.filterMap changeOf?

/-- What a call does to the document of a surface. -/
def effect (s : Surface) : WorkspaceCall → Option Document → Option Document
  | .openDocument t uri language text, d => if t = s then some ⟨uri, language, text, 1⟩ else d
  | .close t, d => if t = s then none else d
  | .setText t text, d =>
    if t = s then
      d.map fun d => { d with text := text, version := Counter.next Counter.limit64 d.version }
    else d
  | .setLanguage t language, d =>
    if t = s then d.map fun d => { d with language := language } else d
  | _, d => d

/-- A version that counts so many texts counts one more after the next. -/
theorem next_min (n : Nat) :
    Counter.next Counter.limit64 (min (1 + n) Counter.limit64)
      = min (1 + (n + 1)) Counter.limit64 := by
  unfold Counter.next
  split <;> omega

variable {s : Surface} {call : WorkspaceCall} (calls : List WorkspaceCall)

theorem lastTurn?_concat (turn : call.turns s = true) :
    lastTurn? s (calls ++ [call]) = some call := by
  simp [lastTurn?, List.filter_append, turn]

theorem lastTurn?_concat_of_not (other : call.turns s = false) :
    lastTurn? s (calls ++ [call]) = lastTurn? s calls := by
  simp [lastTurn?, List.filter_append, other]

theorem sinceTurn_concat (turn : call.turns s = true) : sinceTurn s (calls ++ [call]) = [] := by
  simp [sinceTurn, turn]

theorem sinceTurn_concat_of_not (other : call.turns s = false) :
    sinceTurn s (calls ++ [call]) = sinceTurn s calls ++ [call] := by
  simp [sinceTurn, other]

theorem texts_concat (call : WorkspaceCall) :
    texts s (calls ++ [call]) = texts s calls ++ (call.text? s).toList := by
  rw [texts, List.filterMap_append]
  cases h : call.text? s <;> simp [texts, h]

theorem languages_concat (call : WorkspaceCall) :
    languages s (calls ++ [call]) = languages s calls ++ (call.language? s).toList := by
  rw [languages, List.filterMap_append]
  cases h : call.language? s <;> simp [languages, h]

theorem documentSince_concat (uri language text : String) (other : call.turns s = false) :
    some (documentSince s uri language text (calls ++ [call]))
      = call.effect s (some (documentSince s uri language text calls)) := by
  simp only [documentSince, texts_concat, languages_concat]
  cases call with
  | openDocument t uri' language' text' => simp [effect, text?, language?, of_decide_eq_false other]
  | close t => simp [effect, text?, language?, of_decide_eq_false other]
  | setText t text' =>
      by_cases ht : t = s
      · simp [effect, text?, language?, ht, next_min]
      · simp [effect, text?, language?, ht]
  | setLanguage t language' =>
      by_cases ht : t = s <;> simp [effect, text?, language?, ht]
  | _ => simp [effect, text?, language?]

/-- What is on a surface depends on what was on it and on the last call. -/
theorem documentOf_concat (s : Surface) (call : WorkspaceCall) :
    documentOf s (calls ++ [call]) = call.effect s (documentOf s calls) := by
  by_cases turn : call.turns s = true
  · unfold documentOf
    rw [lastTurn?_concat calls turn, sinceTurn_concat calls turn]
    cases call with
    | openDocument t uri language text =>
        have ht : t = s := of_decide_eq_true turn
        simp only [effect, ht, if_true]
        rfl
    | close t =>
        have ht : t = s := of_decide_eq_true turn
        simp only [effect, ht, if_true]
    | _ => cases turn
  · have other : call.turns s = false := Bool.eq_false_iff.2 turn
    have hnone : call.effect s none = none := by
      cases call <;> simp_all [effect, turns]
    unfold documentOf
    rw [lastTurn?_concat_of_not calls other, sinceTurn_concat_of_not calls other]
    -- the surface is as open as it was, and the call is one of those since its opening
    split
    · exact documentSince_concat _ _ _ _ other
    · exact hnone.symm

end WorkspaceCall

namespace Panes

theorem set_get {α : Type} (p : Panes α) (s : Surface) : p.set s (p.get s) = p := by
  cases s <;> rfl

end Panes

namespace Workspace

open WorkspaceCall (changeOf? changesOf documentOf documentOf_concat)

variable {w : Workspace} {s : Surface}

theorem get_set_documents (w : Workspace) (s t : Surface) (d : Option Document) :
    (w.documents.set t d).get s = if t = s then d else w.document s := by
  rw [Panes.get_set]
  by_cases ht : t = s
  · simp [ht]
  · simp [ht, Ne.symm ht, document]

/-- A document is replaced by another if there is one. -/
theorem get_map_documents (w : Workspace) (s t : Surface) (f : Document → Document) :
    (((w.document t).map fun d => w.documents.set t (some (f d))).getD w.documents).get s
      = if t = s then (w.document s).map f else w.document s := by
  cases hd : w.document t with
  | none =>
      show w.document s = _
      by_cases ht : t = s
      · subst ht
        simp [hd]
      · simp [ht]
  | some d =>
      refine (get_set_documents w s t _).trans ?_
      by_cases ht : t = s
      · subst ht
        simp [hd]
      · simp [ht]

/-- What a call leaves on a surface depends on what was there. -/
theorem document_perform (w : Workspace) (s : Surface) (call : WorkspaceCall) :
    (w.perform call).2.document s = call.effect s (w.document s) := by
  cases call with
  | openDocument t uri language text => exact get_set_documents w s t _
  | close t => exact get_set_documents w s t _
  | setText t text =>
      refine Eq.trans ?_ (get_map_documents w s t _)
      simp only [perform, setText]
      cases w.document t <;> rfl
  | setLanguage t language =>
      refine Eq.trans ?_ (get_map_documents w s t _)
      simp only [perform, setLanguage]
      cases w.document t <;> rfl
  | _ => rfl

/-- A new workspace keeps the documents that it must have. -/
theorem document_after (s : Surface) (calls : List WorkspaceCall) :
    (empty.after calls).document s = documentOf s calls := by
  induction calls using List.reverseRecOn with
  | nil => cases s <;> rfl
  | append_singleton calls call ih =>
      rw [after_concat, document_perform, ih, documentOf_concat]

/-- The change that a call makes is one of the document that it leaves. -/
theorem made_perform (calls : List WorkspaceCall) (call : WorkspaceCall) :
    ((empty.after calls).perform call).1.made = (changeOf? (calls ++ [call])).toList := by
  simp only [changeOf?, List.getLast?_concat]
  cases call with
  | setText s text =>
      dsimp only
      rw [documentOf_concat, ← document_after]
      simp only [perform, setText, WorkspaceCall.effect, if_true]
      cases (empty.after calls).document s <;> rfl
  | setLanguage s language =>
      simp only [perform, setLanguage]
      cases (empty.after calls).document s <;> rfl
  | _ => rfl

theorem madeIn_concat (calls : List WorkspaceCall) (call : WorkspaceCall) (w : Workspace) :
    w.madeIn (calls ++ [call]) = w.madeIn calls ++ ((w.after calls).perform call).1.made := by
  induction calls generalizing w with
  | nil => exact List.append_nil _
  | cons first calls ih =>
      calc w.madeIn (first :: calls ++ [call])
          = (w.perform first).1.made ++ (w.perform first).2.madeIn (calls ++ [call]) := rfl
        _ = (w.perform first).1.made ++ ((w.perform first).2.madeIn calls
              ++ (((w.perform first).2.after calls).perform call).1.made) := by rw [ih]
        _ = w.madeIn (first :: calls) ++ ((w.after (first :: calls)).perform call).1.made :=
          (List.append_assoc ..).symm

/-- The changes that calls of a new workspace make are those that they must make. -/
theorem madeIn_eq (calls : List WorkspaceCall) : empty.madeIn calls = changesOf calls := by
  induction calls using List.reverseRecOn with
  | nil => rfl
  | append_singleton calls call ih =>
      have hinits : (calls ++ [call]).inits = calls.inits ++ [calls ++ [call]] := by
        simp [List.inits_append]
      rw [madeIn_concat, ih, made_perform, changesOf, changesOf, hinits, List.filterMap_append]
      cases h : changeOf? (calls ++ [call]) <;> simp [h]

/-- A change keeps what it was made of when its document is replaced. -/
example : changesOf [.openDocument .schema "a" "yaml" "", .setText .schema "x",
      .openDocument .schema "b" "ov" "", .setText .output "", .setText .schema "y"]
    = [⟨.schema, "a", "yaml", 2, "x"⟩, ⟨.schema, "b", "ov", 2, "y"⟩] := by
  cbv

/-- A surface without a document accepts no calls but an opening. -/
theorem perform_of_closed (closed : w.document s = none) (text language : String) :
    w.perform (.setText s text) = (.refused ⟨s⟩, w)
      ∧ w.perform (.setLanguage s language) = (.refused ⟨s⟩, w)
      ∧ w.perform (.close s) = (.closed none, w) := by
  refine ⟨by simp only [perform, setText, closed], by simp only [perform, setLanguage, closed], ?_⟩
  have hset : w.documents.set s none = w.documents := by
    have hget : w.documents.get s = none := closed
    rw [← hget]
    exact w.documents.set_get s
  show (WorkspaceAnswer.closed (w.document s), { w with documents := w.documents.set s none }) = _
  rw [closed, hset]

/-- The changes that have been taken from a new workspace, followed by those that wait, are the
changes that its calls have made, and these are the ones that the calls must make. Every surface has
the document that it must have, and what a surface without a document refuses changes nothing. -/
theorem log_of_calls (calls : List WorkspaceCall) :
    empty.takenIn calls ++ (empty.after calls).changes = empty.madeIn calls
      ∧ empty.madeIn calls = changesOf calls
      ∧ (∀ s, (empty.after calls).document s = documentOf s calls)
      ∧ ∀ s text language, documentOf s calls = none →
        (empty.after calls).perform (.setText s text) = (.refused ⟨s⟩, empty.after calls)
          ∧ (empty.after calls).perform (.setLanguage s language)
            = (.refused ⟨s⟩, empty.after calls)
          ∧ (empty.after calls).perform (.close s) = (.closed none, empty.after calls) := by
  refine ⟨takenIn_append_changes calls empty, madeIn_eq calls, fun s => document_after s calls, ?_⟩
  intro s text language closed
  exact perform_of_closed ((document_after s calls).trans closed) text language

end Workspace

end SurfaceBridge
