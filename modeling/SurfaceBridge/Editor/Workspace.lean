import SurfaceBridge.Counter
import SurfaceBridge.Editor.Surface
import SurfaceBridge.Highlight.Classifier
import SurfaceBridge.Language.Registry

set_option autoImplicit false

/-! # The workspace

The workspace holds the documents of the surfaces, the changes that nobody has taken yet, the
classifier of each language, and the languages. Changing a text tells nobody: the change waits
until it is taken.
-/

namespace SurfaceBridge

/-- What the editor holds. Changes wait in the order in which they were made. -/
structure Workspace where
  documents : Panes (Option Document)
  changes : List Change
  classifiers : List (String × Classifier)
  languages : LanguageRegistry

/-- A surface has no document. -/
structure SurfaceNotOpen where
  surface : Surface

/-- The sentence for a surface without a document. -/
def SurfaceNotOpen.message (e : SurfaceNotOpen) : String :=
  "surface '" ++ e.surface.name ++ "' has no open model"

namespace Workspace

/-- No documents, and the languages that are known from the start. -/
def empty : Workspace := ⟨.all none, [], [], .initial⟩

/-- The document of a surface. -/
def document (w : Workspace) (s : Surface) : Option Document := w.documents.get s

/-- Whether a surface has a document. -/
def isOpen (w : Workspace) (s : Surface) : Bool := (w.document s).isSome

/-- The text of a surface. -/
def text (w : Workspace) (s : Surface) : Option String := (w.document s).map (·.text)

/-- The address of the document of a surface. -/
def uri (w : Workspace) (s : Surface) : Option String := (w.document s).map (·.uri)

/-- Gives a surface a new document. This is not a change of a text. -/
def openDocument (s : Surface) (uri language text : String) (w : Workspace) : Workspace :=
  { w with documents := w.documents.set s (some ⟨uri, language, text, 1⟩) }

/-- Takes the document of a surface away. -/
def close (s : Surface) (w : Workspace) : Option Document × Workspace :=
  (w.document s, { w with documents := w.documents.set s none })

/-- Replaces the text of a surface. The change waits until it is taken. -/
def setText (s : Surface) (text : String) (w : Workspace) :
    Except SurfaceNotOpen (Change × Workspace) :=
  match w.document s with
  | none => .error ⟨s⟩
  | some d =>
    let d := { d with text := text, version := Counter.next Counter.limit64 d.version }
    let change : Change := ⟨s, d.uri, d.language, d.version, d.text⟩
    .ok (change,
      { w with documents := w.documents.set s (some d), changes := w.changes ++ [change] })

/-- Replaces the language of a surface. This is not a change of its text. -/
def setLanguage (s : Surface) (language : String) (w : Workspace) :
    Except SurfaceNotOpen Workspace :=
  match w.document s with
  | none => .error ⟨s⟩
  | some d => .ok { w with documents := w.documents.set s (some { d with language := language }) }

/-- Takes all changes that wait, the oldest first. -/
def takeChanges (w : Workspace) : List Change × Workspace := (w.changes, { w with changes := [] })

/-- Whether changes wait. -/
def hasPendingChanges (w : Workspace) : Bool := !w.changes.isEmpty

/-- Installs the classifier of a language in place of any other. -/
def setClassifier (language : String) (c : Classifier) (w : Workspace) : Workspace :=
  { w with classifiers := Dictionary.insert language c w.classifiers }

/-- The classifier of a language. -/
def classifier? (w : Workspace) (language : String) : Option Classifier :=
  Dictionary.lookup language w.classifiers

/-- The spans of the text of a surface, if there is one and its language has a classifier. -/
def classify (w : Workspace) (s : Surface) : List TokenSpan :=
  match w.document s with
  | none => []
  | some d =>
    match w.classifier? d.language with
    | none => []
    | some c => c.classify d.text

/-- Changes the languages. -/
def withLanguages (f : LanguageRegistry → LanguageRegistry) (w : Workspace) : Workspace :=
  { w with languages := f w.languages }

end Workspace

end SurfaceBridge
