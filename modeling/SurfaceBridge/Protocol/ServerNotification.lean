import SurfaceBridge.Highlight.TokenClass
import SurfaceBridge.Json.Decoder

set_option autoImplicit false

/-! # Notifications from the server

The server pushes highlighting tables, generated code, a token for comments, and messages for
the log. The payload of the first two may be a JSON structure or a text that holds JSON; both are
decoded in the same way.

A row of a highlighting table is a pair of a pattern and a class, or an object with a member for
the pattern and one of several names for the class. Rows without a pattern are left out.
-/

namespace SurfaceBridge

/-- How urgent a message for the log is. -/
inductive Severity where
  | error
  | warning
  | info
  | log
deriving DecidableEq

/-- The severity with a number. -/
def Severity.ofNumber? : Nat → Option Severity
  | 1 => some .error
  | 2 => some .warning
  | 3 => some .info
  | 4 => some .log
  | _ => none

/-- A notification from the server. `shown` says that a message is meant to be shown and not
only logged. -/
inductive ServerNotification where
  | highlighting (rows : List (String × TokenClass))
  | generatedCode (language implementation : String)
  | commentKeyword (token : String)
  | message (shown : Bool) (severity : Severity) (text : String)
deriving DecidableEq

/-- Why a payload is refused. -/
inductive PayloadError where
  | malformed (method : String) (problem : Json.Problem)
  | unexpected (method expected : String)

/-! ## Highlighting tables -/

/-- The fields of a row that have been read. -/
structure HighlightDraft where
  pattern : Option (Option String)
  kind : Option TokenClass

/-- How a row that is given as an object is decoded. -/
def HighlightDraft.schema :
    Json.Schema HighlightDraft (Option String × TokenClass) where
  type := "struct variant HighlightEntry::Object"
  fields := [
    .ofDecoder ["pattern"] true (.optional .text) (·.pattern)
      (fun v d => { d with pattern := some v }),
    .ofDecoder ["token", "class", "tokenClass", "range"] false TokenClass.decoder (·.kind)
      (fun v d => { d with kind := some v })]
  start := ⟨none, none⟩
  finish d :=
    match d.kind with
    | none => .error (.missingField "token")
    | some kind => .ok (d.pattern.getD none, kind)

/-- A row as it is written: its pattern, if there is one, and its class. -/
def highlightEntry (v : Json) : Option (Option String × TokenClass) :=
  match v with
  | .list [pattern, kind] =>
    match (Json.Decoder.optional .text).fromValue pattern, TokenClass.decoder.fromValue kind with
    | .ok p, .ok k => some (p, k)
    | _, _ => none
  | .object members =>
    match HighlightDraft.schema.takeMembers members HighlightDraft.schema.start with
    | .ok d => (HighlightDraft.schema.finish d).toOption
    | .error _ => none
  | _ => none

/-- The decoder of a row. A row is read completely before it is judged. -/
def highlightDecoder : Json.Decoder (Option String × TokenClass) :=
  .judged fun v =>
    match highlightEntry v with
    | some row => .ok row
    | none => .error (.noVariant "HighlightEntry")

/-- The row with its pattern, unless the pattern is missing or empty. -/
def filledRow (row : Option String × TokenClass) : Option (String × TokenClass) :=
  match row.1 with
  | none => none
  | some pattern => if pattern.isEmpty then none else some (pattern, row.2)

/-! ## Generated code -/

/-- The fields of generated code that have been read. -/
structure CodeDraft where
  language : Option String
  implementation : Option String

/-- How generated code is decoded. -/
def CodeDraft.schema : Json.Schema CodeDraft (String × String) where
  type := "struct GeneratedCode"
  fields := [
    .ofDecoder ["language"] false .text (·.language) (fun v d => { d with language := some v }),
    .ofDecoder ["implementation"] false .text (·.implementation)
      (fun v d => { d with implementation := some v })]
  start := ⟨none, none⟩
  finish d :=
    match d.language, d.implementation with
    | none, _ => .error (.missingField "language")
    | _, none => .error (.missingField "implementation")
    | some language, some implementation => .ok (language, implementation)

/-! ## Payloads -/

/-- Decodes a payload, or the JSON in it if it is a text. -/
def decodePayload {α : Type} (d : Json.Decoder α) (method : String) (params : Json) :
    Except PayloadError α :=
  match params with
  | .text s =>
    match d.decode s with
    | .error e => .error (.malformed method e.problem)
    | .ok a => .ok a
  | v =>
    match d.fromValue v with
    | .error m => .error (.malformed method (.mismatch m))
    | .ok a => .ok a

/-- The message for the log in a payload. -/
def messageOf (shown : Bool) (method : String) (params : Json) :
    Except PayloadError ServerNotification :=
  let severity := ((params.get? "type").bind Json.natural?).bind Severity.ofNumber?
  let text := (params.get? "message").bind Json.text?
  match severity, text with
  | some severity, some text => .ok (.message shown severity text)
  | _, _ => .error (.unexpected method "\x7b type, message \x7d")

namespace ServerNotification

/-- The method of a notification. -/
def method : ServerNotification → String
  | highlighting _ => "ov/semanticHighlightingUpdated"
  | generatedCode _ _ => "ov/generatedCodeUpdated"
  | commentKeyword _ => "ov/commentKeywordChanged"
  | message false _ _ => "window/logMessage"
  | message true _ _ => "window/showMessage"

/-- The notification with a method and params; none for a method that is not known. -/
def decode (method : String) (params : Json) : Except PayloadError (Option ServerNotification) :=
  match method with
  | "ov/semanticHighlightingUpdated" =>
    (decodePayload (.list highlightDecoder) method params).map fun rows =>
      some (.highlighting (rows.filterMap filledRow))
  | "ov/generatedCodeUpdated" =>
    (decodePayload CodeDraft.schema.decoder method params).map fun (language, implementation) =>
      some (.generatedCode language implementation)
  | "ov/commentKeywordChanged" =>
    match params with
    | .text token => .ok (some (.commentKeyword token))
    | _ => .error (.unexpected method "a string")
  | "window/logMessage" => (messageOf false method params).map some
  | "window/showMessage" => (messageOf true method params).map some
  | _ => .ok none

end ServerNotification

end SurfaceBridge
