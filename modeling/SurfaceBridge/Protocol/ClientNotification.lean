import SurfaceBridge.Editor.Controls
import SurfaceBridge.Rpc.Frame

set_option autoImplicit false

/-! # Notifications to the server

The server is told about the text of the schema and about the selected options, each together
with the address of the primary document.
-/

namespace SurfaceBridge

/-- A notification to the server. -/
inductive ClientNotification where
  | schemaChanged (schema uri : String)
  | optionChanged (kind : OptionKind) (value uri : String)
deriving DecidableEq

namespace ClientNotification

/-- The method of a notification. -/
def method : ClientNotification → String
  | schemaChanged _ _ => "ov/schemaChanged"
  | optionChanged .culture _ _ => "ov/cultureChanged"
  | optionChanged .language _ _ => "ov/languageChanged"

/-- The params of a notification. -/
def params : ClientNotification → Json
  | schemaChanged schema uri => .object [("schema", .text schema), ("uri", .text uri)]
  | optionChanged .culture value uri => .object [("culture", .text value), ("uri", .text uri)]
  | optionChanged .language value uri => .object [("language", .text value), ("uri", .text uri)]

/-- The frame of a notification. -/
def frame (n : ClientNotification) : Rpc.Frame := .notification n.method n.params

end ClientNotification

end SurfaceBridge
