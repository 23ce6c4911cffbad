import Haml.Element.Basic

/-! # Compiler options

Two things about a line are left to configuration: which tags close themselves and whether document
type lines are enabled.
-/

namespace Haml

/-- What the meaning of a line depends on, apart from the line. -/
structure Options where
  /-- The tags that close themselves. -/
  selfClosing : List Text
  /-- Whether document type lines are enabled. -/
  doctypes : Bool
  deriving DecidableEq, Repr

/-- The options unless others are configured. -/
def Options.standard : Options where
  selfClosing := Element.selfClosingTags
  doctypes := false

end Haml
