import Haml.Text.Basic

/-! # Character entities

Text that is shown in a page must not be taken for markup, so the characters that have a meaning
there are written as entities.
-/

namespace Haml.Text

/-- The characters that are written as entities, with those entities. -/
def entities : List (Char × Text) :=
  [('&', "&amp;"), ('<', "&lt;"), ('>', "&gt;"), ('"', "&quot;"), ('\'', "&#x27;")].map
    fun (c, entity) => (c, entity.toList)

/-- A character as it is written in a page. -/
def entity (c : Char) : Text :=
  (entities.lookup c).getD [c]

/-- The text as it is written in a page. -/
def withEntities (text : Text) : Text :=
  text.flatMap entity

end Haml.Text
