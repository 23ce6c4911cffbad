import Haml.Element.Basic
import Haml.Target.Basic
import Haml.Text.Entity

/-! # Tags of an element

An element becomes an opening tag, what it holds on its own line, and a closing tag unless it
closes itself. Attributes that are known are written out; a block of attributes is left to the
target, which is given the identity and the classes as defaults.
-/

namespace Haml.Element

/-- The markup of an element. -/
structure Tags where
  opening : Markup
  body : Option Markup
  closing : Option Markup
  deriving DecidableEq, Repr

/-- The markup for a reader. -/
def Tags.plain (tags : Tags) : Text :=
  let shown (markup : Option Markup) := (markup.map Markup.plain).getD []
  tags.opening.plain ++ shown tags.body ++ shown tags.closing

/-- An attribute with its value, and a space after it. -/
def writtenAttribute (name : String) (value : Text) : Text :=
  name.toList ++ "=\"".toList ++ value ++ "\" ".toList

/-- What an attribute block has to be completed with. -/
def defaults (element : Element) : AttributeDefaults where
  id := element.id
  className := element.classAttribute

/-- The opening tag up to its end. -/
def openingStart (target : Target) (element : Element) : Emission Markup := do
  let start := Markup.literal ('<' :: element.tag ++ [' '])
  match element.attributes with
  | some block => return start.pushCode (← target.attributes block element.defaults)
  | none =>
    let identity := (element.id.map (writtenAttribute "id")).getD []
    let classes := (element.classAttribute.map (writtenAttribute "class")).getD []
    return (start.pushLiteral identity).pushLiteral classes

/-- What the element holds on its own line. -/
def body (target : Target) (element : Element) : Emission (Option Markup) :=
  match element.inline with
  | some (.text text) => pure (some (.literal text.withEntities))
  | some (.expression source) => do return some (.code (← target.evaluation source))
  | none => pure none

/-- The markup of an element in the given target. -/
def tags (target : Target) (element : Element) : Emission Tags := do
  let start ← openingStart target element
  let body ← body target element
  if element.selfClosing then
    return { opening := start.pushLiteral "/>".toList, body, closing := none }
  else
    return {
      opening := start.pushLiteral ['>']
      body
      closing := some (.literal ("</".toList ++ element.tag ++ ['>']))
    }

end Haml.Element
