import Haml.Markup
import Haml.Target.Emission

/-! # Targets

A dialect says what each request becomes in the generated program. A target is a dialect of which
some capabilities may be missing: a request for one of these fails and is not recorded as a call.
-/

namespace Haml

/-- The identity and the classes of an element that also has an attribute block. -/
structure AttributeDefaults where
  id : Option Text
  className : Option Text
  deriving DecidableEq, Repr

/-- What each request becomes in the generated program. -/
structure Dialect where
  /-- The finished program around the code of the top-level lines. -/
  program : List Text → Text
  /-- Lines that show markup. -/
  content : Markup → List Text
  /-- Lines that show the value of an expression. -/
  expression : Text → List Text
  /-- Lines of a statement around the code that is nested under it. -/
  statement : Text → Text → List Text
  /-- Lines that note the number of the line that runs next. -/
  lineMarker : Nat → List Text
  /-- Code that computes the attributes of an element. -/
  attributes : Text → AttributeDefaults → Text
  /-- Code that computes what an element holds. -/
  evaluation : Text → Text

/-- A dialect without the capabilities that are missing. -/
structure Target where
  dialect : Dialect
  missing : List Capability

namespace Target

/-- The answer to a request: the given code, unless the capability is missing. -/
def answer {α : Type} (target : Target) (capability : Capability) (code : α) : Emission α :=
  if target.missing.contains capability then
    .fail (.unsupported (.capability capability))
  else
    ⟨[capability], .ok code⟩

/-- Asks for the finished program. -/
def program (target : Target) (blocks : List Text) : Emission Text :=
  target.answer .program (target.dialect.program blocks)

/-- Asks for lines that show markup. -/
def content (target : Target) (markup : Markup) : Emission (List Text) :=
  target.answer .content (target.dialect.content markup)

/-- Asks for lines that show the value of an expression. -/
def expression (target : Target) (source : Text) : Emission (List Text) :=
  target.answer .expression (target.dialect.expression source)

/-- Asks for lines of a statement around its body. -/
def statement (target : Target) (line body : Text) : Emission (List Text) :=
  target.answer .statement (target.dialect.statement line body)

/-- Asks for lines that note a line number. -/
def lineMarker (target : Target) (number : Nat) : Emission (List Text) :=
  target.answer .lineMarker (target.dialect.lineMarker number)

/-- Asks for code that computes attributes. -/
def attributes (target : Target) (block : Text) (defaults : AttributeDefaults) : Emission Text :=
  target.answer .attributes (target.dialect.attributes block defaults)

/-- Asks for code that computes what an element holds. -/
def evaluation (target : Target) (source : Text) : Emission Text :=
  target.answer .evaluation (target.dialect.evaluation source)

end Target

end Haml
