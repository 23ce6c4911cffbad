import Haml.Text.Blank

/-! # Document types

A document type line is a row of exclamation marks and a key, and stands for the declaration
that belongs to the key.
-/

namespace Haml.Doctype

/-- The declaration of a published document type. -/
def published (identifier location : String) : String :=
  "<!DOCTYPE html PUBLIC \"" ++ identifier ++ "\" \"" ++ location ++ "\">"

/-- The declarations by key. -/
def declarations : List (Text × Text) :=
  [("5", "<!DOCTYPE html>"),
    ("xml", "<?xml version=\"1.0\" encoding=\"utf-8\" ?>"),
    ("default", published "-//W3C//DTD XHTML 1.0 Transitional//EN"
      "http://www.w3.org/TR/xhtml1/DTD/xhtml1-transitional.dtd"),
    ("strict", published "-//W3C//DTD XHTML 1.0 Strict//EN"
      "http://www.w3.org/TR/xhtml1/DTD/xhtml1-strict.dtd"),
    ("frameset", published "-//W3C//DTD XHTML 1.0 Frameset//EN"
      "http://www.w3.org/TR/xhtml1/DTD/xhtml1-frameset.dtd"),
    ("1.1", published "-//W3C//DTD XHTML 1.1//EN"
      "http://www.w3.org/TR/xhtml11/DTD/xhtml11.dtd"),
    ("basic", published "-//W3C//DTD XHTML Basic 1.1//EN"
      "http://www.w3.org/TR/xhtml-basic/xhtml-basic11.dtd"),
    ("mobile", published "-//WAPFORUM//DTD XHTML Mobile 1.2//EN"
      "http://www.openmobilealliance.org/tech/DTD/xhtml-mobile12.dtd")].map
    fun (key, declaration) => (key.toList, declaration.toList)

/-- The key of a line: what follows the exclamation marks, or `default` where nothing does. -/
def key (line : Text) : Text :=
  let named := Text.trim (line.dropWhile (· == '!'))
  if named.isEmpty then "default".toList else named

/-- The declaration that a line stands for, if its key has one. -/
def declaration? (line : Text) : Option Text :=
  declarations.lookup (key line)

end Haml.Doctype
