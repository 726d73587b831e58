/-!
The lexical classes that highlighting tells apart.
-/

namespace TurtleEdit

/-- A lexical class, which a host maps onto a colour. -/
inductive Style where
  /-- A directive word. -/
  | keyword
  /-- The namespace that a directive declares. -/
  | namespaceName
  /-- A string, short or long. -/
  | string
  /-- An iri that types a literal. -/
  | datatypeIri
  /-- A name that types a literal. -/
  | datatypeName
  /-- The language of a literal. -/
  | language
  /-- An iri in angle brackets. -/
  | iri
  /-- A labelled anonymous node. -/
  | blankNode
  /-- A name with a namespace. -/
  | prefixedName
  /-- A mark, or the short word for the type predicate, between blanks. -/
  | punctuation
  /-- A comment to the end of its line. -/
  | comment
  deriving DecidableEq, Repr

namespace Style

/-- Every style, in the order of their numbers. -/
def all : List Style :=
  [keyword, namespaceName, string, datatypeIri, datatypeName, language, iri, blankNode,
    prefixedName, punctuation, comment]

/-- The name under which a style is reported. -/
def name : Style → String
  | keyword => "KEYWORD"
  | namespaceName => "NAMESPACE"
  | string => "STRING"
  | datatypeIri => "DATATYPE_URI"
  | datatypeName => "DATATYPE_NAME"
  | language => "LANGUAGE"
  | iri => "URI"
  | blankNode => "BLANK_NODE"
  | prefixedName => "PREFIXED_NAME"
  | punctuation => "PUNCTUATION"
  | comment => "COMMENT"

/-- The style with a given name. -/
def ofName? (name : String) : Option Style := all.find? (·.name == name)

/-- The number of a style, counted from one. -/
def number (style : Style) : Nat := style.ctorIdx + 1

/-- How a terminal shows a style. -/
def terminal : Style → String
  | keyword => "bold magenta"
  | namespaceName => "cyan"
  | string => "green"
  | datatypeIri | datatypeName | language => "yellow"
  | iri => "blue"
  | blankNode => "italic cyan"
  | prefixedName => "cyan"
  | punctuation => "bold"
  | comment => "dim"

end Style

end TurtleEdit
