import TurtleEdit.Highlight.Pattern
import TurtleEdit.Highlight.Style

/-!
Highlighting rules and the standard table.

A rule paints the whole of each match of its pattern, or the part a group took, in its style.
Unless it overrides, it leaves alone what earlier rules painted. The order of the table matters:
strings and comments come first, so that iris and names inside them stay unpainted.
-/

namespace TurtleEdit

/-- One entry of a rule table. Group 0 is the whole match. -/
structure Rule where
  name : String
  pattern : Pattern
  style : Style
  group : Int
  overrides : Bool
  deriving DecidableEq, Repr

/-- The standard table, in the order of application. -/
def standardRules : List Rule := [
  ⟨"long-string", .longString, .string, 0, false⟩,
  ⟨"string", .string, .string, 0, false⟩,
  ⟨"comment", .comment, .comment, 1, false⟩,
  ⟨"prefix-keyword", .directive "@prefix", .keyword, 1, false⟩,
  ⟨"prefix-namespace", .declaredNamespace, .namespaceName, 1, false⟩,
  ⟨"base-keyword", .directive "@base", .keyword, 1, false⟩,
  ⟨"datatype-uri", .datatypeIri, .datatypeIri, 1, false⟩,
  ⟨"datatype-name", .datatypeName, .datatypeName, 1, false⟩,
  ⟨"language", .language, .language, 1, false⟩,
  ⟨"uri", .iri, .iri, 0, false⟩,
  ⟨"blank-node", .blankNode, .blankNode, 0, false⟩,
  ⟨"prefixed-name", .prefixedName, .prefixedName, 0, false⟩,
  ⟨"punctuation", .punctuation, .punctuation, 1, false⟩]

/-- Small patterns beside the standard ones, by name, for tables of one's own. -/
def smallPatterns : List (String × Pattern) := [
  ("x", .single 'x'),
  ("x-star", .run 'x'),
  ("a-or-b", .either 'a' 'b'),
  ("angle", .enclosed '<' '>'),
  ("at-word", .marked '@')]

/-- The rule that paints the whole matches of a named pattern: a standard one in the style of its
rule, a small one as a comment. -/
def Rule.ofName? (name : String) : Option Rule :=
  match standardRules.find? (·.name == name) with
  | some rule => some ⟨name, rule.pattern, rule.style, 0, false⟩
  | none => (smallPatterns.lookup name).map fun pattern => ⟨name, pattern, .comment, 0, false⟩

namespace Rule

/-- The pattern has the group that the rule paints. -/
def groupExists (rule : Rule) : Bool := 0 ≤ rule.group && rule.group ≤ rule.pattern.groups

/-- The part of a match that the rule paints. A group that took no part has none. -/
def target (rule : Rule) (found : Match) : Option (Nat × Nat) :=
  if rule.group = 0 then some (found.start, found.stop) else found.group

end Rule

end TurtleEdit
