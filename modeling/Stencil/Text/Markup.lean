/-!
# Texts in markup

Escaping makes a text safe inside a document, and stripping takes the tags out of one.
-/

namespace Stencil.Text

/-- How a character is written in a document. The five characters with a meaning of their own are
written as entities. -/
def entity (c : Char) : List Char :=
  if c = '&' then "&amp;".toList
  else if c = '<' then "&lt;".toList
  else if c = '>' then "&gt;".toList
  else if c = '"' then "&quot;".toList
  else if c = '\'' then "&#39;".toList
  else [c]

/-- A text as it is written in a document. -/
def escapeMarkup (text : List Char) : List Char := text.flatMap entity

/-- The state of stripping after some of a text: what is kept, in reverse, and whether a tag is
open. -/
structure Stripping where
  kept : List Char := []
  inTag : Bool := false

/-- Reads one more character. A `<` always opens a tag, and a `>` closes an open one. -/
def Stripping.next (state : Stripping) (c : Char) : Stripping :=
  if c = '<' then { state with inTag := true }
  else if state.inTag then { state with inTag := c ≠ '>' }
  else { state with kept := c :: state.kept }

/-- A text without its tags. A tag that is never closed reaches to the end. -/
def stripTags (text : List Char) : List Char :=
  (text.foldl Stripping.next {}).kept.reverse

end Stencil.Text
