import Stencil.Library.Arguments
import Stencil.Regex.Replacement
import Stencil.Text.Slug
/-!
# Functions that match or rebuild texts

Replacement by patterns, and slugs.
-/

namespace Stencil.Patterns

/-- Replaces every match of the first argument, which is a pattern, by the second. -/
def regexReplace : Body := fun value args =>
  match Regex.compile (args.textOr 0 "") with
  | .error report => .error ⟨"regexReplace", .badPattern report⟩
  | .ok matcher =>
    let replacement := args.textOr 1 ""
    .ok (.string (String.ofList
      (Regex.replaceAll matcher replacement.toList value.text.toList)))

/-- The slug of the text. -/
def slugify : Body := .total fun value _ => .string (String.ofList (Text.slug value.text.toList))

end Stencil.Patterns
