import Stencil.Library.Sequences
import Stencil.Text.Blank
import Stencil.Text.Case
import Stencil.Text.Markup
/-!
# Functions on texts

Any value is taken as its text. Positions and lengths count characters.
-/

namespace Stencil.Texts

/-- A body that makes a text of the text of the value. -/
def onText (f : List Char → List Char) : Body := .total fun value _ =>
  .string (String.ofList (f value.text.toList))

/-- The text in capitals. -/
def upper : Body := onText Text.capitals

/-- The text in small letters. -/
def lower : Body := onText Text.smallLetters

/-- The text with a capital first and small letters after it. -/
def capitalize : Body := onText Text.capitalized

/-- The text with a capital at the start of every word. Words end at blanks. -/
def title : Body := onText fun text =>
  [' '].intercalate ((Text.splitOn [' '] text).map Text.capitalized)

/-- The text without white space around it. -/
def trim : Body := onText Text.trim

/-- The text without white space before it. -/
def trimStart : Body := onText Text.trimStart

/-- The text without white space after it. -/
def trimEnd : Body := onText Text.trimEnd

/-- The first `count` characters of endless repetitions of a text that is not empty. -/
def cycled (fill : List Char) (count : Nat) : List Char :=
  (List.replicate (count / fill.length + 1) fill).flatten.take count

/-- Brings a text to a length by adding to it. The second argument is what is added, a blank if it is
not given; a text that is long enough stays as it is. -/
def pad (function : String) (add : List Char → List Char → List Char) : Body := fun value args => do
  let text := value.text.toList
  let length := (← args.integerOr function 0 0).toNat
  let fill := (args.textOr 1 " ").toList
  if length ≤ text.length ∨ fill.isEmpty then .ok (.string (String.ofList text))
  else
    checkGenerated function length
    .ok (.string (String.ofList (add text (cycled fill (length - text.length)))))

/-- Adds before the text. -/
def padStart : Body := pad "padStart" fun text padding => padding ++ text

/-- Adds after the text. -/
def padEnd : Body := pad "padEnd" fun text padding => text ++ padding

/-- Replaces every occurrence of the first argument by the second. -/
def replace : Body := .total fun value args =>
  let text := value.text.toList
  let search := (args.textOr 0 "").toList
  if search.isEmpty then .string (String.ofList text)
  else .string (String.ofList (Text.replaceAll search (args.textOr 1 "").toList text))

/-- The pieces of the text between separators, or its characters if the separator is empty. -/
def split : Body := .total fun value args =>
  let text := value.text.toList
  let separator := (args.textOr 0 ",").toList
  if separator.isEmpty then .array (text.map .ofChar)
  else .array ((Text.splitOn separator text).map fun piece => .string (String.ofList piece))

/-- Brings a position into `0 … length`. -/
def clampedPosition (position : Int) (length : Nat) : Nat := min position.toNat length

/-- The characters between two positions, which may come in either order. -/
def substring : Body := fun value args => do
  let text := value.text.toList
  let first := clampedPosition (← args.integerOr "substring" 0 0) text.length
  let second := clampedPosition (← args.integerOr "substring" 1 text.length) text.length
  .ok (.string (String.ofList (Sequence.between text (min first second, max first second))))

/-- The text cut to a length, with a suffix where something was cut off. -/
def truncate : Body := fun value args => do
  let text := value.text.toList
  let length := (← args.integerOr "truncate" 0 0).toNat
  if text.length ≤ length then .ok (.string (String.ofList text))
  else .ok (.string (String.ofList (text.take length) ++ args.textOr 1 "..."))

/-- Whether the text begins with the argument. -/
def startsWith : Body := .total fun value args =>
  .bool ((args.textOr 0 "").toList.isPrefixOf value.text.toList)

/-- Whether the text ends with the argument. -/
def endsWith : Body := .total fun value args =>
  .bool ((args.textOr 0 "").toList.isSuffixOf value.text.toList)

/-- Whether the text contains the argument, or an array has it as an element. -/
def contains : Body := .total fun value args =>
  match value with
  | .array items => .bool (Sequence.hasItem items args)
  | other => .bool (Sequence.containsText other.text args)

/-- The text several times in a row. -/
def repeated : Body := fun value args => do
  let count ← args.integerOr "repeat" 0 0
  if count < 0 then .error ⟨"repeat", .negativeCount⟩
  else
    let text := value.text
    checkGenerated "repeat" (min (text.utf8ByteSize * count.toNat) maxCount)
    if text.isEmpty then .ok (.string "")
    else .ok (.string (String.ofList (List.replicate count.toNat text.toList).flatten))

/-- The text as it is written in a document. -/
def escapeHtml : Body := onText Text.escapeMarkup

/-- The text without tags. -/
def stripTags : Body := onText Text.stripTags

/-- The number of words. Words are separated by white space. -/
def countWords (text : List Char) : Nat :=
  (text.foldl (fun (count, inWord) c =>
    if Text.isBlank c then (count, false)
    else (if inWord then count else count + 1, true)) (0, false)).1

/-- The number of words in the text. -/
def wordCount : Body := .total fun value _ => .ofNat (countWords value.text.toList)

end Stencil.Texts
