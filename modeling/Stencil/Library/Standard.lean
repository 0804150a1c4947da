import Stencil.Library.Arithmetic
import Stencil.Library.Dates
import Stencil.Library.Elements
import Stencil.Library.Patterns
import Stencil.Library.Records
import Stencil.Library.Rounding
import Stencil.Library.Texts
/-!
# The standard library

The functions that every template can call unless it is given other ones, with the descriptions that
tools show.
-/

namespace Stencil.Library

/-- A parameter that must be given. -/
def required (name type : String) : Parameter := ⟨name, type, false⟩

/-- A parameter that may be left out. -/
def optional (name type : String) : Parameter := ⟨name, type, true⟩

/-- A function that leaves nothing in the log. -/
def entry (category : Category) (name description returns : String) (parameters : List Parameter)
    (examples : List String) (body : Body) : Function :=
  .ofBody { name, category, description, parameters, returns, examples } body

/-- Adds to a function what its calls leave in the log. -/
def noting (function : Function) (remarks : Value → Arguments → List String) : Function :=
  { function with remarks }

def texts : List Function :=
  [
    entry .string "upper" "Converts to upper case" "string" [] ["'abc' | upper => 'ABC'"]
      Texts.upper,
    entry .string "lower" "Converts to lower case" "string" [] ["'ABC' | lower => 'abc'"]
      Texts.lower,
    entry .string "capitalize" "Upper-cases the first character and lower-cases the rest" "string"
      [] ["'hELLO' | capitalize => 'Hello'"] Texts.capitalize,
    entry .string "title" "Capitalizes every space-separated word" "string" []
      ["'ada lovelace' | title => 'Ada Lovelace'"] Texts.title,
    entry .string "trim" "Strips surrounding whitespace" "string" [] ["'  a  ' | trim => 'a'"]
      Texts.trim,
    entry .string "trimStart" "Strips leading whitespace" "string" []
      ["'  a ' | trimStart => 'a '"] Texts.trimStart,
    entry .string "trimEnd" "Strips trailing whitespace" "string" [] ["' a  ' | trimEnd => ' a'"]
      Texts.trimEnd,
    entry .string "padStart" "Pads the start to a target length" "string"
      [required "length" "number", optional "fill" "string"] ["'5' | padStart(3, '0') => '005'"]
      Texts.padStart,
    entry .string "padEnd" "Pads the end to a target length" "string"
      [required "length" "number", optional "fill" "string"] ["'5' | padEnd(3, '-') => '5--'"]
      Texts.padEnd,
    entry .string "replace" "Replaces every occurrence of a substring" "string"
      [required "search" "string", required "replacement" "string"]
      ["'a-b-c' | replace('-', '+') => 'a+b+c'"] Texts.replace,
    entry .string "regexReplace"
      "Replaces every match of a regular expression; `$1` refers to groups" "string"
      [required "pattern" "string", required "replacement" "string"]
      ["'2024-01-05' | regexReplace('(\\d+)-(\\d+)-(\\d+)', '$3/$2/$1') => '05/01/2024'"]
      Patterns.regexReplace,
    entry .string "split" "Splits into an array; an empty separator splits characters" "array"
      [optional "separator" "string"] ["'a,b' | split(',') => ['a', 'b']"] Texts.split,
    entry .string "substring" "Characters from start up to, not including, end" "string"
      [required "start" "number", optional "end" "number"]
      ["'template' | substring(0, 4) => 'temp'"] Texts.substring,
    entry .string "truncate" "Shortens to a length, appending a suffix when cut" "string"
      [required "length" "number", optional "suffix" "string"]
      ["'abcdef' | truncate(3) => 'abc...'"] Texts.truncate,
    entry .string "startsWith" "Tests for a prefix" "boolean" [required "prefix" "string"]
      ["'quill' | startsWith('qu') => true"] Texts.startsWith,
    entry .string "endsWith" "Tests for a suffix" "boolean" [required "suffix" "string"]
      ["'quill' | endsWith('ll') => true"] Texts.endsWith,
    entry .string "contains" "Tests for a substring, or for an element when given an array"
      "boolean" [required "needle" "any"] ["'quill' | contains('ui') => true"] Texts.contains,
    entry .string "repeat" "Repeats the string" "string" [required "count" "number"]
      ["'ab' | repeat(2) => 'abab'"] Texts.repeated,
    entry .string "slugify" "Lower-case, dash-separated ASCII form" "string" []
      ["'Hello World!' | slugify => 'hello-world'"] Patterns.slugify,
    entry .string "escapeHtml" "Escapes the five HTML-significant characters" "string" []
      ["'<b>' | escapeHtml => '&lt;b&gt;'"] Texts.escapeHtml,
    entry .string "stripTags" "Removes anything between angle brackets" "string" []
      ["'<b>hi</b>' | stripTags => 'hi'"] Texts.stripTags,
    entry .string "wordCount" "Counts whitespace-separated words" "number" []
      ["'one two  three' | wordCount => 3"] Texts.wordCount
  ]

def numbers : List Function :=
  [
    entry .number "round" "Rounds half up to a number of decimal places" "number"
      [optional "digits" "number"] ["3.14159 | round(2) => 3.14"] Rounding.round,
    entry .number "floor" "Rounds down" "number" [] ["2.7 | floor => 2"] Rounding.floor,
    entry .number "ceil" "Rounds up" "number" [] ["2.1 | ceil => 3"] Rounding.ceil,
    entry .number "abs" "Absolute value" "number" [] ["-4 | abs => 4"] Arithmetic.abs,
    entry .number "min" "Smallest of an array, or of the value and the arguments" "number"
      [optional "others" "number"] ["[3, 1, 2] | min => 1", "5 | min(2) => 2"] Arithmetic.min,
    entry .number "max" "Largest of an array, or of the value and the arguments" "number"
      [optional "others" "number"] ["[3, 1, 2] | max => 3"] Arithmetic.max,
    entry .number "clamp" "Limits the value to a range" "number"
      [required "min" "number", required "max" "number"] ["15 | clamp(0, 10) => 10"]
      Arithmetic.clamp,
    entry .number "toFixed" "Formats with a fixed number of decimals" "string"
      [optional "digits" "number"] ["2.5 | toFixed(2) => '2.50'"] Rounding.toFixed,
    entry .number "percent" "Formats a ratio as a percentage" "string"
      [optional "digits" "number"] ["0.256 | percent(1) => '25.6%'"] Rounding.percent,
    entry .number "add" "Addition" "number" [required "n" "number"] ["2 | add(3) => 5"]
      Arithmetic.add,
    entry .number "subtract" "Subtraction" "number" [required "n" "number"]
      ["5 | subtract(3) => 2"] Arithmetic.subtract,
    entry .number "multiply" "Multiplication" "number" [required "n" "number"]
      ["2 | multiply(3) => 6"] Arithmetic.multiply,
    entry .number "divide" "Division; dividing by zero is an error" "number"
      [required "n" "number"] ["6 | divide(4) => 1.5"] Arithmetic.divide,
    entry .number "mod" "Remainder with the sign of the value" "number" [required "n" "number"]
      ["7 | mod(3) => 1"] Arithmetic.modulo,
    entry .number "pow" "Exponentiation" "number" [required "exponent" "number"]
      ["2 | pow(10) => 1024"] Arithmetic.power,
    entry .number "number" "Numeric coercion" "number" [] ["'42' | number => 42"]
      Arithmetic.number,
    entry .number "formatNumber" "Groups thousands and fixes the decimals" "string"
      [optional "decimals" "number", optional "thousandsSeparator" "string", optional "decimalSeparator" "string"]
      ["1234567.891 | formatNumber(2) => '1,234,567.89'"] Rounding.formatNumber
  ]

def dates : List Function :=
  [
    entry .datetime "parseDate" "Parses a date string into epoch milliseconds" "number" []
      ["'2024-01-05' | parseDate => 1704412800000"] Dates.parseDate,
    entry .datetime "formatDate" "Formats with strftime-style specifiers" "string"
      [optional "format" "string"] ["1704412800000 | formatDate('%d.%m.%Y') => '05.01.2024'"]
      Dates.formatDate,
    entry .datetime "toISO" "RFC 3339 timestamp with milliseconds" "string" []
      ["0 | toISO => '1970-01-01T00:00:00.000Z'"] Dates.toIso,
    entry .datetime "addDays" "Shifts by a number of days" "number" [required "days" "number"]
      ["ts | addDays(1)"] Dates.addDays,
    entry .datetime "addHours" "Shifts by a number of hours" "number" [required "hours" "number"]
      ["ts | addHours(-2)"] Dates.addHours,
    entry .datetime "addMinutes" "Shifts by a number of minutes" "number"
      [required "minutes" "number"] ["ts | addMinutes(30)"] Dates.addMinutes,
    entry .datetime "addMonths" "Shifts by calendar months, clamping to the month's last day"
      "number" [required "months" "number"]
      ["'2024-03-31' | addMonths(1) => '2024-04-30' as epoch ms"] Dates.addMonths,
    entry .datetime "diffDays" "Whole days from another date to this one" "number"
      [required "other" "number"] ["'2024-01-06' | diffDays('2024-01-05') => 1"] Dates.diffDays,
    entry .datetime "year" "Calendar year" "number" [] ["'2024-01-05' | year => 2024"] Dates.year,
    entry .datetime "month" "Month, 1 to 12" "number" [] ["'2024-01-05' | month => 1"] Dates.month,
    entry .datetime "day" "Day of the month" "number" [] ["'2024-01-05' | day => 5"] Dates.day,
    entry .datetime "weekday" "Day of the week, 0 for Sunday" "number" []
      ["'2024-01-05' | weekday => 5"] Dates.weekday,
    entry .datetime "hour" "Hour, 0 to 23" "number" [] ["'2024-01-05T10:30:00Z' | hour => 10"]
      Dates.hour,
    entry .datetime "minute" "Minute, 0 to 59" "number" []
      ["'2024-01-05T10:30:00Z' | minute => 30"] Dates.minute,
    entry .datetime "startOfDay" "Midnight of the same day" "number" [] ["ts | startOfDay"]
      Dates.startOfDay,
    entry .datetime "startOfMonth" "Midnight of the first day of the month" "number" []
      ["ts | startOfMonth"] Dates.startOfMonth
  ]

/-- The functions on sequences and their elements. -/
def arrays : List Function :=
  [
    entry .array "length" "Element count of an array, characters of a string, keys of an object"
      "number" [] ["[1, 2, 3] | length => 3"] Sequence.length,
    entry .array "first" "First element" "any" [] ["[1, 2] | first => 1"] Sequence.first,
    entry .array "last" "Last element" "any" [] ["[1, 2] | last => 2"] Sequence.last,
    entry .array "join" "Joins stringified elements" "string" [optional "separator" "string"]
      ["['a', 'b'] | join(' & ') => 'a & b'"] Sequence.join,
    entry .array "sort" "Sorts ascending, stable" "array" [] ["[3, 1, 2] | sort => [1, 2, 3]"]
      Elements.sort,
    noting (entry .array "sortBy" "Sorts elements by a key path" "array"
        [required "key" "string", optional "direction" "string"] ["users | sortBy('age', 'desc')"]
        Elements.sortBy)
      Elements.sortRemarks,
    entry .array "reverse" "Reverses an array or a string" "array" []
      ["[1, 2, 3] | reverse => [3, 2, 1]"] Sequence.reverse,
    entry .array "unique" "Drops repeated elements, keeping the first" "array" []
      ["[1, 1, 2] | unique => [1, 2]"] Sequence.unique,
    entry .array "slice" "Elements from start up to end; negative positions count from the end"
      "array" [required "start" "number", optional "end" "number"]
      ["[1, 2, 3, 4] | slice(1, -1) => [2, 3]"] Sequence.slice,
    entry .array "flatten" "Flattens one level of nesting" "array" []
      ["[[1], [2, [3]]] | flatten => [1, 2, [3]]"] Sequence.flatten,
    entry .array "compact" "Drops falsy elements" "array" []
      ["[0, 1, '', 'a', null] | compact => [1, 'a']"] Sequence.compact,
    entry .array "sum" "Numeric sum" "number" [] ["[1, 2, 3] | sum => 6"] Elements.sum,
    entry .array "avg" "Arithmetic mean" "number" [] ["[1, 2, 3] | avg => 2"] Elements.average,
    noting (entry .array "map" "Collects a key path from every element" "array"
        [required "key" "string"] ["users | map('name')"] Elements.map)
      Elements.keyRemarks,
    noting (entry .array "filterBy"
        "Keeps elements whose key equals a value, or is truthy when no value is given" "array"
        [required "key" "string", optional "value" "any"] ["users | filterBy('active')"]
        Elements.filterBy)
      Elements.keyRemarks,
    noting (entry .array "groupBy" "Groups elements into an object keyed by a key path" "object"
        [required "key" "string"] ["users | groupBy('team')"] Elements.groupBy)
      Elements.keyRemarks,
    entry .array "includes" "Tests for an element, or a substring when given a string" "boolean"
      [required "item" "any"] ["[1, 2] | includes(2) => true"] Sequence.includes,
    entry .array "take" "The first n elements" "array" [required "n" "number"]
      ["[1, 2, 3] | take(2) => [1, 2]"] Sequence.take,
    entry .array "range" "Numbers from the value up to, not including, end" "array"
      [optional "end" "number", optional "step" "number"]
      ["range(1, 4) => [1, 2, 3]", "3 | range => [0, 1, 2]"] Sequence.range
  ]

def objects : List Function :=
  [
    entry .object "keys" "Keys in insertion order" "array" []
      ["\x7ba: 1, b: 2\x7d | keys => ['a', 'b']"] Record.keys,
    entry .object "values" "Values in insertion order" "array" []
      ["\x7ba: 1, b: 2\x7d | values => [1, 2]"] Record.values,
    entry .object "entries" "Key/value pairs as `\x7bkey, value\x7d` objects" "array" []
      ["\x7ba: 1\x7d | entries => [\x7bkey: 'a', value: 1\x7d]"] Record.pairs,
    noting (entry .object "get" "Reads a key path, with an optional fallback" "any"
        [required "path" "string", optional "default" "any"] ["user | get('address.city', 'n/a')"]
        Record.get)
      Record.getRemarks,
    entry .object "has" "Tests whether a key is present" "boolean" [required "key" "string"]
      ["\x7ba: 1\x7d | has('a') => true"] Record.has,
    entry .object "pick" "Keeps only the named keys" "object" [required "keys" "string"]
      ["\x7ba: 1, b: 2\x7d | pick('a') => \x7ba: 1\x7d"] Record.pick,
    entry .object "omit" "Drops the named keys" "object" [required "keys" "string"]
      ["\x7ba: 1, b: 2\x7d | omit('a') => \x7bb: 2\x7d"] Record.without,
    entry .object "merge" "Shallow merge; later objects win" "object" [required "others" "object"]
      ["\x7ba: 1\x7d | merge(\x7ba: 2, b: 3\x7d) => \x7ba: 2, b: 3\x7d"] Record.merge,
    entry .object "json" "Serializes to JSON, pretty-printed when indent is positive" "string"
      [optional "indent" "number"] ["\x7ba: [1]\x7d | json => '\x7b\"a\":[1]\x7d'"] Record.json,
    entry .object "default"
      "Replaces null or undefined; with `true` also replaces any falsy value" "any"
      [required "fallback" "any", optional "falsy" "boolean"] ["missing | default('n/a') => 'n/a'"]
      Record.default,
    entry .object "isEmpty" "True for null, undefined and empty strings, arrays and objects"
      "boolean" [] ["\x7b\x7d | isEmpty => true"] Record.isEmpty
  ]

/-- The registry with all functions of the standard library. -/
def standard : Registry :=
  Registry.empty.registerAll (texts ++ numbers ++ dates ++ arrays ++ objects)

end Stencil.Library
