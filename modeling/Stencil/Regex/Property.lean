import Stencil.Number.Reading
import Stencil.Regex.Charset
import Stencil.Regex.PropertyTable
import Stencil.Text.Search
/-!
# Properties by name

Properties have long and short names. Blanks, dashes, underscores and the case of letters do not
count in them, nor does an `is` in front.
-/

namespace Stencil.Regex

/-- The value of hexadecimal digits. -/
def hexValue (digits : List Char) : Nat :=
  digits.foldl (fun value digit => 16 * value + (Number.digitIn? 16 digit).getD 0) 0

def readRun (text : List Char) : Nat × Nat :=
  match Text.splitOn ['-'] text with
  | [first, last] => (hexValue first, hexValue last)
  | _ => (hexValue text, hexValue text)

/-- The characters with a property of the table. -/
def tabulated (name : String) : List (Nat × Nat) :=
  ((propertyRuns.lookup name).map fun runs => (Text.splitOn [' '] runs.toList).map readRun).getD []

/-- The form of a name that is looked up. -/
def plainName (name : List Char) : List Char :=
  let withoutIs := match name with
    | i :: s :: rest => if i.toLower = 'i' ∧ s.toLower = 's' then rest else name
    | _ => name
  let plain := (withoutIs.filter fun c => c != ' ' && c != '_' && c != '-').map Char.toLower
  if plain = ['c'] ∧ withoutIs.length < name.length then "isc".toList else plain

/-- The names of the general categories, with the categories of the table that each of them
covers. -/
def categoryNames : List (List String × List String) :=
  [(["l", "letter"], ["lu", "ll", "lt", "lm", "lo"]),
    (["lc", "casedletter"], ["lu", "ll", "lt"]),
    (["lu", "uppercaseletter"], ["lu"]),
    (["ll", "lowercaseletter"], ["ll"]),
    (["lt", "titlecaseletter"], ["lt"]),
    (["lm", "modifierletter"], ["lm"]),
    (["lo", "otherletter"], ["lo"]),
    (["m", "mark", "combiningmark"], ["mn", "mc", "me"]),
    (["mn", "nonspacingmark"], ["mn"]),
    (["mc", "spacingmark"], ["mc"]),
    (["me", "enclosingmark"], ["me"]),
    (["n", "number"], ["nd", "nl", "no"]),
    (["nd", "decimalnumber", "digit"], ["nd"]),
    (["nl", "letternumber"], ["nl"]),
    (["no", "othernumber"], ["no"]),
    (["p", "punctuation", "punct"], ["pc", "pd", "ps", "pe", "pi", "pf", "po"]),
    (["pc", "connectorpunctuation"], ["pc"]),
    (["pd", "dashpunctuation"], ["pd"]),
    (["ps", "openpunctuation"], ["ps"]),
    (["pe", "closepunctuation"], ["pe"]),
    (["pi", "initialpunctuation"], ["pi"]),
    (["pf", "finalpunctuation"], ["pf"]),
    (["po", "otherpunctuation"], ["po"]),
    (["s", "symbol"], ["sm", "sc", "sk", "so"]),
    (["sm", "mathsymbol"], ["sm"]),
    (["sc", "currencysymbol"], ["sc"]),
    (["sk", "modifiersymbol"], ["sk"]),
    (["so", "othersymbol"], ["so"]),
    (["z", "separator"], ["zs", "zl", "zp"]),
    (["zs", "spaceseparator"], ["zs"]),
    (["zl", "lineseparator"], ["zl"]),
    (["zp", "paragraphseparator"], ["zp"]),
    (["cc", "control", "cntrl"], ["cc"]),
    (["cf", "format"], ["cf"]),
    (["co", "privateuse"], ["co"])]

/-- The categories of the characters that are in use. -/
def assignedCategories : List String :=
  ["lu", "ll", "lt", "lm", "lo", "mn", "mc", "me", "nd", "nl", "no", "pc", "pd", "ps", "pe", "pi",
    "pf", "po", "sm", "sc", "sk", "so", "zs", "zl", "zp", "cc", "cf", "co"]

def scriptNames : List (List String × List String) :=
  [(["latin", "latn"], ["latin"]),
    (["greek", "grek"], ["greek"]),
    (["cyrillic", "cyrl"], ["cyrillic"]),
    (["armenian", "armn"], ["armenian"]),
    (["hebrew", "hebr"], ["hebrew"]),
    (["arabic", "arab"], ["arabic"]),
    (["devanagari", "deva"], ["devanagari"]),
    (["thai"], ["thai"]),
    (["georgian", "geor"], ["georgian"]),
    (["hangul", "hang"], ["hangul"]),
    (["hiragana", "hira"], ["hiragana"]),
    (["katakana", "kana"], ["katakana"]),
    (["han", "hani"], ["han"]),
    (["common", "zyyy"], ["common"]),
    (["inherited", "zinh", "qaai"], ["inherited"]),
    (["bengali", "beng"], ["bengali"]),
    (["tamil", "taml"], ["tamil"]),
    (["ethiopic", "ethi"], ["ethiopic"]),
    (["mongolian", "mong"], ["mongolian"])]

/-- The names of the other properties. -/
def binaryNames : List (List String × List String) :=
  [(["alphabetic", "alpha"], ["alphabetic"]),
    (["uppercase", "upper"], ["uppercase"]),
    (["lowercase", "lower"], ["lowercase"]),
    (["whitespace", "wspace", "space"], ["whitespace"]),
    (["emoji"], ["emoji"]),
    (["emojipresentation", "epres"], ["emojipresentation"]),
    (["extendedpictographic", "extpict"], ["extendedpictographic"]),
    (["asciihexdigit", "ahex"], ["asciihexdigit"]),
    (["hexdigit", "hex"], ["hexdigit"]),
    (["math"], ["math"]),
    (["ideographic", "ideo"], ["ideographic"])]

/-- The characters with one of some properties of the table. -/
def tabulatedSet (names : List String) : Charset := .ranges (names.flatMap tabulated)

/-- The set that a list of names gives to a name. -/
def named? (names : List (List String × List String)) (name : String) : Option Charset :=
  (names.find? fun entry => entry.1.contains name).map fun entry => tabulatedSet entry.2

/-- The set of a general category. -/
def category? (name : String) : Option Charset :=
  match name with
  | "any" => some .full
  | "ascii" => some (.ranges [(0, 0x7F)])
  | "assigned" => some (tabulatedSet assignedCategories)
  | "cn" => some (.negation (tabulatedSet assignedCategories))
  | "unassigned" => some (.negation (tabulatedSet assignedCategories))
  | "c" => some (.union (tabulatedSet ["cc", "cf", "co"])
      (.negation (tabulatedSet assignedCategories)))
  | "other" => some (.union (tabulatedSet ["cc", "cf", "co"])
      (.negation (tabulatedSet assignedCategories)))
  | name => named? categoryNames name

def script? (name : String) : Option Charset := named? scriptNames name

/-- The set of a property that is named alone. -/
def property? (name : List Char) : Option Charset :=
  let plain := String.ofList (plainName name)
  named? binaryNames plain <|> category? plain <|> script? plain

/-- The kinds of properties that have values. -/
inductive ValuedProperty where
  | category
  | script

def valuedProperty? (name : List Char) : Option ValuedProperty :=
  match String.ofList (plainName name) with
  | "generalcategory" => some .category
  | "gc" => some .category
  | "script" => some .script
  | "sc" => some .script
  | "scriptextensions" => some .script
  | "scx" => some .script
  | _ => none

def propertyValue? (property : ValuedProperty) (value : List Char) : Option Charset :=
  let plain := String.ofList (plainName value)
  match property with
  | .category => category? plain
  | .script => script? plain

end Stencil.Regex
