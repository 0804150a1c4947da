import Stencil.Proofs.Path.Filtering
import Stencil.Query
/-!
# Paths read back

A path can be written out in many styles: names with a point or in quotes, numbers with any decimal
that stands for them. In every style the text is read as the path that was written.
-/

namespace Stencil

open Text Stencil.Path Stencil.Path.Parser

/-- Whether a name may stand without quotes wherever a path has names. -/
def isPlain (name : String) : Bool :=
  match name.toList with
  | [] => false
  | first :: others => !first.isDigit && (first :: others).all isNameChar

/-- A text that some kind of quotes can hold. -/
def Quotable (s : String) : Prop := '\'' ∉ s.toList ∨ '"' ∉ s.toList

def isFilterName (name : String) : Bool :=
  match name.toList with
  | [] => false
  | first :: others => Lexeme.beginsName first && others.all fun c => c.isAlphanum || c == '_'

/-- How paths are written. -/
structure PathStyle where
  /-- Which names stand without quotes. -/
  plain : String → Bool
  /-- The decimals of numbers. -/
  numeral : Float → List Char
  /-- What stands in front of the bar of a filter. -/
  beforeBar : Gap
  plain_isPlain : ∀ name, plain name = true → isPlain name = true

/-- A text in quotes that it does not contain, if there are such. -/
def inQuotes (s : String) : List Char :=
  let mark := if '\'' ∈ s.toList then '"' else '\''
  mark :: (s.toList ++ [mark])

namespace PathStyle

/-- Every name in quotes. -/
def quoting (numeral : Float → List Char) : PathStyle where
  plain := fun _ => false
  numeral := numeral
  beforeBar := .space
  plain_isPlain := nofun

/-- Names with points wherever they need no quotes. -/
def pointing (numeral : Float → List Char) : PathStyle where
  plain := isPlain
  numeral := numeral
  beforeBar := .space
  plain_isPlain := fun _ plain => plain

variable (style : PathStyle)

mutual

def stepText : PathSegment → List Char
  | .property name =>
    if style.plain name then '.' :: name.toList else '[' :: (inQuotes name ++ [']'])
  | .index position => '[' :: (Nat.toDigits 10 position ++ [']'])
  | .computed path => '[' :: (withoutPoint (stepsText path) ++ [']'])

def stepsText : List PathSegment → List Char
  | [] => []
  | first :: others => stepText first ++ stepsText others

end

def constantText : Value → List Char
  | .string s => inQuotes s
  | .number x => style.numeral x
  | .bool true => "true".toList
  | .bool false => "false".toList
  | .null => "null".toList
  | _ => []

/-- Further arguments, each with its comma. -/
def moreText : List Value → List Char
  | [] => []
  | value :: others => ',' :: ' ' :: (style.constantText value ++ moreText others)

def argumentsText : List Value → List Char
  | [] => []
  | value :: others => style.constantText value ++ style.moreText others

def filterText (filter : PathFilter) : List Char :=
  style.beforeBar.text ++ '|' :: ' ' ::
    (filter.name.toList ++ '(' :: (style.argumentsText filter.args ++ [')']))

/-- A path as a text. A first name has no point in front of it. -/
def write (path : Path) : String :=
  String.ofList
    (withoutPoint (style.stepsText path.segments) ++ path.filters.flatMap style.filterText)

mutual

/-- That a step can be written. -/
def WritableStep : PathSegment → Prop
  | .property name => Quotable name
  | .index position => position ≤ maxPosition
  | .computed path => path ≠ [] ∧ WritableSteps path

def WritableSteps : List PathSegment → Prop
  | [] => True
  | first :: others => WritableStep first ∧ WritableSteps others

end

/-- That a constant can be written. -/
def WritableConstant : Value → Prop
  | .string s => Quotable s
  | .number x => ∃ decimal : DecimalText, decimal.text = style.numeral x ∧ decimal.value = x
  | .bool _ => True
  | .null => True
  | _ => False

/-- That a path can be written. -/
structure Writable (path : Path) : Prop where
  steps : WritableSteps path.segments
  names : ∀ filter ∈ path.filters, isFilterName filter.name = true
  constants : ∀ filter ∈ path.filters, ∀ arg ∈ filter.args, style.WritableConstant arg

end PathStyle

/-- A quotable text in its quotes. -/
def PathQuoted.ofString (s : String) (quotable : Quotable s) : PathQuoted where
  quote := if '\'' ∈ s.toList then '"' else '\''
  inside := s.toList
  isQuote := by
    split
    · exact .inr rfl
    · exact .inl rfl
  noQuote := by
    rintro c member rfl
    split at member
    · rename_i single
      rcases quotable with none | none
      · exact none single
      · exact none member
    · rename_i none
      exact none member

@[simp] theorem PathQuoted.ofString_text (s : String) (quotable : Quotable s) :
    (PathQuoted.ofString s quotable).text = inQuotes s := rfl

@[simp] theorem PathQuoted.ofString_string (s : String) (quotable : Quotable s) :
    (PathQuoted.ofString s quotable).string = s := String.ofList_toList

theorem exists_pathName {name : String} (plain : isPlain name = true) :
    ∃ plainName : PathName, plainName.text = name.toList ∧ plainName.name = name ∧
      Stops Char.isDigit plainName.text := by
  unfold isPlain at plain
  split at plain
  · cases plain
  · rename_i first others text
    simp only [Bool.and_eq_true, Bool.not_eq_true', List.all_eq_true] at plain
    refine ⟨⟨first :: others, List.cons_ne_nil _ _, plain.2⟩, text.symm, ?_, stops_cons plain.1⟩
    simp [PathName.name, ← text]

theorem exists_filterName {name : String} (isName : isFilterName name = true) :
    ∃ filterName : FilterName, filterName.text = name.toList ∧ filterName.name = name := by
  unfold isFilterName at isName
  split at isName
  · cases isName
  · rename_i first others text
    simp only [Bool.and_eq_true, List.all_eq_true] at isName
    have continues : ∀ c ∈ others, Lexeme.continuesName c = true := by
      intro c member
      exact Lexeme.continuesName_of_ascii (isName.2 c member)
    refine ⟨⟨⟨first, others, isName.1, continues⟩, isName.2⟩, text.symm, ?_⟩
    simp [Identifier.name, Identifier.text, ← text]

theorem not_beginsWithPosition {text : List Char} (stops : Stops Char.isDigit text) :
    ¬BeginsWithPosition text := by
  intro begins
  exact begins.1 stops.takeWhile_eq_nil

namespace PathStyle

variable (style : PathStyle)

/-- No path is written with a digit in front. -/
theorem stepsText_stops {path : List PathSegment} (nonempty : path ≠ []) :
    Stops Char.isDigit (withoutPoint (style.stepsText path)) := by
  rcases List.exists_cons_of_ne_nil nonempty with ⟨first, others, rfl⟩
  cases first with
  | property name =>
      rw [stepsText, stepText]
      split
      · rename_i plain
        rcases exists_pathName (style.plain_isPlain name plain) with ⟨plainName, text, _, stops⟩
        rw [← text]
        exact stops.append_right plainName.nonempty _
      · exact stops_cons rfl
  | index position => exact stops_cons rfl
  | computed path => exact stops_cons rfl

mutual

theorem spells_stepText {step : PathSegment} (writable : WritableStep step)
    {later : List PathSegment} {text : List Char} (others : Spells later text) :
    Spells (step :: later) (style.stepText step ++ text) := by
  cases step with
  | property name =>
      rw [stepText]
      split
      · rename_i plain
        rcases exists_pathName (style.plain_isPlain name plain) with ⟨plainName, text, same, _⟩
        simpa [text, same] using Spells.name plainName others
      · have quotable : Quotable name := writable
        simpa using Spells.quoted .empty .empty (.ofString name quotable) others
  | index position =>
      have fits : Number.digitsValue (Digits.ofNat position).text ≤ maxPosition := by
        simpa [Digits.ofNat, WritableStep] using writable
      simpa [stepText, Digits.ofNat] using Spells.position .empty .empty ⟨_, fits⟩ others
  | computed path =>
      have inner := spells_stepsText writable.2
      have noPosition := not_beginsWithPosition (style.stepsText_stops writable.1)
      simpa [stepText] using Spells.computed .empty .empty inner writable.1 noPosition others

theorem spells_stepsText {path : List PathSegment} (writable : WritableSteps path) :
    Spells path (style.stepsText path) := by
  cases path with
  | nil => exact .nil
  | cons first others => exact spells_stepText writable.1 (spells_stepsText writable.2)

end

theorem spells_constantText {value : Value} (writable : style.WritableConstant value) :
    SpellsConstant value (style.constantText value) := by
  cases value with
  | string s =>
      have quotable : Quotable s := writable
      have spelled := SpellsConstant.quoted (.ofString s quotable)
      rw [PathQuoted.ofString_string] at spelled
      exact spelled
  | number x =>
      rcases writable with ⟨decimal, text, rfl⟩
      change SpellsConstant _ (style.numeral decimal.value)
      rw [← text]
      exact .number decimal
  | bool b =>
      cases b with
      | true => exact .true
      | false => exact .false
  | null => exact .null
  | _ => exact writable.elim

theorem spells_moreText {values : List Value}
    (writable : ∀ value ∈ values, style.WritableConstant value) :
    SpellsArguments values (style.moreText values) := by
  induction values with
  | nil => exact .nil
  | cons value others ih =>
      rcases List.forall_mem_cons.mp writable with ⟨first, later⟩
      simpa [moreText, Gap.space] using
        SpellsArguments.cons .space .empty (style.spells_constantText first) (ih later)

theorem spells_argumentsText {values : List Value}
    (writable : ∀ value ∈ values, style.WritableConstant value) :
    SpellsGiven values ('(' :: (style.argumentsText values ++ [')'])) := by
  cases values with
  | nil => exact .empty .empty .empty
  | cons value others =>
      rcases List.forall_mem_cons.mp writable with ⟨first, later⟩
      simpa [argumentsText] using SpellsGiven.listed .empty .empty .empty
        (style.spells_constantText first) (style.spells_moreText later)

theorem spells_filters {filters : List PathFilter}
    (names : ∀ filter ∈ filters, isFilterName filter.name = true)
    (constants : ∀ filter ∈ filters, ∀ arg ∈ filter.args, style.WritableConstant arg) :
    SpellsFilters filters (filters.flatMap style.filterText) := by
  induction filters with
  | nil => exact .nil
  | cons filter others ih =>
      rcases List.forall_mem_cons.mp names with ⟨named, otherNames⟩
      rcases List.forall_mem_cons.mp constants with ⟨args, otherConstants⟩
      rcases exists_filterName named with ⟨name, text, same⟩
      have spelled := SpellsFilters.cons style.beforeBar .space name
        (style.spells_argumentsText args) (ih otherNames otherConstants)
      simpa [filterText, Gap.space, text, same] using spelled

/-- In every style, reading takes what is written of a path to the path. -/
theorem readPath_write {path : Path} (writable : style.Writable path) :
    Query.readPath (style.write path) = .ok path := by
  have filters := style.spells_filters writable.names writable.constants
  have read := parse_of_spells (style.spells_stepsText writable.steps) filters .empty .empty
  simp only [Gap.empty_text, List.nil_append, List.append_nil] at read
  rw [Query.readPath, write, String.toList_ofList, read]
  rfl

theorem readPath_write_nested :
    let path : Path := ⟨[.property "a", .computed [.property "b", .property "x y", .index 3],
      .property "it's"], [⟨"join", [.string ", ", .number 5.0, .bool true, .null]⟩]⟩
    Query.readPath "a[b['x y'][3]][\"it's\"] | join(', ', 5, true, null)" = .ok path ∧
      Query.readPath "['a'][['b']['x y'][3]][\"it's\"] | join(', ', 5, true, null)" = .ok path := by
  intro path
  have five (style : PathStyle) (numeral : style.numeral = fun _ => ['5']) :
      style.WritableConstant (.number 5.0) := by
    have value : Number.ofText "5" = 5.0 := by rfl
    refine ⟨⟨.none, ['5'], none,
      .whole ⟨['5'], List.cons_ne_nil _ _, List.all_eq_true.mp rfl⟩⟩, ?_, value⟩
    rw [numeral]
    rfl
  have writable (style : PathStyle) (numeral : style.numeral = fun _ => ['5']) :
      style.Writable path := by
    refine ⟨?_, ?_, ?_⟩
    · simp [path, WritableSteps, WritableStep, Quotable, maxPosition]
    · decide
    · simpa [path, WritableConstant, Quotable] using five style numeral
  have pointed : (pointing fun _ => ['5']).write path =
      "a[b['x y'][3]][\"it's\"] | join(', ', 5, true, null)" := by rfl
  have quoted : (quoting fun _ => ['5']).write path =
      "['a'][['b']['x y'][3]][\"it's\"] | join(', ', 5, true, null)" := by rfl
  rw [← pointed, ← quoted]
  exact ⟨readPath_write _ (writable _ rfl), readPath_write _ (writable _ rfl)⟩

end PathStyle

end Stencil
