import Stencil.Proofs.Path.Spelling
/-!
# The spellings of filters

Filters behind a path have constants as arguments. The relations here tell which texts stand for
which filters, and the reader takes each such text to the filters that it stands for.
-/

namespace Stencil

open Text

/-- Digits with at most one point, in front of them, between them or behind them. -/
inductive IsMantissa : List Char → Prop where
  | whole (digits : Digits) : IsMantissa digits.text
  | pointed (digits : Digits) {fraction : List Char} (inside : ∀ c ∈ fraction, c.isDigit = true) :
      IsMantissa (digits.text ++ '.' :: fraction)
  | fraction (digits : Digits) : IsMantissa ('.' :: digits.text)

/-- Whether a character may begin a number without its sign. -/
def beginsMantissa (c : Char) : Bool := c.isDigit || c == '.'

theorem IsMantissa.begins {mantissa : List Char} (isMantissa : IsMantissa mantissa) :
    ∃ first others, mantissa = first :: others ∧ beginsMantissa first = true := by
  cases isMantissa with
  | whole digits =>
      rcases digits.text_cons with ⟨first, others, text, digit⟩
      exact ⟨first, others, text, by simp [beginsMantissa, digit]⟩
  | pointed digits inside =>
      rcases digits.text_cons with ⟨first, others, text, digit⟩
      exact ⟨first, _, by rw [text, List.cons_append], by simp [beginsMantissa, digit]⟩
  | fraction digits => exact ⟨'.', _, rfl, rfl⟩

/-- A number as paths write it. -/
structure DecimalText where
  sign : NumeralSign
  mantissa : List Char
  exponent : Option Exponent
  isMantissa : IsMantissa mantissa

/-- Whether a character may begin a number in a path. -/
def beginsDecimal (c : Char) : Bool := beginsMantissa c || c == '+' || c == '-'

namespace DecimalText

variable (decimal : DecimalText)

def exponentText : List Char :=
  match decimal.exponent with
  | none => []
  | some exponent => exponent.text

def text : List Char := decimal.sign.text ++ (decimal.mantissa ++ decimal.exponentText)

/-- The number that coercion makes of a text. -/
def value : Float := Number.ofText (String.ofList decimal.text)

theorem begins : ∃ first others, decimal.text = first :: others ∧ beginsDecimal first = true := by
  rcases decimal.isMantissa.begins with ⟨first, others, mantissa, begins⟩
  unfold text
  cases decimal.sign with
  | none =>
      refine ⟨first, others ++ decimal.exponentText, by simp [mantissa, NumeralSign.text], ?_⟩
      simp [beginsDecimal, begins]
  | plus => exact ⟨'+', _, rfl, rfl⟩
  | minus => exact ⟨'-', _, rfl, rfl⟩

theorem splitSign_text (rest : List Char) :
    Number.splitSign (decimal.text ++ rest) =
      (decimal.sign.isMinus, decimal.mantissa ++ (decimal.exponentText ++ rest)) := by
  rcases decimal.isMantissa.begins with ⟨first, others, mantissa, begins⟩
  have split := decimal.sign.splitSign_cons (ne_of_inClass begins rfl) (ne_of_inClass begins rfl)
    (others ++ (decimal.exponentText ++ rest))
  simpa [text, mantissa] using split

theorem exponentText_stops {inClass : Char → Bool} {rest : List Char}
    (small : inClass 'e' = false) (large : inClass 'E' = false) (behind : Stops inClass rest) :
    Stops inClass (decimal.exponentText ++ rest) := by
  unfold exponentText
  split
  · exact behind
  · rename_i exponent _
    apply stops_cons
    rcases exponent.isMark with mark | mark <;> rwa [mark]

end DecimalText

/-- That a constant can be written as a text. -/
inductive SpellsConstant : Value → List Char → Prop where
  | quoted (quoted : PathQuoted) : SpellsConstant (.string quoted.string) quoted.text
  | number (decimal : DecimalText) : SpellsConstant (.number decimal.value) decimal.text
  | true : SpellsConstant (.bool true) "true".toList
  | false : SpellsConstant (.bool false) "false".toList
  | null : SpellsConstant .null "null".toList

/-- That further arguments can be written as a text, each behind a comma. -/
inductive SpellsArguments : List Value → List Char → Prop where
  | nil : SpellsArguments [] []
  | cons {value : Value} {values : List Value} {text more : List Char} (before after : Gap)
      (first : SpellsConstant value text) (others : SpellsArguments values more) :
      SpellsArguments (value :: values) (',' :: (before.text ++ (text ++ (after.text ++ more))))

/-- That arguments can be written as a text behind the name of a filter. -/
inductive SpellsGiven : List Value → List Char → Prop where
  | absent : SpellsGiven [] []
  | empty (before inside : Gap) : SpellsGiven [] (before.text ++ '(' :: (inside.text ++ [')']))
  | listed {value : Value} {values : List Value} {text more : List Char} (before inside after : Gap)
      (first : SpellsConstant value text) (others : SpellsArguments values more) :
      SpellsGiven (value :: values)
        (before.text ++ '(' :: (inside.text ++ (text ++ (after.text ++ (more ++ [')'])))))

/-- That filters can be written as a text. -/
inductive SpellsFilters : List PathFilter → List Char → Prop where
  | nil : SpellsFilters [] []
  | cons {args : List Value} {filters : List PathFilter} {text more : List Char}
      (beforeBar afterBar : Gap) (name : FilterName) (given : SpellsGiven args text)
      (others : SpellsFilters filters more) :
      SpellsFilters (⟨name.name, args⟩ :: filters)
        (beforeBar.text ++ '|' :: (afterBar.text ++ (name.text ++ (text ++ more))))

section Boundaries

variable {values : List Value} {text rest : List Char}

theorem SpellsConstant.stops {value : Value} (spells : SpellsConstant value text)
    (rest : List Char) : Stops isBlank (text ++ rest) := by
  cases spells with
  | quoted quoted => exact quoted.text_stops rest
  | number decimal =>
      rcases decimal.begins with ⟨first, others, text, begins⟩
      rw [text]
      apply stops_cons
      simp only [beginsDecimal, beginsMantissa, Bool.or_eq_true, beq_iff_eq, or_assoc] at begins
      rcases begins with digit | rfl | rfl | rfl
      · exact Lexeme.not_blank_of_isDigit digit
      · rfl
      · rfl
      · rfl
  | true => exact stops_cons rfl
  | false => exact stops_cons rfl
  | null => exact stops_cons rfl

theorem SpellsArguments.length_le (spells : SpellsArguments values text) :
    values.length ≤ text.length := by
  induction spells with
  | nil => exact Nat.le_refl 0
  | cons before after first others ih =>
      simp only [List.length_cons, List.length_append]
      omega

/-- An argument ends at the comma of the next one, and the last at the bracket. -/
theorem SpellsArguments.boundary (spells : SpellsArguments values text) (gap : Gap)
    (rest : List Char) : Boundary (gap.text ++ (text ++ ')' :: rest)) := by
  cases spells with
  | nil => exact .closing gap rest (.inr (.inl rfl))
  | cons before after first others => exact .closing gap _ (.inr (.inr rfl))

/-- A class without brackets and white space stops at arguments if it stops behind them. -/
theorem SpellsGiven.stops {inClass : Char → Bool} (spells : SpellsGiven values text)
    (spaces : inClass ' ' = false ∧ inClass '\t' = false ∧ inClass '\r' = false ∧
      inClass '\n' = false) (bracket : inClass '(' = false) (behind : Stops inClass rest) :
    Stops inClass (text ++ rest) := by
  cases spells with
  | absent => exact behind
  | empty before inside =>
      rw [List.append_assoc]
      exact before.stops spaces (stops_cons bracket)
  | listed before inside after first others =>
      rw [List.append_assoc]
      exact before.stops spaces (stops_cons bracket)

variable {filters : List PathFilter}

theorem SpellsFilters.length_le (spells : SpellsFilters filters text) :
    filters.length ≤ text.length := by
  induction spells with
  | nil => exact Nat.le_refl 0
  | cons beforeBar afterBar name given others ih =>
      simp only [List.length_cons, List.length_append]
      omega

/-- What stands in front of filters ends at the first bar. -/
theorem SpellsFilters.boundary (spells : SpellsFilters filters text) : Boundary text := by
  cases spells with
  | nil => exact .nil
  | cons beforeBar afterBar name given others =>
      apply Boundary.bar
      apply afterBar.stops (by decide)
      apply stops_cons
      rw [beq_eq_false_iff_ne]
      exact ne_of_inClass name.begins rfl

theorem SpellsGiven.endsInInk (spells : SpellsGiven values text) {before : List Char}
    (ends : EndsInInk before) : EndsInInk (before ++ text) := by
  cases spells with
  | absent => simpa using ends
  | empty gap inside => exact ⟨before ++ (gap.text ++ '(' :: inside.text), ')', by simp, rfl⟩
  | listed gap inside after first others =>
      rename_i text more
      exact ⟨before ++ (gap.text ++ '(' :: (inside.text ++ (text ++ (after.text ++ more)))), ')',
        by simp, rfl⟩

theorem SpellsFilters.endsInInk (spells : SpellsFilters filters text) {before : List Char}
    (ends : EndsInInk before) : EndsInInk (before ++ text) := by
  induction spells generalizing before with
  | nil => simpa using ends
  | cons beforeBar afterBar name given others ih =>
      have named := name.endsInInk.append (before ++ beforeBar.text ++ '|' :: afterBar.text)
      simpa using ih (given.endsInInk named)

end Boundaries

namespace Path.Parser

section Numbers

variable {text mantissa rest : List Char}

/-- Digits without a point behind them are all of a mantissa. -/
theorem mantissaRest?_of_noPoint {digits : Digits}
    (split : Number.splitDigits text = (digits.text, rest)) (noPoint : Stops (· == '.') rest) :
    mantissaRest? text = some rest := by
  rcases digits.text_cons with ⟨first, others, whole, _⟩
  rw [whole] at split
  simp only [mantissaRest?, split]
  split
  · rename_i heads
    cases heads
  · rename_i heads
    cases heads
  · rename_i heads
    cases heads
    exact absurd noPoint.head (by decide)
  · rename_i heads
    cases heads
    rfl

theorem mantissaRest?_of_point {digits : Digits} {afterPoint : List Char}
    (split : Number.splitDigits text = (digits.text, '.' :: afterPoint)) :
    mantissaRest? text = some (Number.splitDigits afterPoint).2 := by
  rcases digits.text_cons with ⟨first, others, whole, _⟩
  rw [whole] at split
  simp [mantissaRest?, split]

theorem mantissaRest?_fraction (digits : Digits) (noDigit : Stops Char.isDigit rest) :
    mantissaRest? ('.' :: (digits.text ++ rest)) = some rest := by
  have split : Number.splitDigits ('.' :: (digits.text ++ rest)) =
    ([], '.' :: (digits.text ++ rest)) := rfl
  have fraction := digits.splitDigits_append noDigit
  rcases digits.text_cons with ⟨first, others, text, _⟩
  simp only [mantissaRest?, split]
  rw [text] at fraction ⊢
  simp only [fraction]

theorem mantissaRest?_of_isMantissa (isMantissa : IsMantissa mantissa)
    (noDigit : Stops Char.isDigit rest) (noPoint : Stops (· == '.') rest) :
    mantissaRest? (mantissa ++ rest) = some rest := by
  cases isMantissa with
  | whole digits => exact mantissaRest?_of_noPoint (digits.splitDigits_append noDigit) noPoint
  | pointed digits inside =>
      rename_i fraction
      have point : Stops Char.isDigit ('.' :: (fraction ++ rest)) := stops_cons rfl
      have split := digits.splitDigits_append point
      have left : (Number.splitDigits (fraction ++ rest)).2 = rest := dropWhile_run inside noDigit
      simpa [left] using mantissaRest?_of_point split
  | fraction digits => exact mantissaRest?_fraction digits noDigit

theorem exponentRest_exponentText (decimal : DecimalText) (stops : Stops continuesNumber rest) :
    exponentRest (decimal.exponentText ++ rest) = .ok rest := by
  rcases stops_of_continuesNumber stops with ⟨noDigit, _, noMark⟩
  unfold DecimalText.exponentText
  split
  · cases rest with
    | nil => rfl
    | cons c others =>
        have outside := noMark.head
        simp only [Bool.or_eq_false_iff, beq_eq_false_iff_ne] at outside
        simp [exponentRest, outside.1, outside.2]
  · rename_i exponent _
    have sign := exponent.sign.splitSign_append exponent.digits rest
    have digits := exponent.digits.splitDigits_append noDigit
    rcases exponent.digits.text_cons with ⟨first, others, text, _⟩
    rw [text] at sign digits
    simp only [Exponent.text, text, List.cons_append, List.append_assoc] at sign digits ⊢
    rw [exponentRest, if_pos exponent.isMark]
    simp only [sign, digits]

theorem number_decimal (decimal : DecimalText) (stops : Stops continuesNumber rest) :
    number (decimal.text ++ rest) = .read (.number decimal.value) rest := by
  rcases stops_of_continuesNumber stops with ⟨noDigit, noPoint, _⟩
  have mantissa := mantissaRest?_of_isMantissa decimal.isMantissa
    (decimal.exponentText_stops rfl rfl noDigit) (decimal.exponentText_stops rfl rfl noPoint)
  simp only [number, decimal.splitSign_text, mantissa, exponentRest_exponentText decimal stops]
  simp [DecimalText.value]

/-- What is neither quoted nor a word is read as a number. -/
theorem literal_of_other {c : Char} (noQuote : ¬(c = '\'' ∨ c = '"'))
    (noWord : c ≠ 't' ∧ c ≠ 'f' ∧ c ≠ 'n') : literal (c :: rest) = number (c :: rest) := by
  unfold literal
  rw [quoted?_of_not_quote noQuote]
  split
  · rename_i impossible
    cases impossible
  · rename_i heads
    exact absurd (List.cons.inj heads).1 noWord.1
  · rename_i heads
    exact absurd (List.cons.inj heads).1 noWord.2.1
  · rename_i heads
    exact absurd (List.cons.inj heads).1 noWord.2.2
  · rfl

theorem literal_of_spells {value : Value} (spells : SpellsConstant value text)
    (boundary : Boundary rest) : literal (text ++ rest) = .read value rest := by
  cases spells with
  | quoted quoted => simp [literal, quoted?_pathQuoted quoted rest]
  | number decimal =>
      have read := number_decimal decimal (boundary.stops (by decide))
      rcases decimal.begins with ⟨first, others, text, begins⟩
      rw [← read, text]
      apply literal_of_other
      · exact not_quote_of_inClass begins rfl rfl
      · exact ⟨ne_of_inClass begins rfl, ne_of_inClass begins rfl, ne_of_inClass begins rfl⟩
  | true => rfl
  | false => rfl
  | null => rfl

end Numbers

section Arguments

variable {values : List Value} {text rest : List Char}

theorem skipSpace_gap (gap : Gap) (ink : Stops isBlank rest) :
    skipSpace (gap.text ++ rest) = rest :=
  gap.dropWhile_append ink

/-- Further arguments are read up to the closing bracket and the white space in front of it. -/
theorem moreLiterals_of_spells (spells : SpellsArguments values text) (rest : List Char)
    (gap : Gap) (fuel : Nat) (room : values.length ≤ fuel) : ∃ ending : Gap,
      moreLiterals fuel (gap.text ++ (text ++ ')' :: rest)) =
        .read values (ending.text ++ ')' :: rest) := by
  induction spells generalizing gap fuel with
  | nil =>
      refine ⟨gap, ?_⟩
      have noComma : punctuation? ',' (gap.text ++ ')' :: rest) = none :=
        punctuation?_other gap rfl (by decide)
      cases fuel with
      | zero => rfl
      | succ fuel => simp [moreLiterals, noComma]
  | cons before after first others ih =>
      rename_i value values text more
      rcases Nat.exists_eq_add_one.mpr (Nat.zero_lt_of_lt room) with ⟨fuel, rfl⟩
      rcases ih after fuel (by simpa using room) with ⟨ending, later⟩
      refine ⟨ending, ?_⟩
      have comma : punctuation? ',' (gap.text ++ ',' :: (before.text ++ (text ++ (after.text ++
          (more ++ ')' :: rest))))) =
            some (before.text ++ (text ++ (after.text ++ (more ++ ')' :: rest)))) :=
        punctuation?_gap gap rfl
      have skipped := skipSpace_gap before (first.stops (after.text ++ (more ++ ')' :: rest)))
      have read := literal_of_spells first (others.boundary after rest)
      simp [moreLiterals, comma, skipped, read, later]

theorem literals_of_spells {value : Value} (first : SpellsConstant value text) {more : List Char}
    (others : SpellsArguments values more) (after : Gap) (rest : List Char) : ∃ ending : Gap,
      literals (text ++ (after.text ++ (more ++ ')' :: rest))) =
        .read (value :: values) (ending.text ++ ')' :: rest) := by
  have read := literal_of_spells first (others.boundary after rest)
  have room : values.length ≤ (after.text ++ (more ++ ')' :: rest)).length := by
    have commas := others.length_le
    simp only [List.length_append, List.length_cons]
    omega
  rcases moreLiterals_of_spells others rest after _ room with ⟨ending, later⟩
  refine ⟨ending, ?_⟩
  simp only [literals, read, later]

/-- Where an expression ends, no bracket opens. -/
theorem arguments_of_boundary (boundary : Boundary rest) : arguments rest = .absent := by
  have noBracket : punctuation? '(' rest = none := by
    cases boundary with
    | blank gap =>
        have skipped : skipSpace (gap.text ++ []) = [] := skipSpace_gap gap stops_nil
        rw [List.append_nil] at skipped
        simp [punctuation?, skipped]
    | closing gap rest isClosing =>
        rcases isClosing with rfl | rfl | rfl <;> exact punctuation?_other gap rfl (by decide)
    | bar gap single => exact punctuation?_other gap rfl (by decide)
  simp [arguments, noBracket]

/-- The arguments of a filter, where none stand without brackets, and what they leave. -/
theorem arguments_of_spells (spells : SpellsGiven values text) (boundary : Boundary rest) :
    (arguments (text ++ rest) = .absent ∧ values = [] ∧ text = []) ∨
      arguments (text ++ rest) = .read values (skipSpace rest) := by
  cases spells with
  | absent => exact .inl ⟨arguments_of_boundary boundary, rfl, rfl⟩
  | empty before inside =>
      right
      have opened : punctuation? '(' (before.text ++ '(' :: (inside.text ++ ')' :: rest)) =
          some (inside.text ++ ')' :: rest) := punctuation?_gap before rfl
      have skipped : skipSpace (inside.text ++ ')' :: rest) = ')' :: rest :=
        skipSpace_gap inside (stops_cons rfl)
      have nothing : literals (')' :: rest) = .read [] (')' :: rest) := rfl
      have closed : punctuation? ')' (')' :: rest) = some rest := rfl
      simp [arguments, opened, skipped, nothing, closed]
  | listed before inside after first others =>
      right
      rename_i value values text more
      have opened : punctuation? '(' (before.text ++ '(' :: (inside.text ++ (text ++ (after.text ++
          (more ++ ')' :: rest))))) =
            some (inside.text ++ (text ++ (after.text ++ (more ++ ')' :: rest)))) :=
        punctuation?_gap before rfl
      have skipped := skipSpace_gap inside (first.stops (after.text ++ (more ++ ')' :: rest)))
      rcases literals_of_spells first others after rest with ⟨ending, read⟩
      have closed : punctuation? ')' (ending.text ++ ')' :: rest) = some rest :=
        punctuation?_gap ending rfl
      simp [arguments, opened, skipped, read, closed]

end Arguments

theorem filterName?_filterName (name : FilterName) {rest : List Char}
    (stops : Stops (fun c => c.isAlphanum || c == '_') rest) :
    filterName? (name.text ++ rest) = some (name.name, rest) := by
  have inside : ∀ c ∈ name.text, (c.isAlphanum || c == '_') = true := by
    intro c member
    rcases List.mem_cons.mp member with rfl | member
    · have begins := name.begins
      simp only [Lexeme.beginsName, Bool.or_eq_true] at begins
      rcases begins with letter | underscore
      · simp [Char.isAlphanum, letter]
      · simp [underscore]
    · exact name.ascii c member
  have taken := takeWhile_run inside stops
  have left := dropWhile_run inside stops
  have begins : (name.first.isAlpha || name.first == '_') = true := name.begins
  simp only [Identifier.text, List.cons_append] at taken left
  simp only [Identifier.text, List.cons_append, filterName?, begins, if_true, taken, left]
  rfl

/-- A filter is read with its bar. Behind a closing bracket the white space is read, too. -/
theorem filter_of_spells (beforeBar afterBar : Gap) (name : FilterName) {args : List Value}
    {text rest : List Char} (given : SpellsGiven args text) (boundary : Boundary rest) :
    ∃ left, (left = rest ∨ left = skipSpace rest) ∧
      filter (beforeBar.text ++ '|' :: (afterBar.text ++ (name.text ++ (text ++ rest)))) =
        .read ⟨name.name, args⟩ left := by
  have taken : punctuation? '|' (beforeBar.text ++ '|' :: (afterBar.text ++ (name.text ++
      (text ++ rest)))) = some (afterBar.text ++ (name.text ++ (text ++ rest))) :=
    punctuation?_gap beforeBar rfl
  have skipped := skipSpace_gap afterBar (name.text_stops (text ++ rest))
  have name := filterName?_filterName name
    (given.stops (by decide) rfl (boundary.stops (by decide)))
  unfold filter
  simp only [taken, Option.bind_some, skipped, name]
  rcases arguments_of_spells given boundary with ⟨absent, rfl, rfl⟩ | read
  · exact ⟨rest, .inl rfl, by simp only [absent]; rfl⟩
  · exact ⟨skipSpace rest, .inr rfl, by simp [read]⟩

/-- White space in front of a filter does not matter. -/
theorem filter_skipSpace (text : List Char) : filter (skipSpace text) = filter text := by
  have again : skipSpace (skipSpace text) = skipSpace text :=
    (stops_dropWhile isSpace text).dropWhile_eq_self
  have same (expected : Char) :
      punctuation? expected (skipSpace text) = punctuation? expected text := by
    simp only [punctuation?, again]
  simp only [filter, same]

/-- Filters are read to the end of the text, whether or not white space in front of them has been
read. -/
theorem filters_of_spells {given : List PathFilter} {text : List Char}
    (spells : SpellsFilters given text) (fuel : Nat) (room : given.length ≤ fuel)
    {start : List Char} (same : start = text ∨ start = skipSpace text) :
    filters fuel start = .ok (given, []) := by
  induction spells generalizing fuel start with
  | nil =>
      have none : start = [] := by rcases same with rfl | rfl <;> rfl
      subst none
      cases fuel <;> rfl
  | cons beforeBar afterBar name given others ih =>
      rename_i args _ _ _
      rcases Nat.exists_eq_add_one.mpr (Nat.zero_lt_of_lt room) with ⟨fuel, rfl⟩
      rcases filter_of_spells beforeBar afterBar name given others.boundary with ⟨left, more, read⟩
      rw [filters]
      have first : filter start = .read ⟨name.name, args⟩ left := by
        rcases same with rfl | rfl
        · exact read
        · rw [filter_skipSpace]
          exact read
      have later := ih fuel (by simpa using room) more
      simp only [first, later]
      rfl

/-- Filters begin with no step, so they may follow the root. -/
theorem segments?_filters (fuel : Nat) {given : List PathFilter} {text : List Char}
    (spells : SpellsFilters given text) : segments? fuel (skipSpace text) = none := by
  cases fuel with
  | zero => rfl
  | succ fuel =>
      cases spells with
      | nil => rfl
      | cons beforeBar afterBar name args others =>
          rw [skipSpace_gap beforeBar (stops_cons rfl)]
          rfl

/-- The white space in front of a first filter can be left out. -/
theorem spellsFilters_skipSpace {given : List PathFilter} {text : List Char}
    (spells : SpellsFilters given text) : SpellsFilters given (skipSpace text) := by
  cases spells with
  | nil => exact .nil
  | cons beforeBar afterBar name args others =>
      rw [skipSpace_gap beforeBar (stops_cons rfl)]
      exact .cons .empty afterBar name args others

theorem trim_filters {given : List PathFilter} {text : List Char}
    (spells : SpellsFilters given text) (leading trailing : Gap) :
    trim (leading.text ++ (text ++ trailing.text)) = skipSpace text := by
  cases spells with
  | nil =>
      have all : ∀ c ∈ leading.text ++ trailing.text, isBlank c = true := by
        intro c member
        rcases List.mem_append.mp member with member | member
        · exact leading.blank c member
        · exact trailing.blank c member
      have nothing := dropWhile_run all stops_nil
      rw [List.append_nil] at nothing
      simp only [trim, trimStart, List.nil_append, nothing]
      rfl
  | cons beforeBar afterBar name args others =>
      rename_i args _ text more
      have named := name.endsInInk.append ('|' :: afterBar.text)
      have ends := others.endsInInk (args.endsInInk named)
      have blank : ∀ c ∈ leading.text ++ beforeBar.text, isBlank c = true := by
        intro c member
        rcases List.mem_append.mp member with member | member
        · exact leading.blank c member
        · exact beforeBar.blank c member
      have trimmed := trim_between (stops_cons rfl) ends blank trailing.blank
      rw [skipSpace_gap beforeBar (stops_cons rfl)]
      simpa using trimmed

/-- A path with its filters is read, whatever white space stands around it. -/
theorem parse_of_spells {segments : List PathSegment} {steps : List Char}
    (path : Spells segments steps) {given : List PathFilter} {behind : List Char}
    (filtered : SpellsFilters given behind) (leading trailing : Gap) :
    parse (leading.text ++ (withoutPoint steps ++ (behind ++ trailing.text))) =
      .ok ⟨segments, given⟩ := by
  rcases Decidable.em (segments.isEmpty = true) with empty | nonempty
  · cases path <;> cases empty
    have read := filters_of_spells filtered (skipSpace behind).length
      (spellsFilters_skipSpace filtered).length_le (.inr rfl)
    simp [parse, withoutPoint, trim_filters filtered, segments?_filters _ filtered, read]
  · have nonempty : segments ≠ [] := by simpa using nonempty
    have trimmed : trim (leading.text ++ (withoutPoint steps ++ (behind ++ trailing.text))) =
        withoutPoint steps ++ behind := by
      have ends := filtered.endsInInk (path.endsInInk nonempty)
      have between := trim_between (withoutPoint_stops path nonempty behind) ends leading.blank
        trailing.blank
      simpa using between
    have boundary := filtered.boundary
    have room := length_withoutPoint steps
    have steps? : segments? (2 * (withoutPoint steps ++ behind).length + 2)
        (withoutPoint steps ++ behind) = some (segments, behind) := by
      rcases List.exists_cons_of_ne_nil nonempty with ⟨first, later, rfl⟩
      rw [← withoutPoint_append path nonempty]
      apply segments?_of_moreSegments
      apply moreSegments_of_spells path (boundary.stops (by decide)) (boundary.stops (by decide))
      rw [withoutPoint_append path nonempty, List.length_append]
      omega
    have read := filters_of_spells filtered behind.length filtered.length_le (.inl rfl)
    simp only [parse, trimmed, steps?, Option.getD_some, read]

end Path.Parser

end Stencil
