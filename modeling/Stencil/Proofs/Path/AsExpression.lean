import Stencil.Proofs.Expr.Reading
import Stencil.Proofs.Path.Shared
/-!
# Shared paths read as expressions

The reader of expressions takes the text of a shared path to an access with the same steps. Only the
places of the nodes depend on where the path stands, so the trees are compared without them. A key
in brackets is a whole expression: the readers pass through every level of operators to reach it and
use up one level of nesting, which is why a path has to fit into the levels that are left.
-/

namespace Stencil

open Text

namespace Lexeme

theorem name?_identifier (identifier : Identifier) {rest : List Char}
    (stops : Stops continuesName rest) :
    name? (identifier.text ++ rest) = some (identifier.name, rest) := by
  have taken := takeWhile_run identifier.continues stops
  have left := dropWhile_run identifier.continues stops
  simp only [Identifier.text, List.cons_append, name?, identifier.begins, if_true, taken, left]
  rfl

theorem quotedRest?_plain {quote : Char} (noEscape : quote ≠ '\\') (rest : List Char) :
    (inside : List Char) → (∀ c ∈ inside, c ≠ quote ∧ c ≠ '\\') →
      quotedRest? quote (inside ++ quote :: rest) = some (inside, rest)
  | [], _ => by
    rw [List.nil_append, quotedRest?.eq_def]
    simp only [if_neg noEscape, if_true]
  | c :: inside, plain => by
    have here := plain c List.mem_cons_self
    have later := quotedRest?_plain noEscape rest inside fun d member =>
      plain d (List.mem_cons_of_mem _ member)
    rw [List.cons_append, quotedRest?.eq_def]
    simp only [if_neg here.2, if_neg here.1, later, Option.map_some]

theorem quoted?_quotedText (quoted : QuotedText) (rest : List Char) :
    quoted? (quoted.text ++ rest) = some (quoted.string, rest) := by
  have noEscape : quoted.quote ≠ '\\' := by
    rcases quoted.isQuote with quote | quote <;> rw [quote] <;> decide
  have opens : isQuote quoted.quote = true := by
    rcases quoted.isQuote with quote | quote <;> rw [quote] <;> rfl
  have text : quoted.text ++ rest = quoted.quote :: (quoted.inside ++ quoted.quote :: rest) := by
    simp [QuotedText.text]
  rw [text, quoted?, if_pos opens, quotedRest?_plain noEscape rest quoted.inside quoted.plain]
  rfl

theorem afterFraction_fractionText (numeral : Numeral) {rest : List Char}
    (noDigit : Stops Char.isDigit rest) (noPoint : Stops (· == '.') rest) :
    afterFraction (numeral.fractionText ++ rest) = rest := by
  unfold Numeral.fractionText
  split
  · rw [List.nil_append]
    unfold afterFraction
    split
    · exact absurd noPoint.head (by decide)
    · rfl
  · rename_i digits _
    have split := digits.splitDigits_append noDigit
    rcases digits.text_cons with ⟨first, others, text, _⟩
    rw [text] at split ⊢
    simp only [List.cons_append] at split ⊢
    rw [afterFraction, split]

theorem afterExponent_exponentText (numeral : Numeral) {rest : List Char}
    (stops : Stops continuesNumber rest) :
    afterExponent (numeral.exponentText ++ rest) = rest := by
  rcases stops_of_continuesNumber stops with ⟨noDigit, _, noMark⟩
  unfold Numeral.exponentText
  split
  · cases rest with
    | nil => rfl
    | cons c others =>
        have outside := noMark.head
        simp only [Bool.or_eq_false_iff, beq_eq_false_iff_ne] at outside
        simp [afterExponent, outside.1, outside.2]
  · rename_i exponent _
    have sign := exponent.sign.splitSign_append exponent.digits rest
    have digits := exponent.digits.splitDigits_append noDigit
    rcases exponent.digits.text_cons with ⟨first, others, text, _⟩
    rw [text] at sign digits
    simp only [Exponent.text, text, List.cons_append, List.append_assoc] at sign digits ⊢
    rw [afterExponent, if_pos exponent.isMark]
    simp only [sign, digits]

theorem number?_unsigned (numeral : Numeral) {rest : List Char}
    (stops : Stops continuesNumber rest) :
    number? (numeral.unsigned ++ rest) = some (numeral.magnitude, rest) := by
  rcases stops_of_continuesNumber stops with ⟨noDigit, noPoint, _⟩
  have behind : Stops Char.isDigit (numeral.exponentText ++ rest) :=
    numeral.exponentText_stops rfl rfl noDigit
  have whole := numeral.splitDigits_unsigned noDigit
  have fraction := afterFraction_fractionText numeral behind
    (numeral.exponentText_stops rfl rfl noPoint)
  have exponent := afterExponent_exponentText numeral stops
  have taken : (numeral.unsigned ++ rest).take ((numeral.unsigned ++ rest).length - rest.length) =
      numeral.unsigned := by
    simp
  rcases numeral.whole.text_cons with ⟨first, others, text, _⟩
  rw [text] at whole
  simp only [number?, whole, fraction, exponent, taken, numeral.readUnsigned?_unsigned]
  rfl

end Lexeme

/-- No call follows a root name: its steps begin with no bracket of a call. -/
theorem SharedStep.symbol?_bracket (steps : List SharedStep) {rest : List Char}
    (boundary : Boundary rest) : Lexeme.symbol? "(" (SharedStep.texts steps ++ rest) = none := by
  cases steps with
  | nil => exact Lexeme.symbol?_of_boundary rfl (by decide) boundary
  | cons step others =>
      cases step with
      | property name => exact Lexeme.symbol?_of_stops rfl (stops_cons rfl)
      | bracket before key after => exact Lexeme.symbol?_of_stops rfl (stops_cons rfl)

namespace Expr.Parser

open Lexeme Grammar

variable {source : Source} {rest : List Char}

theorem not_isQuote_of_inClass {inClass : Char → Bool} {c : Char} (inside : inClass c = true)
    (single : inClass '\'' = false) (double : inClass '"' = false) : ¬isQuote c = true := by
  simpa [isQuote, or_comm] using not_quote_of_inClass inside single double

/-- The bar of a filter does not stand in front of a closing character. -/
theorem pipe?_closing (gap : Gap) {c : Char} (isClosing : c = ']' ∨ c = ')' ∨ c = ',') :
    pipe? (gap.text ++ c :: rest) = none := by
  have ink : isBlank c = false := by
    rcases isClosing with rfl | rfl | rfl <;> rfl
  rw [pipe?, gap.dropWhile_append (stops_cons ink)]
  rcases isClosing with rfl | rfl | rfl <;> rfl

theorem pipe?_filter (given : SharedFilter) (rest : List Char) :
    pipe? (given.text ++ rest) = some (given.afterBar.text ++ (given.name.text ++
      (given.arguments.text ++ rest))) := by
  have noBar := given.afterBar_noBar rest
  have dropped : (given.text ++ rest).dropWhile isPlainSpace = '|' :: (given.afterBar.text ++
      (given.name.text ++ (given.arguments.text ++ rest))) := by
    have front := given.beforeBar.dropWhile_append (stops_cons rfl : Stops isBlank
      ('|' :: (given.afterBar.text ++ (given.name.text ++ (given.arguments.text ++ rest)))))
    simpa [SharedFilter.text] using front
  rw [pipe?, dropped]
  split
  · rename_i heads
    rw [(List.cons.inj heads).2] at noBar
    exact absurd noBar.head (by decide)
  · rename_i heads
    rw [(List.cons.inj heads).2]
  · rename_i noBars
    exact absurd rfl (noBars _)

theorem expect_gap (gap : Gap) {symbol : String} {first : Char} (begins : symbol.toList = [first])
    (ink : isBlank first = false) : expect symbol (gap.text ++ first :: rest) = .ok rest := by
  rw [expect, symbol?_gap gap begins ink]

/-- A quoted text is an operand at every level. -/
theorem readUnary_quoted (quoted : QuotedText) (grammar : Option Grammar)
    (boundary : Boundary rest) : ∃ expr,
      readUnary source grammar (quoted.text ++ rest) = .ok (expr, rest) ∧
        expr.bare = .literal Extent.nowhere (.string quoted.string) := by
  have begins := (quoted.text_stops rest).dropWhile_eq_self
  have read := quoted?_quotedText quoted rest
  have opens : isQuote quoted.quote = true := by
    rcases quoted.isQuote with quote | quote <;> rw [quote] <;> rfl
  have plain : quoted.quote ∉ openingCharacters := not_mem_of_inClass opens rfl
  refine ⟨.literal (source.extent (quoted.text ++ rest) rest) (.string quoted.string), ?_, rfl⟩
  refine readUnary_of_primary begins (unaryOp?_cons plain) ?_ boundary
  have ink : isBlank quoted.quote = false := (quoted.text_stops rest).head
  simp only [QuotedText.text, List.cons_append] at read ⊢
  rw [primary_cons source _ ink plain, if_pos opens, require_of_some read]
  rfl

/-- Digits are an operand at every level. -/
theorem readUnary_unsigned (numeral : Numeral) (grammar : Option Grammar)
    (boundary : Boundary rest) : ∃ expr,
      readUnary source grammar (numeral.unsigned ++ rest) = .ok (expr, rest) ∧
        expr.bare = .literal Extent.nowhere (.number numeral.magnitude) := by
  have read := number?_unsigned numeral (boundary.stops (by decide))
  rcases numeral.whole.text_cons with ⟨first, others, text, digit⟩
  have ink := not_blank_of_isDigit digit
  have noQuote := not_isQuote_of_inClass digit rfl rfl
  have plain : first ∉ openingCharacters := not_mem_of_inClass digit rfl
  refine ⟨.literal (source.extent (numeral.unsigned ++ rest) rest) (.number numeral.magnitude),
    ?_, rfl⟩
  simp only [Numeral.unsigned, text, List.cons_append] at read ⊢
  refine readUnary_of_primary (trimStart_cons ink) (unaryOp?_cons plain) ?_ boundary
  rw [primary_cons source _ ink plain, if_neg noQuote, if_pos digit, require_of_some read]
  rfl

/-- What begins with a letter or an underscore is read as what a name begins. -/
theorem primary_identifier (source : Source) (pipeline : Reader Expr) (identifier : Identifier)
    (afterName : List Char) : primary source pipeline (identifier.text ++ afterName) =
      named source pipeline (identifier.text ++ afterName) (identifier.text ++ afterName) := by
  have begins := identifier.begins
  have ink := not_blank_of_continuesName (continuesName_of_beginsName begins)
  have plain : identifier.first ∉ openingCharacters := not_mem_of_inClass begins rfl
  have noQuote := not_isQuote_of_inClass begins rfl rfl
  have noDigit : ¬identifier.first.isDigit = true := by
    simp [not_digit_of_beginsName begins]
  simp only [Identifier.text, List.cons_append]
  rw [primary_cons source _ ink plain, if_neg noQuote, if_neg noDigit]

theorem unaryOp?_identifier (identifier : Identifier) (afterName : List Char) :
    unaryOp? (identifier.text ++ afterName) = none :=
  unaryOp?_cons (not_mem_of_inClass identifier.begins rfl)

/-- What a name begins is an operand at every level that can read it. -/
theorem readUnary_of_named (identifier : Identifier) {grammar : Option Grammar}
    {afterName : List Char} {expr : Expr} (boundary : Boundary rest)
    (read : named source (readPipeline source grammar) (identifier.text ++ afterName)
      (identifier.text ++ afterName) = .ok (expr, rest)) :
    readUnary source grammar (identifier.text ++ afterName) = .ok (expr, rest) := by
  rw [← primary_identifier] at read
  exact readUnary_of_primary (identifier.text_stops afterName).dropWhile_eq_self
    (unaryOp?_identifier identifier afterName) read boundary

/-- A root name with its steps is an operand at every level that can read the steps. -/
theorem readUnary_root (root : RootName) (given : List SharedStep) {levels : Nat}
    {path : List (PathStep Expr)} (boundary : Boundary rest)
    (read : steps (ofLevels source levels).pipeline (SharedStep.texts given ++ rest).length
      (SharedStep.texts given ++ rest) = .ok (path, rest)) : ∃ extent,
      readUnary source (inner source levels) (root.text ++ (SharedStep.texts given ++ rest)) =
        .ok (.access extent root.name path, rest) := by
  have stops : Stops continuesName (SharedStep.texts given ++ rest) :=
    SharedStep.texts_stops rfl rfl (boundary.stops (by decide)) given
  have name := name?_identifier root.toIdentifier stops
  have noCall := SharedStep.symbol?_bracket given boundary
  rw [pipeline_ofLevels] at read
  refine ⟨source.extent (root.text ++ (SharedStep.texts given ++ rest)) rest, ?_⟩
  refine readUnary_of_named root.toIdentifier boundary ?_
  simp only [named, require_of_some name, bind, Except.bind, if_neg root.notTrue,
    if_neg root.notFalse, if_neg root.notNull, noCall, read]
  rfl

/-- A name that stands for a constant is that constant. -/
theorem readUnary_constant (identifier : Identifier) (value : Literal) (grammar : Option Grammar)
    (constant : (identifier.name = "true" ∧ value = .bool true) ∨
      (identifier.name = "false" ∧ value = .bool false) ∨
      (identifier.name = "null" ∧ value = .null)) (boundary : Boundary rest) : ∃ expr,
      readUnary source grammar (identifier.text ++ rest) = .ok (expr, rest) ∧
        expr.bare = .literal Extent.nowhere value := by
  have name := name?_identifier identifier (boundary.stops (by decide))
  refine ⟨.literal (source.extent (identifier.text ++ rest) rest) value, ?_, rfl⟩
  refine readUnary_of_named identifier boundary ?_
  rcases constant with ⟨here, rfl⟩ | ⟨here, rfl⟩ | ⟨here, rfl⟩
  all_goals
    rw [here] at name
    simp only [named, require_of_some name, bind, Except.bind]
    rfl

/-- An operator in front of an operand takes a level. -/
theorem readUnary_sign {levels : Nat} {c : Char} {op : UnaryOp} {afterOp : List Char}
    {operand : Expr} (ink : isBlank c = false) (sign : unaryOp? (c :: afterOp) = some (op, afterOp))
    (read : readUnary source (inner source levels) afterOp = .ok (operand, rest)) :
    readUnary source (inner source (levels + 1)) (c :: afterOp) =
      .ok (.unary (source.extent (c :: afterOp) rest) op operand, rest) := by
  have left : inner source (levels + 1) = some (ofLevels source levels) := rfl
  rw [readUnary]
  simp only [trimStart_cons ink, sign, left, enter, unary_ofLevels, read, bind, Except.bind]
  rfl

/-- A constant is an operand where a level is left for its sign. -/
theorem readUnary_literal (constant : SharedLiteral) (levels : Nat) (boundary : Boundary rest) :
    ∃ expr, readUnary source (inner source (levels + 1)) (constant.text ++ rest) =
        .ok (expr, rest) ∧ expr.bare = constant.tree := by
  cases constant with
  | quoted inQuotes => exact readUnary_quoted inQuotes _ boundary
  | number numeral =>
      simp only [SharedLiteral.text, Numeral.text, SharedLiteral.tree, Numeral.tree]
      cases numeral.sign with
      | none => exact readUnary_unsigned numeral _ boundary
      | plus =>
          rcases readUnary_unsigned numeral (inner source levels) boundary with
            ⟨operand, read, bare⟩
          exact ⟨_, readUnary_sign rfl rfl read, by rw [Expr.bare, bare]⟩
      | minus =>
          rcases readUnary_unsigned numeral (inner source levels) boundary with
            ⟨operand, read, bare⟩
          exact ⟨_, readUnary_sign rfl rfl read, by rw [Expr.bare, bare]⟩
  | bool b =>
      cases b with
      | true =>
          exact readUnary_constant ⟨'t', ['r', 'u', 'e'], rfl, List.all_eq_true.mp rfl⟩
            (.bool true) _ (.inl ⟨rfl, rfl⟩) boundary
      | false =>
          exact readUnary_constant ⟨'f', ['a', 'l', 's', 'e'], rfl, List.all_eq_true.mp rfl⟩
            (.bool false) _ (.inr (.inl ⟨rfl, rfl⟩)) boundary
  | null =>
      exact readUnary_constant ⟨'n', ['u', 'l', 'l'], rfl, List.all_eq_true.mp rfl⟩ .null _
        (.inr (.inr ⟨rfl, rfl⟩)) boundary

theorem steps_of_stops (pipeline : Reader Expr) (fuel : Nat) (noStep : Stops beginsStep rest) :
    steps pipeline fuel rest = .ok ([], rest) := by
  have noPoint : Stops (· == '.') rest := noStep.mono fun c point => by
    rw [beq_iff_eq.mp point]
    rfl
  have noMethod := methodCall?_of_stops noPoint
  have noProperty := property?_of_stops noPoint
  cases fuel with
  | zero => rfl
  | succ fuel =>
      rw [steps.eq_def]
      simp only [noMethod, Option.isSome_none, Bool.false_eq_true, if_false]
      split
      · rename_i found
        rw [noProperty] at found
        cases found
      · exact absurd noStep.head (by decide)
      · rfl

theorem steps_nil (pipeline : Reader Expr) (fuel : Nat) (boundary : Boundary rest) :
    steps pipeline fuel rest = .ok ([], rest) :=
  steps_of_stops pipeline fuel (boundary.stops (by decide))

theorem steps_property (pipeline : Reader Expr) (fuel : Nat) (name : Identifier)
    {afterName : List Char} (stops : Stops continuesName afterName)
    (noCall : symbol? "(" afterName = none) :
    steps pipeline (fuel + 1) ('.' :: (name.text ++ afterName)) = (do
      let (later, rest) ← steps pipeline fuel afterName
      pure (.property name.name :: later, rest)) := by
  have read := name?_identifier name stops
  have noMethod : methodCall? ('.' :: (name.text ++ afterName)) = none := by
    simp [methodCall?, read, noCall]
  have property : property? ('.' :: (name.text ++ afterName)) = some (name.name, afterName) := read
  rw [steps.eq_def]
  simp only [noMethod, Option.isSome_none, Bool.false_eq_true, if_false, property]

theorem steps_bracket (pipeline : Reader Expr) (fuel : Nat) (afterBracket : List Char) :
    steps pipeline (fuel + 1) ('[' :: afterBracket) = (do
      let (key, afterKey) ← pipeline afterBracket
      let afterClosing ← expect "]" afterKey
      let (later, rest) ← steps pipeline fuel afterClosing
      pure (.index key :: later, rest)) := by
  have noMethod : methodCall? ('[' :: afterBracket) = none := methodCall?_of_stops (stops_cons rfl)
  have noProperty : property? ('[' :: afterBracket) = none := property?_of_stops (stops_cons rfl)
  rw [steps.eq_def]
  simp only [noMethod, Option.isSome_none, Bool.false_eq_true, if_false, noProperty]

/-- A key that can be read is read with its brackets. -/
theorem pipeline_key {levels : Nat} (before after : Gap) (key : SharedKey) {expr : Expr}
    {afterClosing : List Char}
    (read : readUnary source (inner source levels)
      (key.text ++ (after.text ++ ']' :: afterClosing)) =
        .ok (expr, after.text ++ ']' :: afterClosing)) :
    (ofLevels source (levels + 1)).pipeline
        (before.text ++ (key.text ++ (after.text ++ ']' :: afterClosing))) =
      .ok (expr, after.text ++ ']' :: afterClosing) :=
  pipeline_of_unary (key.trimStart_text before _) read (.closing after _ (.inl rfl))
    (pipe?_closing after (.inl rfl))

mutual

/-- A key is an operand if its levels fit into those that are left. -/
theorem readUnary_key (source : Source) (key : SharedKey) (levels : Nat) {rest : List Char}
    (nests : key.levels ≤ levels + 1) (boundary : Boundary rest) : ∃ expr,
      readUnary source (inner source levels) (key.text ++ rest) = .ok (expr, rest) ∧
        expr.bare = key.tree := by
  cases key with
  | position digits =>
      rcases readUnary_unsigned ⟨.none, digits.toDigits, none, none⟩ (inner source levels) boundary
        with ⟨expr, read, bare⟩
      refine ⟨expr, ?_, ?_⟩
      · simpa [Numeral.unsigned, Numeral.fractionText, Numeral.exponentText, SharedKey.text]
          using read
      · rw [bare]
        simp [SharedKey.tree, Numeral.magnitude, Numeral.fractionDigits, Numeral.exponentValue]
        rfl
  | quoted quoted => exact readUnary_quoted quoted _ boundary
  | path root steps =>
      simp only [SharedKey.levels] at nests
      have room : steps.length ≤ (SharedStep.texts steps ++ rest).length := by
        have least := SharedStep.length_texts steps
        simp only [List.length_append]
        omega
      rcases steps_shared source steps levels _ (by omega) room boundary with ⟨path, later, bare⟩
      rcases readUnary_root root steps boundary later with ⟨extent, read⟩
      refine ⟨.access extent root.name path, ?_, ?_⟩
      · simpa [SharedKey.text] using read
      · simp [Expr.bare, bare, SharedKey.tree]

/-- Steps are read for as long as there are any. -/
theorem steps_shared (source : Source) (given : List SharedStep) (levels fuel : Nat)
    {rest : List Char} (nests : SharedStep.deepest given ≤ levels) (room : given.length ≤ fuel)
    (boundary : Boundary rest) : ∃ path,
      steps (ofLevels source levels).pipeline fuel (SharedStep.texts given ++ rest) =
        .ok (path, rest) ∧ Expr.barePath path = SharedStep.trees given := by
  cases given with
  | nil => exact ⟨[], steps_nil _ fuel boundary, rfl⟩
  | cons step others =>
      simp only [SharedStep.deepest, Nat.max_le] at nests
      rcases Nat.exists_eq_add_one.mpr (Nat.zero_lt_of_lt room) with ⟨fuel, rfl⟩
      rcases steps_shared source others levels fuel nests.2 (by simpa using room) boundary with
        ⟨path, later, bare⟩
      cases step with
      | property name =>
          have stops : Stops continuesName (SharedStep.texts others ++ rest) :=
            SharedStep.texts_stops rfl rfl (boundary.stops (by decide)) others
          have read := steps_property (ofLevels source levels).pipeline fuel name stops
            (SharedStep.symbol?_bracket others boundary)
          simp only [later, bind, Except.bind, pure, Except.pure] at read
          refine ⟨.property name.name :: path, ?_, ?_⟩
          · simpa [SharedStep.texts, SharedStep.text] using read
          · simp [Expr.barePath, bare, SharedStep.trees, SharedStep.tree]
      | bracket before key after =>
          rcases Nat.exists_eq_add_one.mpr (Nat.lt_of_lt_of_le key.levels_pos nests.1) with
            ⟨levels, rfl⟩
          have closing : Boundary (after.text ++ ']' :: (SharedStep.texts others ++ rest)) :=
            .closing after _ (.inl rfl)
          rcases readUnary_key source key levels nests.1 closing with ⟨expr, read, bareKey⟩
          have inside := pipeline_key before after key read
          have closed : expect "]" (after.text ++ ']' :: (SharedStep.texts others ++ rest)) =
              .ok (SharedStep.texts others ++ rest) := expect_gap after rfl rfl
          have read := steps_bracket (ofLevels source (levels + 1)).pipeline fuel (before.text ++
            (key.text ++ (after.text ++ ']' :: (SharedStep.texts others ++ rest))))
          simp only [inside, closed, later, bind, Except.bind, pure, Except.pure] at read
          refine ⟨.index expr :: path, ?_, ?_⟩
          · simpa [SharedStep.texts, SharedStep.text] using read
          · simp [Expr.barePath, bare, bareKey, SharedStep.trees, SharedStep.tree]

end

/-- An argument is a whole expression where a level is left for it and one for its sign. -/
theorem pipeline_argument (source : Source) (levels : Nat) (argument : SharedArgument)
    (others : List SharedArgument) (rest : List Char) : ∃ expr,
      (ofLevels source (levels + 2)).pipeline
          (argument.text ++ (SharedArgument.texts others ++ ')' :: rest)) =
        .ok (expr, argument.after.text ++ (SharedArgument.texts others ++ ')' :: rest)) ∧
          expr.bare = argument.literal.tree := by
  have boundary := SharedArgument.texts_boundary argument.after others rest
  rcases readUnary_literal argument.literal levels boundary with ⟨expr, read, bare⟩
  have begins : trimStart (argument.text ++ (SharedArgument.texts others ++ ')' :: rest)) =
      argument.literal.text ++ (argument.after.text ++
        (SharedArgument.texts others ++ ')' :: rest)) := by
    simp only [SharedArgument.text, List.append_assoc, argument.before.trimStart_append]
    exact (argument.literal.text_stops _).dropWhile_eq_self
  have noPipe : pipe? (argument.after.text ++ (SharedArgument.texts others ++ ')' :: rest)) =
      none := by
    cases others with
    | nil => exact pipe?_closing argument.after (.inr (.inl rfl))
    | cons next others => exact pipe?_closing argument.after (.inr (.inr rfl))
  exact ⟨expr, pipeline_of_unary begins read boundary noPipe, bare⟩

theorem symbol?_closing_argument (argument : SharedArgument) (rest : List Char) :
    symbol? ")" (argument.text ++ rest) = none := by
  refine symbol?_of_stops rfl ?_
  simp only [SharedArgument.text, List.append_assoc, argument.before.trimStart_append]
  rw [trimStart, (argument.literal.text_stops _).dropWhile_eq_self]
  exact argument.literal.text_noBracket _

/-- Arguments are read up to the closing bracket. -/
theorem separated_shared (source : Source) (levels : Nat) (rest : List Char)
    (others : List SharedArgument) : ∀ (argument : SharedArgument) (fuel : Nat),
      others.length < fuel → ∃ args,
        separated (ofLevels source (levels + 2)).pipeline ")" fuel
            (argument.text ++ (SharedArgument.texts others ++ ')' :: rest)) = .ok (args, rest) ∧
          Expr.bareAll args =
            (argument :: others).map fun argument => argument.literal.tree := by
  induction others with
  | nil =>
      intro argument fuel room
      rcases Nat.exists_eq_add_one.mpr (Nat.zero_lt_of_lt room) with ⟨fuel, rfl⟩
      rcases pipeline_argument source levels argument [] rest with ⟨arg, read, bare⟩
      have noEnd := symbol?_closing_argument argument (SharedArgument.texts [] ++ ')' :: rest)
      have noComma : symbol? "," (argument.after.text ++ ')' :: rest) = none := by
        refine symbol?_of_stops rfl ?_
        rw [argument.after.trimStart_append]
        exact stops_cons rfl
      have closed : expect ")" (argument.after.text ++ ')' :: rest) = .ok rest :=
        expect_gap argument.after rfl rfl
      simp only [SharedArgument.texts, List.nil_append] at read noEnd ⊢
      refine ⟨[arg], ?_, ?_⟩
      · simp only [separated, noEnd, read, noComma, closed, bind, Except.bind]
        rfl
      · simp [Expr.bareAll, bare]
  | cons next others ih =>
      intro argument fuel room
      rcases Nat.exists_eq_add_one.mpr (Nat.zero_lt_of_lt room) with ⟨fuel, rfl⟩
      rcases ih next fuel (by simpa using room) with ⟨args, later, bareLater⟩
      rcases pipeline_argument source levels argument (next :: others) rest with ⟨arg, read, bare⟩
      have noEnd := symbol?_closing_argument argument
        (SharedArgument.texts (next :: others) ++ ')' :: rest)
      have comma : symbol? "," (argument.after.text ++
          (SharedArgument.texts (next :: others) ++ ')' :: rest)) =
            some (next.text ++ (SharedArgument.texts others ++ ')' :: rest)) := by
        have taken : symbol? "," (argument.after.text ++ ',' :: (next.text ++
            (SharedArgument.texts others ++ ')' :: rest))) =
              some (next.text ++ (SharedArgument.texts others ++ ')' :: rest)) :=
          symbol?_gap argument.after rfl rfl
        simpa [SharedArgument.texts] using taken
      refine ⟨arg :: args, ?_, ?_⟩
      · simp only [separated, noEnd, read, comma, later, bind, Except.bind]
        rfl
      · simp [Expr.bareAll, bare, bareLater]

/-- The arguments of a filter, where none stand without brackets. -/
theorem arguments_shared (source : Source) (levels : Nat) (given : SharedArguments)
    {rest : List Char} (boundary : Boundary rest) :
    (given.text ++ rest = rest ∧ given.literals = [] ∧ symbol? "(" rest = none) ∨
      ∃ afterBracket args, symbol? "(" (given.text ++ rest) = some afterBracket ∧
        arguments (ofLevels source (levels + 2)).pipeline ")" afterBracket = .ok (args, rest) ∧
          Expr.bareAll args = given.literals.map SharedLiteral.tree := by
  cases given with
  | absent => exact .inl ⟨rfl, rfl, symbol?_of_boundary rfl (by decide) boundary⟩
  | empty before inside =>
      have closed : symbol? ")" (inside.text ++ ')' :: rest) = some rest :=
        symbol?_gap inside rfl rfl
      refine .inr ⟨inside.text ++ ')' :: rest, [], ?_, ?_, rfl⟩
      · have opened : symbol? "(" (before.text ++ '(' :: (inside.text ++ ')' :: rest)) =
            some (inside.text ++ ')' :: rest) := symbol?_gap before rfl rfl
        simpa [SharedArguments.text] using opened
      · simp only [arguments, separated, closed]
  | listed before first others =>
      have room : others.length <
          (first.text ++ (SharedArgument.texts others ++ ')' :: rest)).length + 1 := by
        have commas := SharedArgument.length_texts others
        simp only [List.length_append, List.length_cons]
        omega
      rcases separated_shared source levels rest others first _ room with ⟨args, read, bare⟩
      refine .inr ⟨first.text ++ (SharedArgument.texts others ++ ')' :: rest), args, ?_, read, ?_⟩
      · have opened : symbol? "(" (before.text ++ '(' :: (first.text ++
            (SharedArgument.texts others ++ ')' :: rest))) =
              some (first.text ++ (SharedArgument.texts others ++ ')' :: rest)) :=
          symbol?_gap before rfl rfl
        simpa [SharedArguments.text] using opened
      · simp [bare, SharedArguments.literals, Function.comp_def]

/-- A filter is read after its bar. -/
theorem filterCall_shared (source : Source) (levels : Nat) (given : SharedFilter)
    {rest : List Char} (boundary : Boundary rest) : ∃ call,
      filterCall source (ofLevels source (levels + 2)).pipeline
          (given.afterBar.text ++ (given.name.text ++ (given.arguments.text ++ rest))) =
        .ok (call, rest) ∧ call.name = given.name.name ∧
          Expr.bareAll call.args = given.arguments.literals.map SharedLiteral.tree := by
  have begins : trimStart (given.afterBar.text ++ (given.name.text ++
      (given.arguments.text ++ rest))) = given.name.text ++ (given.arguments.text ++ rest) := by
    rw [given.afterBar.trimStart_append]
    exact (given.name.text_stops _).dropWhile_eq_self
  have name := name?_identifier given.name.toIdentifier
    (given.arguments.text_stops (by decide) rfl (boundary.stops (by decide)))
  rcases arguments_shared source levels given.arguments boundary with
    ⟨same, none, noBracket⟩ | ⟨afterBracket, args, opened, read, bare⟩
  · rw [same] at begins name ⊢
    refine ⟨⟨given.name.name, [], source.span (given.name.text ++ rest) rest⟩, ?_, rfl, ?_⟩
    · simp only [filterCall, begins, require_of_some name, noBracket, bind, Except.bind]
      rfl
    · simp [none, Expr.bareAll]
  · refine ⟨⟨given.name.name, args, source.span (given.name.text ++ (given.arguments.text ++ rest))
      rest⟩, ?_, rfl, bare⟩
    simp only [filterCall, begins, require_of_some name, opened, read, bind, Except.bind]
    rfl

/-- Filters are read for as long as there is a bar. -/
theorem filters_shared (source : Source) (levels : Nat) (given : List SharedFilter)
    {rest : List Char} (boundary : Boundary rest) (noPipe : pipe? rest = none) :
    ∀ fuel : Nat, given.length ≤ fuel → ∃ calls,
      filters source (ofLevels source (levels + 2)).pipeline fuel
          (SharedFilter.texts given ++ rest) = .ok (calls, rest) ∧
        Expr.bareFilters calls = given.map SharedFilter.inExpr := by
  induction given with
  | nil =>
      intro fuel _
      exact ⟨[], filters_of_noPipe source _ fuel noPipe, rfl⟩
  | cons first others ih =>
      intro fuel room
      rcases Nat.exists_eq_add_one.mpr (Nat.zero_lt_of_lt room) with ⟨fuel, rfl⟩
      rcases ih fuel (by simpa using room) with ⟨calls, later, bareLater⟩
      rcases filterCall_shared source levels first (SharedFilter.texts_boundary boundary others)
        with ⟨⟨name, args, span⟩, read, named, bare⟩
      have bar : pipe? (SharedFilter.texts (first :: others) ++ rest) =
          some (first.afterBar.text ++ (first.name.text ++ (first.arguments.text ++
            (SharedFilter.texts others ++ rest)))) := by
        have taken := pipe?_filter first (SharedFilter.texts others ++ rest)
        simpa [SharedFilter.texts, SharedFilter.text] using taken
      refine ⟨⟨name, args, span⟩ :: calls, ?_, ?_⟩
      · simp only [filters, bar, read, later, bind, Except.bind]
        rfl
      · simp only at named bare
        simp [Expr.bareFilters, bareLater, SharedFilter.inExpr, named, bare]

/-- A query is a whole expression, which leaves the white space behind it. -/
theorem pipeline_shared (source : Source) (levels : Nat) (query : SharedQuery)
    (nests : query.path.levels ≤ levels + 2 + 1) : ∃ expr,
      (ofLevels source (levels + 2 + 1)).pipeline query.text.toList =
        .ok (expr, query.trailing.text) ∧ expr.bare = query.tree := by
  have ending : Boundary query.trailing.text := .blank query.trailing
  have noPipe : pipe? query.trailing.text = none := by
    have dropped := query.trailing.dropWhile_append stops_nil
    rw [List.append_nil] at dropped
    rw [pipe?, dropped]
  have boundary := SharedFilter.texts_boundary ending query.filters
  rcases readUnary_key source query.path (levels + 2) nests boundary with ⟨input, read, bareInput⟩
  have again := (query.path.text_stops
    (SharedFilter.texts query.filters ++ query.trailing.text)).dropWhile_eq_self
  have ternary := readTernary_of_unary again read boundary
  have room : query.filters.length ≤
      (SharedFilter.texts query.filters ++ query.trailing.text).length := by
    have least := SharedFilter.length_texts query.filters
    simp only [List.length_append]
    omega
  rcases filters_shared source levels query.filters ending noPipe _ room with
    ⟨calls, filtered, bareCalls⟩
  have same : query.filters.isEmpty = calls.isEmpty := by
    rw [← Expr.isEmpty_bareFilters, bareCalls, List.isEmpty_map]
  rw [pipeline_succ, query.trimStart_text, ternary]
  simp only [bind, Except.bind, filtered]
  split
  · rename_i empty
    refine ⟨input, rfl, ?_⟩
    rw [SharedQuery.tree, same, if_pos empty]
    exact bareInput
  · rename_i nonempty
    refine ⟨_, rfl, ?_⟩
    rw [SharedQuery.tree, same, if_neg nonempty, Expr.bare, bareInput, bareCalls]

end Expr.Parser

/-- The text of a query is read as the expression that it stands for, if its levels fit. -/
theorem parseExpression_shared (query : SharedQuery) (origin : Position)
    (nests : query.path.levels ≤ Expr.maxLevels) : ∃ expr,
      parseExpression query.text origin = .ok expr ∧ expr.bare = query.tree := by
  rcases Expr.Parser.pipeline_shared (Expr.Parser.Source.ofText origin query.text.toList) 61 query
    nests with ⟨expr, read, bare⟩
  have nonempty : (trim query.text.toList).isEmpty = false := by
    rw [query.trim_text]
    rfl
  have blank : trimStart query.trailing.text = [] := by
    have trimmed := query.trailing.trimStart_append []
    rwa [List.append_nil] at trimmed
  exact ⟨expr, Expr.Parser.parse_of_pipeline nonempty read blank, bare⟩

end Stencil
