import Stencil.Proofs.Expr.Accounting
import Stencil.Proofs.Expr.Bare
import Stencil.Proofs.Expr.Primaries
import Stencil.Proofs.Expr.Spacing
/-!
# White space between words

Which white space stands between two words of an expression does not matter, but for one place. The
readers of two sources that differ in one gap read the same of both, as `ReadsAlike` says: those of
one level because those with one level less do, and so by induction on the levels that are left.
Every reader passes over all white space in front of a word, except that the pipe of a filter may
have nothing but plain white space in front of it.
-/

namespace Stencil

open Text

namespace Expr.Parser

open Lexeme

variable {gap gap' : List Char} {crossed : Prop} {α β γ δ : Type}

/-- Two readings of which the second succeeds if the first does, with the same of what matters, and
that stop at the same place. -/
inductive Alike (bare : α → β) (gap gap' : List Char) (crossed : Prop) :
    Except Failure (α × List Char) → Except Failure (α × List Char) → Prop where
  | error (failure : Failure) {read' : Except Failure (α × List Char)} :
    Alike bare gap gap' crossed (.error failure) read'
  | ok {value value' : α} {rest rest' : List Char} (same : bare value = bare value')
    (stopped : Stopped gap gap' crossed rest rest') :
    Alike bare gap gap' crossed (.ok (value, rest)) (.ok (value', rest'))

/-- That two readers read alike wherever they begin at the same place. -/
def ReadsAlike (bare : α → β) (gap gap' : List Char) (crossed : Prop)
    (reader reader' : Reader α) : Prop :=
  ∀ {text text'}, Begun gap gap' crossed text text' →
    Alike bare gap gap' crossed (reader text) (reader' text')

namespace Alike

variable {bare : α → β} {bare' : γ → δ} {read read' : Except Failure (α × List Char)}

/-- Readings that go on alike. -/
theorem bind {next next' : α × List Char → Except Failure (γ × List Char)}
    (first : Alike bare gap gap' crossed read read')
    (later : ∀ {value rest value' rest'}, read = .ok (value, rest) → read' = .ok (value', rest') →
      bare value = bare value' → Stopped gap gap' crossed rest rest' →
        Alike bare' gap gap' crossed (next (value, rest)) (next' (value', rest'))) :
    Alike bare' gap gap' crossed (read >>= next) (read' >>= next') := by
  cases first with
  | error failure => exact .error failure
  | ok same stopped => exact later rfl rfl same stopped

/-- Readings that go on alike behind a required symbol. -/
theorem expect {symbol : String} {text text' : List Char}
    {next next' : List Char → Except Failure (γ × List Char)}
    (taken : Option.Rel (Stopped gap gap' crossed) (symbol? symbol text) (symbol? symbol text'))
    (later : ∀ {rest rest'}, symbol? symbol text = some rest → symbol? symbol text' = some rest' →
      Stopped gap gap' crossed rest rest' →
        Alike bare' gap gap' crossed (next rest) (next' rest')) :
    Alike bare' gap gap' crossed (Parser.expect symbol text >>= next)
      (Parser.expect symbol text' >>= next') := by
  unfold Parser.expect
  generalize symbol? symbol text = read at taken later ⊢
  generalize symbol? symbol text' = read' at taken later ⊢
  cases taken with
  | some stopped => exact later rfl rfl stopped
  | none => exact .error _

/-- A required word is read alike if the word is. -/
theorem require {word? : List Char → Option (α × List Char)} {text text' : List Char}
    (taken : Taken gap gap' crossed (word? text) (word? text')) :
    Alike id gap gap' crossed (Parser.require word? text) (Parser.require word? text') := by
  unfold Parser.require
  generalize word? text = read at taken ⊢
  generalize word? text' = read' at taken ⊢
  cases taken with
  | none => exact .error _
  | some both =>
      rcases both with ⟨same, stopped⟩
      exact .ok same stopped

end Alike

theorem bareAll_eq_map (exprs : List Expr) : Expr.bareAll exprs = exprs.map Expr.bare := by
  induction exprs with
  | nil => rfl
  | cons expr others ih => rw [Expr.bareAll, ih, List.map_cons]

/-- An entry of an object without places. -/
def bareEntry (entry : String × Expr) : String × Expr := (entry.1, entry.2.bare)

theorem bareEntries_eq_map (entries : List (String × Expr)) :
    Expr.bareEntries entries = entries.map bareEntry := by
  induction entries with
  | nil => rfl
  | cons entry others ih =>
      rw [Expr.bareEntries, ih, List.map_cons]
      rfl

/-- A filter without places. -/
def bareFilter (call : FilterCall Expr) : FilterCall Expr :=
  ⟨call.name, Expr.bareAll call.args, Span.empty⟩

theorem bareFilters_cons (call : FilterCall Expr) (others : List (FilterCall Expr)) :
    Expr.bareFilters (call :: others) = bareFilter call :: Expr.bareFilters others := rfl

/-- Steps begin with a point or with a bracket. -/
theorem steps_succ (pipeline : Reader Expr) (fuel : Nat) (text : List Char) :
    steps pipeline (fuel + 1) text =
      if (methodCall? text).isSome then .ok ([], text)
      else
        match property? text, exactly? "[".toList text with
        | some (name, afterName), _ => do
          let (later, rest) ← steps pipeline fuel afterName
          pure (.property name :: later, rest)
        | none, some afterBracket => do
          let (index, afterIndex) ← pipeline afterBracket
          let afterClosing ← expect "]" afterIndex
          let (later, rest) ← steps pipeline fuel afterClosing
          pure (.index index :: later, rest)
        | none, none => .ok ([], text) := by
  rw [steps.eq_def]
  refine ite_congr rfl (fun _ => rfl) fun _ => ?_
  cases property? text with
  | some read => rfl
  | none =>
      cases text with
      | nil => rfl
      | cons c rest =>
          by_cases bracket : c = '['
          · subst bracket
            rfl
          · have noBracket : exactly? "[".toList (c :: rest) = none :=
              exactly?_of_stops (stops_cons (beq_eq_false_iff_ne.mpr bracket))
            rw [noBracket]
            dsimp only
            split
            · contradiction
            · rename_i heads
              exact absurd (List.cons.inj heads).1 bracket
            · rfl

/-- A name stands behind a point. -/
theorem property?_eq_bind (text : List Char) :
    property? text = (exactly? ".".toList text).bind name? := by
  cases text with
  | nil => rfl
  | cons c rest =>
      by_cases point : c = '.'
      · subst point
        rfl
      · have stops : Stops (· == '.') (c :: rest) := stops_cons (beq_eq_false_iff_ne.mpr point)
        have noPoint : exactly? ".".toList (c :: rest) = none := exactly?_of_stops stops
        rw [property?_of_stops stops, noPoint]
        rfl

/-- A call of a method is a property with a bracket behind it. -/
theorem methodCall?_eq_bind (text : List Char) :
    methodCall? text = (property? text).bind fun (name, afterName) =>
      (symbol? "(" afterName).map fun rest => (name, rest) := by
  cases text with
  | nil => rfl
  | cons c rest =>
      by_cases point : c = '.'
      · subst point
        simp only [methodCall?, property?, Option.bind_eq_bind, Option.pure_def]
        congr 1
        funext read
        cases symbol? "(" read.2 <;> rfl
      · have stops : Stops (· == '.') (c :: rest) := stops_cons (beq_eq_false_iff_ne.mpr point)
        rw [methodCall?_of_stops stops, property?_of_stops stops]
        rfl

theorem primary_trimStart (source : Source) (pipeline : Reader Expr) (text : List Char) :
    primary source pipeline (trimStart text) = primary source pipeline text := by
  rw [primary, primary, trimStart_idem]

section Parts

variable (gaps : Gaps gap gap' crossed) {source source' : Source} {text text' : List Char}

include gaps

/-- A step by name is taken from both sources or from neither. -/
theorem property?_taken (begun : Begun gap gap' crossed text text') :
    Taken gap gap' crossed (property? text) (property? text') := by
  rw [property?_eq_bind, property?_eq_bind]
  refine rel_bind (exactly?_taken gaps (by decide) begun) fun stopped => ?_
  exact name?_taken gaps stopped.begun

/-- A call of a method begins in both sources or in neither. -/
theorem methodCall?_taken (begun : Begun gap gap' crossed text text') :
    Taken gap gap' crossed (methodCall? text) (methodCall? text') := by
  rw [methodCall?_eq_bind, methodCall?_eq_bind]
  refine rel_bind (property?_taken gaps begun) fun {read read'} both => ?_
  rcases both with ⟨same, stopped⟩
  have solid : isSolid "(" = true := by decide
  have taken := symbol?_taken gaps solid stopped.begun
  dsimp only
  generalize symbol? "(" read.2 = left at taken ⊢
  generalize symbol? "(" read'.2 = left' at taken ⊢
  cases taken with
  | some stopped => exact .some ⟨same, stopped⟩
  | none => exact .none

/-- An operator in front of an operand is taken from both sources or from neither. -/
theorem unaryOp?_taken (begun : Begun gap gap' crossed text text') :
    Taken gap gap' crossed (unaryOp? text) (unaryOp? text') := by
  refine begun.taken (fun ahead => ?_) fun bar => ?_
  · rcases ahead.cases_front gaps with
      ⟨c, c', rest, rest', rfl, rfl, blank, blank'⟩ | ⟨c, rest, rest', rfl, rfl, behind⟩
    · rw [unaryOp?_cons (not_mem_of_inClass blank (by decide)),
        unaryOp?_cons (not_mem_of_inClass blank' (by decide))]
      exact .none
    · by_cases plain : c ∈ openingCharacters
      · simp only [openingCharacters, List.mem_cons, List.not_mem_nil, or_false] at plain
        rcases plain with rfl | rfl | rfl | rfl | rfl | rfl
        case inl | inr.inl | inr.inr.inl => exact .none
        all_goals exact .some ⟨rfl, .inl (behind rfl)⟩
      · rw [unaryOp?_cons plain, unaryOp?_cons plain]
        exact .none
  · cases bar
    rfl

section Inside

/-! The parts of expressions, read with readers of whole ones that read alike. -/

variable {pipeline pipeline' : Reader Expr}
  (alike : ReadsAlike Expr.bare gap gap' crossed pipeline pipeline')
  (accounts : Accounts Precedence.filter.rank pipeline)
  (accounts' : Accounts Precedence.filter.rank pipeline')

omit gaps in
theorem length_lt_of_leaves {rest : List Char} (leaves : Leaves text rest) :
    rest.length < text.length := by
  rcases leaves with ⟨taken, rfl, before, last, rfl, _⟩
  simp only [List.length_append, List.length_cons, List.length_nil]
  omega

/-- Items are read alike if each of them is. -/
theorem separated_alike {bare : α → β} {item item' : Reader α} {closing : String}
    (solid : isSolid closing = true) (each : ReadsAlike bare gap gap' crossed item item')
    (leaves : ∀ {text value rest}, item' text = .ok (value, rest) → Leaves text rest)
    {fuel fuel' : Nat} (room : text'.length < fuel')
    (begun : Begun gap gap' crossed text text') :
    Alike (List.map bare) gap gap' crossed (separated item closing fuel text)
      (separated item' closing fuel' text') := by
  induction fuel generalizing text text' fuel' with
  | zero => exact .error _
  | succ fuel ih =>
      rcases Nat.exists_eq_add_one.mpr (Nat.zero_lt_of_lt room) with ⟨fuel', rfl⟩
      rw [separated, separated]
      have closed := symbol?_taken gaps solid begun
      generalize symbol? closing text = close at closed ⊢
      generalize symbol? closing text' = close' at closed ⊢
      cases closed with
      | some stopped => exact .ok rfl stopped
      | none =>
          refine (each begun).bind fun {first afterItem first' afterItem'}
            _ read' same stopped => ?_
          have comma := symbol?_taken gaps (by decide : isSolid "," = true) stopped.begun
          dsimp only
          generalize left : symbol? "," afterItem = comma_ at comma ⊢
          generalize left' : symbol? "," afterItem' = comma' at comma ⊢
          cases comma with
          | some stopped =>
              have shorter := length_lt_of_leaves
                ((leaves read').trans (symbol?_leaves (endsInInk_symbol rfl rfl) left'))
              refine (ih (by omega) stopped.begun).bind fun _ _ sames stopped => ?_
              refine .ok ?_ stopped
              rw [List.map_cons, List.map_cons, same, sames]
          | none =>
              refine .expect (symbol?_taken gaps solid stopped.begun) fun _ _ stopped => ?_
              refine .ok ?_ stopped
              rw [List.map_cons, List.map_cons, same]

include alike accounts'

theorem arguments_alike {closing : String} (solid : isSolid closing = true) :
    ReadsAlike Expr.bareAll gap gap' crossed (arguments pipeline closing)
      (arguments pipeline' closing) := by
  intro text text' begun
  have each : Expr.bareAll = List.map Expr.bare := funext bareAll_eq_map
  rw [each]
  exact separated_alike gaps solid alike (fun read => (item_leaves accounts' read).1)
    (Nat.lt_succ_self text'.length) begun

omit alike accounts' in
/-- A key is read alike, plain or quoted. -/
theorem key_alike : ReadsAlike id gap gap' crossed key key := by
  intro text text' begun
  have trimmed := begun.trimStart gaps
  have ink := stops_dropWhile isBlank text
  rw [key, key]
  change Stops isBlank (trimStart text) at ink
  generalize trimStart text = start at trimmed ink ⊢
  generalize trimStart text' = start' at trimmed ⊢
  cases start with
  | nil => exact .error _
  | cons c others =>
      rcases trimmed.head gaps ink.head with ⟨others', rfl⟩
      dsimp only
      by_cases quote : isQuote c = true
      · rw [if_pos quote, if_pos quote]
        exact .require (quoted?_taken gaps trimmed)
      · rw [if_neg quote, if_neg quote]
        exact .require (name?_taken gaps trimmed)

omit accounts' in
theorem entry_alike : ReadsAlike bareEntry gap gap' crossed (entry pipeline) (entry pipeline') := by
  intro text text' begun
  refine (key_alike gaps begun).bind fun _ _ name stopped => ?_
  refine .expect (symbol?_taken gaps (by decide) stopped.begun) fun _ _ stopped => ?_
  refine (alike stopped.begun).bind fun _ _ same stopped => ?_
  refine .ok ?_ stopped
  rw [bareEntry, bareEntry, same]
  exact congrArg (·, _) name

omit alike accounts' in
theorem steps_alike_nil (ends : text = []) (fuel fuel' : Nat)
    (stopped : Stopped gap gap' crossed text text') :
    Alike Expr.barePath gap gap' crossed (steps pipeline fuel text)
      (steps pipeline' fuel' text') := by
  have ends' := (stopped.begun.nil_iff gaps).mp ends
  subst ends ends'
  rw [steps_nil _ _ .nil, steps_nil _ _ .nil]
  exact .ok rfl stopped

include accounts

/-- The steps of a path are read alike. -/
theorem steps_alike {fuel fuel' : Nat} (room : text.length ≤ fuel) (room' : text'.length ≤ fuel')
    (stopped : Stopped gap gap' crossed text text') :
    Alike Expr.barePath gap gap' crossed (steps pipeline fuel text)
      (steps pipeline' fuel' text') := by
  induction fuel generalizing text text' fuel' with
  | zero =>
      have ends := List.length_eq_zero_iff.mp (Nat.le_zero.mp room)
      exact steps_alike_nil gaps ends _ _ stopped
  | succ fuel ih =>
      cases fuel' with
      | zero =>
          have ends' := List.length_eq_zero_iff.mp (Nat.le_zero.mp room')
          exact steps_alike_nil gaps ((stopped.begun.nil_iff gaps).mpr ends') _ _ stopped
      | succ fuel' =>
          rw [steps_succ, steps_succ]
          have call := methodCall?_taken gaps stopped.begun
          have property := property?_taken gaps stopped.begun
          have bracket := exactly?_taken gaps (by decide : isSolid "[" = true) stopped.begun
          generalize methodCall? text = method at call ⊢
          generalize methodCall? text' = method' at call ⊢
          generalize named : property? text = name at property ⊢
          generalize named' : property? text' = name' at property ⊢
          generalize opened : exactly? "[".toList text = open_ at bracket ⊢
          generalize opened' : exactly? "[".toList text' = open' at bracket ⊢
          cases call with
          | some _ => exact .ok rfl stopped
          | none =>
              cases property with
              | @some step step' both =>
                  rcases step with ⟨step, afterName⟩
                  rcases step' with ⟨step', afterName'⟩
                  rcases both with ⟨same, stopped⟩
                  dsimp only at same stopped
                  subst same
                  have shorter := length_lt_of_leaves (property?_leaves named)
                  have shorter' := length_lt_of_leaves (property?_leaves named')
                  refine (ih (by omega) (by omega) stopped).bind fun _ _ same stopped => ?_
                  refine .ok ?_ stopped
                  rw [Expr.barePath, Expr.barePath, same]
              | none =>
                  cases bracket with
                  | none => exact .ok rfl stopped
                  | some stopped =>
                      refine (alike stopped.begun).bind fun readKey readKey' same stopped => ?_
                      refine .expect (symbol?_taken gaps (by decide) stopped.begun)
                        fun closed closed' stopped => ?_
                      have behind {rest afterIndex afterClosing text : List Char} {index : Expr}
                          {pipeline : Reader Expr} (whole : exactly? "[".toList text = some rest)
                          (accounts : Accounts Precedence.filter.rank pipeline)
                          (read : pipeline rest = .ok (index, afterIndex))
                          (closed : symbol? "]" afterIndex = some afterClosing) :
                          afterClosing.length < text.length := by
                        rw [exactly?_eq_some whole]
                        refine length_lt_of_leaves (Leaves.cons ?_ '[')
                        exact (item_leaves accounts read).1.trans
                          (symbol?_leaves (endsInInk_symbol rfl rfl) closed)
                      have shorter := behind opened accounts readKey closed
                      have shorter' := behind opened' accounts' readKey' closed'
                      refine (ih (by omega) (by omega) stopped).bind fun _ _ sames stopped => ?_
                      refine .ok ?_ stopped
                      rw [Expr.barePath, Expr.barePath, same, sames]

/-- What a name begins is read alike. -/
theorem named_alike (start start' : List Char) :
    ReadsAlike Expr.bare gap gap' crossed (named source pipeline start)
      (named source' pipeline' start') := by
  intro text text' begun
  rw [named, named]
  refine Alike.bind (.require (name?_taken gaps begun)) fun {name afterName name' afterName'}
    _ _ same stopped => ?_
  change name = name' at same
  subst same
  dsimp only
  by_cases isTrue : name = "true"
  · rw [if_pos isTrue, if_pos isTrue]
    exact .ok rfl stopped
  · rw [if_neg isTrue, if_neg isTrue]
    by_cases isFalse : name = "false"
    · rw [if_pos isFalse, if_pos isFalse]
      exact .ok rfl stopped
    · rw [if_neg isFalse, if_neg isFalse]
      by_cases isNull : name = "null"
      · rw [if_pos isNull, if_pos isNull]
        exact .ok rfl stopped
      · rw [if_neg isNull, if_neg isNull]
        have bracket := symbol?_taken gaps (by decide : isSolid "(" = true) stopped.begun
        generalize symbol? "(" afterName = open_ at bracket ⊢
        generalize symbol? "(" afterName' = open' at bracket ⊢
        cases bracket with
        | some stopped =>
            refine (arguments_alike gaps alike accounts' (by decide) stopped.begun).bind
              fun _ _ same stopped => ?_
            refine .ok ?_ stopped
            rw [Expr.bare, Expr.bare, same]
        | none =>
            refine (steps_alike gaps alike accounts accounts' (Nat.le_refl _) (Nat.le_refl _)
              stopped).bind fun _ _ same stopped => ?_
            refine .ok ?_ stopped
            rw [Expr.bare, Expr.bare, same]

/-- What begins with no bracket is read alike. -/
theorem other_alike {c : Char} {others others' : List Char}
    (begun : Begun gap gap' crossed (c :: others) (c :: others')) (ink : isBlank c = false)
    (noGrouping : c ≠ '(') (noArray : c ≠ '[') (noObject : c ≠ '\x7b') :
    Alike Expr.bare gap gap' crossed (primary source pipeline (c :: others))
      (primary source' pipeline' (c :: others')) := by
  rw [primary_other source pipeline ink noGrouping noArray noObject,
    primary_other source' pipeline' ink noGrouping noArray noObject]
  by_cases quote : isQuote c = true
  · rw [if_pos quote, if_pos quote]
    refine Alike.bind (.require (quoted?_taken gaps begun)) fun _ _ same stopped => ?_
    refine .ok ?_ stopped
    rw [Expr.bare, Expr.bare]
    exact congrArg _ (congrArg _ same)
  · rw [if_neg quote, if_neg quote]
    by_cases digit : c.isDigit = true
    · rw [if_pos digit, if_pos digit]
      refine Alike.bind (.require (number?_taken gaps begun)) fun _ _ same stopped => ?_
      refine .ok ?_ stopped
      rw [Expr.bare, Expr.bare]
      exact congrArg _ (congrArg _ same)
    · rw [if_neg digit, if_neg digit]
      exact named_alike gaps alike accounts accounts' _ _ begun

/-- Primary expressions are read alike. -/
theorem primary_alike :
    ReadsAlike Expr.bare gap gap' crossed (primary source pipeline)
      (primary source' pipeline') := by
  intro text text' begun
  rw [← primary_trimStart source, ← primary_trimStart source']
  have trimmed := begun.trimStart gaps
  have ink := stops_dropWhile isBlank text
  change Stops isBlank (trimStart text) at ink
  generalize trimStart text = start at trimmed ink ⊢
  generalize trimStart text' = start' at trimmed ⊢
  cases start with
  | nil => exact .error _
  | cons c inside =>
      rcases trimmed.head gaps ink.head with ⟨inside', rfl⟩
      have behind (plain : isQuote c = false) (noBar : c ≠ '|') :
          Begun gap gap' crossed inside inside' := by
        rcases trimmed.tail gaps ink.head plain noBar with ⟨_, same, stopped⟩
        cases same
        exact stopped.begun
      by_cases grouping : c = '('
      · subst grouping
        rw [primary_grouping, primary_grouping]
        refine (alike (behind rfl (by decide))).bind fun _ _ same stopped => ?_
        refine .expect (symbol?_taken gaps (by decide) stopped.begun) fun _ _ stopped => ?_
        refine .ok ?_ stopped
        rw [Expr.bare, Expr.bare, same]
      · by_cases array : c = '['
        · subst array
          rw [primary_array, primary_array]
          refine (arguments_alike gaps alike accounts' (by decide) (behind rfl (by decide))).bind
            fun _ _ same stopped => ?_
          refine .ok ?_ stopped
          rw [Expr.bare, Expr.bare, same]
        · by_cases object : c = '\x7b'
          · subst object
            rw [primary_object, primary_object]
            refine (separated_alike gaps (by decide) (entry_alike gaps alike)
              (fun read => (entry_leaves accounts' read).1) (Nat.lt_succ_self _)
              (behind rfl (by decide))).bind fun _ _ same stopped => ?_
            refine .ok ?_ stopped
            rw [Expr.bare, Expr.bare, bareEntries_eq_map, bareEntries_eq_map, same]
          · exact other_alike gaps alike accounts accounts' trimmed ink.head grouping array object

omit accounts in
/-- A filter is read alike behind its pipe. -/
theorem filterCall_alike :
    ReadsAlike bareFilter gap gap' crossed (filterCall source pipeline)
      (filterCall source' pipeline') := by
  intro text text' begun
  rw [filterCall, filterCall]
  refine Alike.bind (.require (name?_taken gaps (begun.trimStart gaps)))
    fun {name afterName name' afterName'} _ _ same stopped => ?_
  change name = name' at same
  subst same
  dsimp only
  have bracket := symbol?_taken gaps (by decide : isSolid "(" = true) stopped.begun
  generalize symbol? "(" afterName = open_ at bracket ⊢
  generalize symbol? "(" afterName' = open' at bracket ⊢
  cases bracket with
  | some stopped =>
      refine (arguments_alike gaps alike accounts' (by decide) stopped.begun).bind
        fun _ _ same stopped => ?_
      refine .ok ?_ stopped
      rw [bareFilter, bareFilter, same]
  | none => exact .ok rfl stopped

/-- Filters are read alike, for as long as there are pipes. -/
theorem filters_alike {fuel fuel' : Nat} (room : text.length ≤ fuel) (room' : text'.length ≤ fuel')
    (stopped : Stopped gap gap' crossed text text') :
    Alike Expr.bareFilters gap gap' crossed (filters source pipeline fuel text)
      (filters source' pipeline' fuel' text') := by
  induction fuel generalizing text text' fuel' with
  | zero =>
      have ends := List.length_eq_zero_iff.mp (Nat.le_zero.mp room)
      have ends' := (stopped.begun.nil_iff gaps).mp ends
      subst ends ends'
      rw [filters_of_noPipe source' pipeline' fuel' rfl]
      exact .ok rfl stopped
  | succ fuel ih =>
      have piped := pipe?_taken gaps stopped
      generalize bar : pipe? text = pipe at piped
      generalize bar' : pipe? text' = pipe' at piped
      cases piped with
      | none =>
          rw [filters_of_noPipe source pipeline _ bar, filters_of_noPipe source' pipeline' _ bar']
          exact .ok rfl stopped
      | some behind =>
          have leaves' := pipe?_leaves bar'
          have shorter := length_lt_of_leaves (pipe?_leaves bar)
          have shorter' := length_lt_of_leaves leaves'
          rcases Nat.exists_eq_add_one.mpr (Nat.lt_of_lt_of_le (Nat.zero_lt_of_lt shorter') room')
            with ⟨fuel', rfl⟩
          rw [filters, filters, bar, bar']
          refine (filterCall_alike gaps alike accounts' behind.begun).bind
            fun read read' same stopped => ?_
          have left := length_lt_of_leaves (filterCall_leaves accounts read).1
          have left' := length_lt_of_leaves (filterCall_leaves accounts' read').1
          refine (ih (by omega) (by omega) stopped).bind fun _ _ sames stopped => ?_
          refine .ok ?_ stopped
          rw [bareFilters_cons, bareFilters_cons, same, sames]

end Inside

end Parts

namespace Grammar

/-- That the readers of two grammars read alike. Chains and method calls go on from what has been
read so far. -/
structure Alike (gap gap' : List Char) (crossed : Prop) (grammar grammar' : Grammar) : Prop where
  accounts : grammar.Accounts
  accounts' : grammar'.Accounts
  pipeline : ReadsAlike Expr.bare gap gap' crossed grammar.pipeline grammar'.pipeline
  ternary : ReadsAlike Expr.bare gap gap' crossed grammar.ternary grammar'.ternary
  operand (levels : List Level) :
    ReadsAlike Expr.bare gap gap' crossed (grammar.operand levels) (grammar'.operand levels)
  chain (level : Level) (tighter : List Level) {start start' text text' : List Char}
    {left left' : Expr} (same : left.bare = left'.bare)
    (stopped : Stopped gap gap' crossed text text') :
    Parser.Alike Expr.bare gap gap' crossed (grammar.chain level tighter start left text)
      (grammar'.chain level tighter start' left' text')
  unary : ReadsAlike Expr.bare gap gap' crossed grammar.unary grammar'.unary
  methods {start start' text text' : List Char} {receiver receiver' : Expr}
    (same : receiver.bare = receiver'.bare) (stopped : Stopped gap gap' crossed text text') :
    Parser.Alike Expr.bare gap gap' crossed (grammar.methods start receiver text)
      (grammar'.methods start' receiver' text')

section Levels

variable (gaps : Gaps gap gap' crossed) {source source' : Source} {inner inner' : Option Grammar}
  (alike : Option.Rel (Grammar.Alike gap gap' crossed) inner inner')

/-- Readings that take a level go on alike. -/
theorem enter_alike {α β : Type} {bare : α → β} {text text' : List Char}
    {read read' : Grammar → Except Failure (α × List Char)}
    (alike : Option.Rel (Grammar.Alike gap gap' crossed) inner inner')
    (each : ∀ {grammar grammar'}, Grammar.Alike gap gap' crossed grammar grammar' →
      Parser.Alike bare gap gap' crossed (read grammar) (read' grammar')) :
    Parser.Alike bare gap gap' crossed (enter inner text read) (enter inner' text' read') := by
  cases alike with
  | none => exact .error _
  | some both => exact each both

theorem inner_accounts (alike : Option.Rel (Grammar.Alike gap gap' crossed) inner inner') :
    (∀ grammar ∈ inner, grammar.Accounts) ∧ ∀ grammar ∈ inner', grammar.Accounts := by
  cases alike with
  | none => exact ⟨fun _ member => (nomatch member), fun _ member => (nomatch member)⟩
  | some both =>
      refine ⟨fun _ member => ?_, fun _ member => ?_⟩
      · cases member
        exact both.accounts
      · cases member
        exact both.accounts'

include gaps alike

theorem readPipeline_alike :
    ReadsAlike Expr.bare gap gap' crossed (readPipeline source inner)
      (readPipeline source' inner') := by
  intro text text' begun
  refine enter_alike alike fun both => ?_
  refine (both.ternary (begun.trimStart gaps)).bind fun _ _ same stopped => ?_
  refine (filters_alike gaps both.pipeline both.accounts.pipeline both.accounts'.pipeline
    (Nat.le_refl _) (Nat.le_refl _) stopped).bind fun {calls _ calls' _} _ _ sames stopped => ?_
  have none : calls.isEmpty = calls'.isEmpty := by
    rw [← Expr.isEmpty_bareFilters calls, sames, Expr.isEmpty_bareFilters]
  dsimp only
  rw [← none]
  by_cases empty : calls.isEmpty = true
  · rw [if_pos empty, if_pos empty]
    exact .ok same stopped
  · rw [if_neg empty, if_neg empty]
    refine .ok ?_ stopped
    rw [Expr.bare, Expr.bare, same, sames]

theorem readMethods_alike {start start' text text' : List Char} {receiver receiver' : Expr}
    (same : receiver.bare = receiver'.bare) (stopped : Stopped gap gap' crossed text text') :
    Parser.Alike Expr.bare gap gap' crossed (readMethods source inner start receiver text)
      (readMethods source' inner' start' receiver' text') := by
  rw [readMethods, readMethods]
  have call := methodCall?_taken gaps stopped.begun
  generalize methodCall? text = method at call ⊢
  generalize methodCall? text' = method' at call ⊢
  cases call with
  | none => exact .ok same stopped
  | @some name name' both =>
      rcases name with ⟨name, afterBracket⟩
      rcases name' with ⟨name', afterBracket'⟩
      rcases both with ⟨rfl, stopped⟩
      refine enter_alike alike fun both => ?_
      refine (arguments_alike gaps both.pipeline both.accounts'.pipeline (by decide)
        stopped.begun).bind fun _ _ sames stopped => ?_
      refine both.methods ?_ stopped
      rw [Expr.bare, Expr.bare, Expr.bareAll, Expr.bareAll, same, sames]

theorem readUnary_alike :
    ReadsAlike Expr.bare gap gap' crossed (readUnary source inner) (readUnary source' inner') := by
  intro text text' begun
  rw [readUnary, readUnary]
  have trimmed := begun.trimStart gaps
  have sign := unaryOp?_taken gaps trimmed
  dsimp only
  generalize unaryOp? (trimStart text) = op at sign ⊢
  generalize unaryOp? (trimStart text') = op' at sign ⊢
  cases sign with
  | @some op op' both =>
      rcases op with ⟨op, afterOp⟩
      rcases op' with ⟨op', afterOp'⟩
      rcases both with ⟨rfl, stopped⟩
      refine enter_alike alike fun both => ?_
      refine (both.unary stopped.begun).bind fun _ _ same stopped => ?_
      refine .ok ?_ stopped
      rw [Expr.bare, Expr.bare, same]
  | none =>
      rcases inner_accounts alike with ⟨accounts, accounts'⟩
      refine (primary_alike gaps (readPipeline_alike gaps alike)
        (readPipeline_accounts accounts) (readPipeline_accounts accounts') trimmed).bind
          fun _ _ same stopped => ?_
      exact readMethods_alike gaps alike same stopped

theorem readChain_alike (level : Level) (tighter : List Level)
    {start start' text text' : List Char} {left left' : Expr} (same : left.bare = left'.bare)
    (stopped : Stopped gap gap' crossed text text') :
    Parser.Alike Expr.bare gap gap' crossed (readChain source inner level tighter start left text)
      (readChain source' inner' level tighter start' left' text') := by
  rw [readChain, readChain]
  have operator := operator?_taken gaps level stopped.begun
  generalize operator? level text = op at operator ⊢
  generalize operator? level text' = op' at operator ⊢
  cases operator with
  | none => exact .ok same stopped
  | @some op op' both =>
      rcases op with ⟨op, afterOp⟩
      rcases op' with ⟨op', afterOp'⟩
      rcases both with ⟨rfl, stopped⟩
      refine enter_alike alike fun both => ?_
      refine (both.operand tighter stopped.begun).bind fun _ _ same' stopped => ?_
      refine both.chain level tighter ?_ stopped
      rw [Expr.bare, Expr.bare, same, same']

theorem readOperand_alike (levels : List Level) :
    ReadsAlike Expr.bare gap gap' crossed (readOperand source inner levels)
      (readOperand source' inner' levels) := by
  induction levels with
  | nil => exact readUnary_alike gaps alike
  | cons level tighter ih =>
      intro text text' begun
      refine (ih (begun.trimStart gaps)).bind fun _ _ same stopped => ?_
      exact readChain_alike gaps alike level tighter same stopped

theorem readTernary_alike :
    ReadsAlike Expr.bare gap gap' crossed (readTernary source inner)
      (readTernary source' inner') := by
  intro text text' begun
  refine (readOperand_alike gaps alike Level.all (begun.trimStart gaps)).bind
    fun {condition afterCondition condition' afterCondition'} _ _ same stopped => ?_
  have mark := symbol?_taken gaps (by decide : isSolid "?" = true) stopped.begun
  dsimp only
  generalize symbol? "?" afterCondition = branches at mark ⊢
  generalize symbol? "?" afterCondition' = branches' at mark ⊢
  cases mark with
  | none => exact .ok same stopped
  | some stopped =>
      refine (readPipeline_alike gaps alike stopped.begun).bind fun _ _ then_ stopped => ?_
      refine .expect (symbol?_taken gaps (by decide) stopped.begun) fun _ _ stopped => ?_
      refine enter_alike alike fun both => ?_
      refine (both.ternary stopped.begun).bind fun _ _ else_ stopped => ?_
      refine .ok ?_ stopped
      rw [Expr.bare, Expr.bare, same, then_, else_]

theorem build_alike :
    Grammar.Alike gap gap' crossed (build source inner) (build source' inner') where
  accounts := build_accounts (inner_accounts alike).1
  accounts' := build_accounts (inner_accounts alike).2
  pipeline := readPipeline_alike gaps alike
  ternary := readTernary_alike gaps alike
  operand := readOperand_alike gaps alike
  chain := readChain_alike gaps alike
  unary := readUnary_alike gaps alike
  methods := readMethods_alike gaps alike

omit alike in
/-- All readers of two sources that differ in a gap read alike. -/
theorem ofLevels_alike (source source' : Source) (levels : Nat) :
    Grammar.Alike gap gap' crossed (ofLevels source levels) (ofLevels source' levels) := by
  induction levels with
  | zero => exact build_alike gaps .none
  | succ levels ih => exact build_alike gaps (.some ih)

end Levels

end Grammar

/-- That a text is an expression if something but white space is in it and nothing else is left
behind a whole expression. -/
theorem parse_eq_ok {origin : Position} {text : List Char} {expr : Expr} :
    parse origin text = .ok expr ↔ ∃ after, (Grammar.ofLevels (Source.ofText origin text)
      maxLevels).pipeline text = .ok (expr, after) ∧ trimStart after = [] := by
  refine ⟨pipeline_of_parse, ?_⟩
  rintro ⟨after, read, nothing⟩
  refine parse_of_pipeline ?_ read nothing
  rcases ((Grammar.ofLevels_accounts _ _).pipeline read).raw with ⟨taken, whole, ends, _⟩
  have ink := stops_dropWhile isBlank text
  change Stops isBlank (trimStart text) at ink
  cases begins : trimStart text with
  | nil =>
      rw [whole] at begins
      rcases ends with ⟨before, last, rfl, _⟩
      simp at begins
  | cons c rest =>
      rw [begins] at ink
      exact trim_isEmpty_of_begins begins ink.head

/-- A source that differs from an expression in a gap is the same expression if the gaps may be
crossed, and they are if the end of the source is reached. -/
theorem parse_alike (gaps : Gaps gap gap' crossed) {text text' : List Char} {origin : Position}
    {expr : Expr} (begun : Begun gap gap' crossed text text')
    (parses : parse origin text = .ok expr) (origin' : Position) :
    crossed ∧ ∃ expr', parse origin' text' = .ok expr' ∧ expr'.bare = expr.bare := by
  rcases parse_eq_ok.mp parses with ⟨rest, read, nothing⟩
  have alike := (Grammar.ofLevels_alike gaps (Source.ofText origin text)
    (Source.ofText origin' text') maxLevels).pipeline begun
  rw [read] at alike
  generalize again : (Grammar.ofLevels (Source.ofText origin' text') maxLevels).pipeline text' =
    read' at alike
  cases alike with
  | @ok _ expr' _ rest' same stopped =>
      have ends := stopped.begun.trimStart gaps
      rw [nothing] at ends
      refine ⟨?_, expr', parse_eq_ok.mpr ⟨rest', again, (ends.nil_iff gaps).mp rfl⟩, same.symm⟩
      rcases ends with ahead | ⟨open_ | bar, _⟩
      · rcases ahead.cases_front gaps with ⟨_, _, _, _, absurd, _⟩ | ⟨_, _, _, absurd, _⟩
        · cases absurd
        · cases absurd
      · exact open_
      · cases bar

section Runs

variable {before run run' after : List Char} {origin : Position} {expr : Expr}

/-- White space that separates words: one or more characters of it. -/
structure Separates (run : List Char) : Prop where
  blank : ∀ c ∈ run, isBlank c = true
  nonempty : run ≠ []

theorem Separates.cons (separates : Separates run) (after : List Char) :
    ∃ c rest, run ++ after = c :: rest ∧ isBlank c = true := by
  rcases run with _ | ⟨c, rest⟩
  · exact absurd rfl separates.nonempty
  · exact ⟨c, rest ++ after, rfl, separates.blank c List.mem_cons_self⟩

/-- A pipe behind white space is taken if all of the white space is plain. -/
theorem pipe?_run (blank : ∀ c ∈ run, isBlank c = true) (after : List Char) :
    pipe? (run ++ after) = if run.all isPlainSpace then pipe? after else none := by
  induction run with
  | nil => simp
  | cons c others ih =>
      rw [List.forall_mem_cons] at blank
      rw [List.cons_append]
      by_cases plain : isPlainSpace c = true
      · rw [pipe?_of_plain plain, ih blank.2]
        simp [plain]
      · have differs : c ≠ '|' := ne_of_inClass blank.1 rfl
        rw [pipe?_of_ne (Bool.not_eq_true _ ▸ plain) differs]
        simp [plain]

/-- In front of what is no white space only a lone bar is a pipe. -/
theorem pipe?_isSome (ink : Stops isBlank after) (found : (pipe? after).isSome = true) :
    LoneBar after := by
  cases after with
  | nil => cases found
  | cons c rest =>
      by_cases bar : c = '|'
      · subst bar
        cases rest with
        | nil => exact .intro stops_nil
        | cons second others =>
            by_cases double : second = '|'
            · subst double
              cases found
            · exact .intro (stops_cons (beq_eq_false_iff_ne.mpr double))
      · rw [pipe?_of_ne (not_plainSpace_of_not_blank ink.head) bar] at found
        cases found

/-- Gaps that nothing tells apart. -/
theorem gaps_alike (given : Separates run) (placed : Separates run')
    (pipes : pipe? (run ++ after) = pipe? (run' ++ after)) :
    Gaps (run ++ after) (run' ++ after) True where
  blank := given.cons after
  blank' := placed.cons after
  behind := by rw [trimStart_append given.blank, trimStart_append placed.blank]
  pipes := pipes
  barred closed := absurd trivial closed

/-- A gap that keeps readers from the pipe behind it. -/
theorem gaps_barred (given : Separates run) (ink : Stops isBlank after) (bar : LoneBar after)
    (barred : ¬∀ c ∈ run, isPlainSpace c = true) : Gaps (run ++ after) (run ++ after) False where
  blank := given.cons after
  blank' := given.cons after
  behind := rfl
  pipes := rfl
  barred _ := by
    have special : ¬run.all isPlainSpace = true := fun plain => barred (List.all_eq_true.mp plain)
    rw [trimStart_append given.blank, pipe?_run given.blank, if_neg special, trimStart,
      ink.dropWhile_eq_self]
    exact ⟨bar, rfl⟩

/-- In front of the pipe of a filter there is nothing but plain white space. -/
theorem plain_of_parse (outside : Unquoted before) (given : Separates run)
    (ink : Stops isBlank after) (bar : LoneBar after)
    (parses : parse origin (before ++ (run ++ after)) = .ok expr) :
    ∀ c ∈ run, isPlainSpace c = true := by
  by_cases plain : ∀ c ∈ run, isPlainSpace c = true
  · exact plain
  · have gaps := gaps_barred given ink bar plain
    exact (parse_alike gaps (.inl (.intro before outside)) parses origin).1.elim

/-- Another gap in front of the same pipe, or in front of anything else. -/
theorem parse_respaced (outside : Unquoted before) (given : Separates run) (placed : Separates run')
    (ink : Stops isBlank after) (parses : parse origin (before ++ (run ++ after)) = .ok expr)
    (plain : LoneBar after → ∀ c ∈ run', isPlainSpace c = true) (origin' : Position) :
    ∃ expr', parse origin' (before ++ (run' ++ after)) = .ok expr' ∧ expr'.bare = expr.bare := by
  have pipes : pipe? (run ++ after) = pipe? (run' ++ after) := by
    rw [pipe?_run given.blank, pipe?_run placed.blank]
    by_cases bar : LoneBar after
    · have plainRun := plain_of_parse outside given ink bar parses
      rw [if_pos (List.all_eq_true.mpr plainRun), if_pos (List.all_eq_true.mpr (plain bar))]
    · have none : pipe? after = none := by
        rw [← Option.not_isSome_iff_eq_none]
        exact fun found => bar (pipe?_isSome ink found)
      rw [none, ite_self, ite_self]
  have gaps := gaps_alike given placed pipes
  exact (parse_alike gaps (.inl (.intro before outside)) parses origin').2

end Runs

end Expr.Parser

open Expr.Parser Lexeme

section Runs

variable {before run run' after : String} {origin : Position} {expr : Expr}

/-- All white space between the words of an expression is alike, but for that in front of the pipe
of a filter. Where a run of white space stands outside of all quoted texts of a source, another run
in its place gives the same expression, up to places; only in front of the pipe of a filter nothing
but plain white space may stand, and any other leaves a source that is no expression. -/
theorem parseExpression_respaced (outside : Unquoted before.toList)
    (given : Separates run.toList) (placed : Separates run'.toList)
    (ends : Stops isBlank after.toList)
    (parses : parseExpression (before ++ (run ++ after)) origin = .ok expr) (origin' : Position) :
    ((LoneBar after.toList → ∀ c ∈ run'.toList, isPlainSpace c = true) →
      ∃ expr', parseExpression (before ++ (run' ++ after)) origin' = .ok expr' ∧
        expr'.bare = expr.bare) ∧
    (LoneBar after.toList → (∃ c ∈ run'.toList, isPlainSpace c = false) →
      ∃ problem, parseExpression (before ++ (run' ++ after)) origin' = .error problem) := by
  simp only [parseExpression, String.toList_append] at parses ⊢
  refine ⟨fun plain => parse_respaced outside given placed ends parses plain origin', ?_⟩
  rintro bar ⟨c, member, special⟩
  cases read : Expr.Parser.parse origin' (before.toList ++ (run'.toList ++ after.toList)) with
  | error problem => exact ⟨problem, rfl⟩
  | ok expr' =>
      have plain := plain_of_parse outside placed ends bar read c member
      rw [special] at plain
      cases plain

end Runs

/-- A sum behind a no-break space and a form feed is the sum behind a space. -/
theorem parseExpression_respaced_sum : ∃ expr expr',
    parseExpression ("a" ++ (" " ++ "+ b")) Position.start = .ok expr ∧
      parseExpression ("a" ++ ("\u00a0\u000c" ++ "+ b")) Position.start = .ok expr' ∧
        expr'.bare = expr.bare := by
  have accepted : (parseExpression ("a" ++ (" " ++ "+ b")) Position.start).isOk = true := by
    decide +kernel
  cases read : parseExpression ("a" ++ (" " ++ "+ b")) Position.start with
  | error problem =>
      rw [read] at accepted
      cases accepted
  | ok expr =>
      have given : Separates " ".toList := ⟨List.all_eq_true.mp (by decide), by decide⟩
      have placed : Separates "\u00a0\u000c".toList :=
        ⟨List.all_eq_true.mp (by decide), by decide⟩
      have outside : Unquoted "a".toList := by decide
      rcases (parseExpression_respaced outside given placed (stops_cons rfl) read
        Position.start).1 (fun bar => nomatch bar) with ⟨expr', respaced, same⟩
      exact ⟨expr, expr', rfl, respaced, same⟩

/-- A filter behind a space is read, and behind a no-break space it is not. -/
theorem filter_unread_behind_special_space :
    (parseExpression "a | upper" Position.start).isOk = true ∧
      (parseExpression "a\u00a0| upper" Position.start).isOk = false := by
  decide +kernel

end Stencil
