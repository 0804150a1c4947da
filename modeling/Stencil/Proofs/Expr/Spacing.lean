import Stencil.Proofs.Expr.Follow
import Stencil.Proofs.Expr.Words
/-!
# Sources that differ in a gap

Two sources of an expression are the same up to a gap of white space, which is another one in each,
and the same behind it. Readers of words come to the gap in both or in neither, and behind it in
both or in neither: they tell the sources apart only where a bar follows that is the pipe of a
filter, because few characters may stand in front of that.

`Gaps` says of two gaps that not even the pipe tells them apart. It does so also where both keep
every reader from getting past them, which is how a gap is seen to be the end of what can be read.
-/

namespace Stencil

open Text

namespace Lexeme

/-- The quote that is open behind a text, if the given one is open in front of it. A character
behind a backslash closes nothing. -/
def openQuote? : Option Char → List Char → Option Char
  | quote?, [] => quote?
  | none, c :: rest => if isQuote c then openQuote? (some c) rest else openQuote? none rest
  | some quote, c :: rest =>
    if c = '\\' then
      match rest with
      | [] => some quote
      | _ :: after => openQuote? (some quote) after
    else if c = quote then openQuote? none rest
    else openQuote? (some quote) rest

/-- That no quote is open behind a text. -/
def Unquoted (text : List Char) : Prop := openQuote? none text = none

instance (text : List Char) : Decidable (Unquoted text) :=
  inferInstanceAs (Decidable (openQuote? none text = none))

/-- A bar at the front of a text with no other behind it, as the pipe of a filter is. -/
inductive LoneBar : List Char → Prop where
  | intro {rest : List Char} (single : Stops (· == '|') rest) : LoneBar ('|' :: rest)

variable {text text' rest : List Char} {c : Char}

theorem unquoted_cons (plain : isQuote c = false) : Unquoted (c :: rest) ↔ Unquoted rest := by
  rw [Unquoted, openQuote?, plain, if_neg Bool.false_ne_true, Unquoted]

/-- White space is no quote. -/
theorem not_quote_of_blank (blank : isBlank c = true) : isQuote c = false := by
  rw [Bool.eq_false_iff]
  intro quote
  simp only [isQuote, Bool.or_eq_true, beq_iff_eq] at quote
  rcases quote with rfl | rfl
  · exact absurd blank (by decide)
  · exact absurd blank (by decide)

/-- Two gaps of white space, each with what is behind it in a source. Readers go on behind both in
the same way if they may be crossed; otherwise a bar keeps readers from getting past either. -/
structure Gaps (gap gap' : List Char) (crossed : Prop) : Prop where
  blank : ∃ c rest, gap = c :: rest ∧ isBlank c = true
  blank' : ∃ c rest, gap' = c :: rest ∧ isBlank c = true
  behind : trimStart gap = trimStart gap'
  pipes : pipe? gap = pipe? gap'
  barred : ¬crossed → LoneBar (trimStart gap) ∧ pipe? gap = none

/-- Rests of the two sources in front of the gaps. -/
inductive Ahead (gap gap' : List Char) : List Char → List Char → Prop where
  | intro (front : List Char) (outside : Unquoted front) :
    Ahead gap gap' (front ++ gap) (front ++ gap')

/-- Rests of the two sources at which readers may stop. -/
def Stopped (gap gap' : List Char) (crossed : Prop) (text text' : List Char) : Prop :=
  Ahead gap gap' text text' ∨ crossed ∧ text = text'

/-- Rests of the two sources at which readers may begin. -/
def Begun (gap gap' : List Char) (crossed : Prop) (text text' : List Char) : Prop :=
  Ahead gap gap' text text' ∨ (crossed ∨ LoneBar text) ∧ text = text'

/-- What two readers of words took, if they took the same. -/
abbrev Taken {α : Type} (gap gap' : List Char) (crossed : Prop) :
    Option (α × List Char) → Option (α × List Char) → Prop :=
  Option.Rel fun read read' => read.1 = read'.1 ∧ Stopped gap gap' crossed read.2 read'.2

/-- Readers that go on alike behind something optional. -/
theorem rel_bind {α α' β β' : Type} {before : α → α' → Prop} {after : β → β' → Prop}
    {read : Option α} {read' : Option α'} {next : α → Option β} {next' : α' → Option β'}
    (first : Option.Rel before read read')
    (later : ∀ {value value'}, before value value' → Option.Rel after (next value) (next' value')) :
    Option.Rel after (read.bind next) (read'.bind next') := by
  cases first with
  | some related => exact later related
  | none => exact .none

variable {gap gap' : List Char} {crossed : Prop}

theorem Stopped.begun (stopped : Stopped gap gap' crossed text text') :
    Begun gap gap' crossed text text' :=
  stopped.imp_right fun ⟨past, same⟩ => ⟨.inl past, same⟩

section Gaps

variable (gaps : Gaps gap gap' crossed)

include gaps

/-- A class without white space stops at a gap. -/
theorem Gaps.stops {inClass : Char → Bool} (ink : ∀ c, inClass c = true → isBlank c = false) :
    Stops inClass gap ∧ Stops inClass gap' := by
  have outside {c : Char} (blank : isBlank c = true) : inClass c = false := by
    rw [Bool.eq_false_iff]
    intro inside
    rw [ink c inside] at blank
    cases blank
  rcases gaps.blank with ⟨c, rest, rfl, blank⟩
  rcases gaps.blank' with ⟨c', rest', rfl, blank'⟩
  exact ⟨stops_cons (outside blank), stops_cons (outside blank')⟩

/-- A character that is no white space, no quote and no bar stands in both sources. -/
theorem Begun.tail (begun : Begun gap gap' crossed (c :: text) text') (ink : isBlank c = false)
    (plain : isQuote c = false) (noBar : c ≠ '|') :
    ∃ rest', text' = c :: rest' ∧ Stopped gap gap' crossed text rest' := by
  rcases begun with ahead | ⟨past, rfl⟩
  · generalize whole : c :: text = here at ahead
    cases ahead with
    | intro front outside =>
        cases front with
        | nil =>
            rcases gaps.blank with ⟨first, rest, begins, blank⟩
            rw [List.nil_append, begins] at whole
            cases whole
            rw [ink] at blank
            cases blank
        | cons first others =>
            cases whole
            exact ⟨_, rfl, .inl (.intro others ((unquoted_cons plain).mp outside))⟩
  · rcases past with crossed | bar
    · exact ⟨text, rfl, .inr ⟨crossed, rfl⟩⟩
    · cases bar
      exact absurd rfl noBar

omit gaps in
/-- What two readers of words take, if neither takes a lone bar. -/
theorem Begun.taken {α : Type} {word? : List Char → Option (α × List Char)}
    (begun : Begun gap gap' crossed text text')
    (ahead : Ahead gap gap' text text' → Taken gap gap' crossed (word? text) (word? text'))
    (bar : LoneBar text → word? text = none) :
    Taken gap gap' crossed (word? text) (word? text') := by
  rcases begun with here | ⟨crossed | barred, rfl⟩
  · exact ahead here
  · rcases word? text with _ | ⟨value, rest⟩
    · exact .none
    · exact .some ⟨rfl, .inr ⟨crossed, rfl⟩⟩
  · rw [bar barred]
    exact .none

/-- White space in front of a word is skipped, and the gap with it if the word is behind it. -/
theorem Begun.trimStart (begun : Begun gap gap' crossed text text') :
    Begun gap gap' crossed (trimStart text) (trimStart text') := by
  rcases begun with ahead | ⟨past, rfl⟩
  · cases ahead with
    | intro front outside =>
        induction front with
        | nil =>
            refine .inr ⟨?_, gaps.behind⟩
            by_cases open_ : crossed
            · exact .inl open_
            · exact .inr (gaps.barred open_).1
        | cons c others ih =>
            by_cases blank : isBlank c = true
            · have later := ih ((unquoted_cons (not_quote_of_blank blank)).mp outside)
              simpa [Text.trimStart, blank] using later
            · rw [Bool.not_eq_true] at blank
              rw [List.cons_append, List.cons_append, trimStart_cons blank, trimStart_cons blank]
              exact .inl (.intro (c :: others) outside)
  · refine .inr ⟨past.imp_right fun bar => ?_, rfl⟩
    cases bar with
    | intro single => exact .intro single

/-- A run of a class without white space and quotes ends in front of the gaps. -/
theorem Ahead.run {inClass : Char → Bool} (ink : ∀ c, inClass c = true → isBlank c = false)
    (plain : ∀ c, inClass c = true → isQuote c = false) (ahead : Ahead gap gap' text text') :
    text.takeWhile inClass = text'.takeWhile inClass ∧
      Ahead gap gap' (text.dropWhile inClass) (text'.dropWhile inClass) := by
  rcases gaps.stops ink with ⟨stops, stops'⟩
  cases ahead with
  | intro front outside =>
      induction front with
      | nil =>
          rw [List.nil_append, List.nil_append, stops.takeWhile_eq_nil, stops'.takeWhile_eq_nil,
            stops.dropWhile_eq_self, stops'.dropWhile_eq_self]
          exact ⟨rfl, .intro [] outside⟩
      | cons c others ih =>
          by_cases inside : inClass c = true
          · rcases ih ((unquoted_cons (plain c inside)).mp outside) with ⟨same, later⟩
            simp [inside, same, later]
          · rw [Bool.not_eq_true] at inside
            simp only [List.cons_append, List.takeWhile_cons, List.dropWhile_cons, inside]
            exact ⟨rfl, .intro (c :: others) outside⟩

end Gaps

section Words

variable (gaps : Gaps gap gap' crossed)

include gaps

theorem exactly?_ahead {expected : List Char}
    (solid : ∀ c ∈ expected, isBlank c = false ∧ isQuote c = false)
    (ahead : Ahead gap gap' text text') :
    Option.Rel (Ahead gap gap') (exactly? expected text) (exactly? expected text') := by
  induction expected generalizing text text' with
  | nil => exact .some ahead
  | cons e others ih =>
      rw [List.forall_mem_cons] at solid
      cases ahead with
      | intro front outside =>
          cases front with
          | nil =>
              have ink : ∀ c, (c == e) = true → isBlank c = false := by
                intro c same
                rw [eq_of_beq same]
                exact solid.1.1
              rcases gaps.stops ink with ⟨stops, stops'⟩
              rcases gaps.blank with ⟨c, rest, rfl, _⟩
              rcases gaps.blank' with ⟨c', rest', rfl, _⟩
              have differs : ¬e = c := fun same => by simpa [same] using stops.head
              have differs' : ¬e = c' := fun same => by simpa [same] using stops'.head
              rw [List.nil_append, List.nil_append, exactly?, exactly?, if_neg differs,
                if_neg differs']
              exact .none
          | cons c more =>
              rw [List.cons_append, List.cons_append, exactly?, exactly?]
              by_cases same : e = c
              · rw [if_pos same, if_pos same]
                rw [same] at solid
                exact ih solid.2 (.intro more ((unquoted_cons solid.1.2).mp outside))
              · rw [if_neg same, if_neg same]
                exact .none

/-- Whether a symbol has neither white space nor quotes, and is no pipe. -/
def isSolid (symbol : String) : Bool :=
  symbol.toList.all (fun c => !isBlank c && !isQuote c) &&
    match symbol.toList with
    | [] => false
    | '|' :: others => others.head? == some '|'
    | _ => true

omit gaps in
/-- A lone bar is no other symbol. -/
theorem exactly?_of_loneBar {symbol : String} (solid : isSolid symbol = true)
    (bar : LoneBar text) : exactly? symbol.toList text = none := by
  cases bar with
  | @intro rest single =>
      simp only [isSolid, Bool.and_eq_true] at solid
      have shape := solid.2
      split at shape
      · cases shape
      · rename_i others whole
        rw [whole, exactly?, if_pos rfl]
        rcases others with _ | ⟨second, more⟩
        · cases shape
        · rw [List.head?_cons, beq_iff_eq, Option.some.injEq] at shape
          subst shape
          rcases rest with _ | ⟨c, later⟩
          · rfl
          · have differs : ¬ '|' = c := fun same => by simpa [← same] using single.head
            rw [exactly?, if_neg differs]
      · rename_i notEmpty notBar
        rcases whole : symbol.toList with _ | ⟨first, more⟩
        · exact absurd whole notEmpty
        · have differs : ¬first = '|' := fun same => notBar more (by rw [whole, same])
          rw [exactly?, if_neg differs]

/-- The characters of a symbol are taken from both sources or from neither. -/
theorem exactly?_taken {symbol : String} (solid : isSolid symbol = true)
    (begun : Begun gap gap' crossed text text') :
    Option.Rel (Stopped gap gap' crossed) (exactly? symbol.toList text)
      (exactly? symbol.toList text') := by
  rcases begun with ahead | ⟨past, rfl⟩
  · have plain : ∀ c ∈ symbol.toList, isBlank c = false ∧ isQuote c = false := by
      simp only [isSolid, Bool.and_eq_true, List.all_eq_true] at solid
      simpa using solid.1
    have taken := exactly?_ahead gaps plain ahead
    generalize exactly? symbol.toList text = read at taken ⊢
    generalize exactly? symbol.toList text' = read' at taken ⊢
    cases taken with
    | some ahead => exact .some (.inl ahead)
    | none => exact .none
  · rcases past with open_ | bar
    · rcases exactly? symbol.toList text with _ | rest
      · exact .none
      · exact .some (.inr ⟨open_, rfl⟩)
    · rw [exactly?_of_loneBar solid bar]
      exact .none

/-- A symbol is taken from both sources or from neither. -/
theorem symbol?_taken {symbol : String} (solid : isSolid symbol = true)
    (begun : Begun gap gap' crossed text text') :
    Option.Rel (Stopped gap gap' crossed) (symbol? symbol text) (symbol? symbol text') :=
  exactly?_taken gaps solid (begun.trimStart gaps)

omit gaps in
theorem not_quote_of_continuesName (continues : continuesName c = true) : isQuote c = false := by
  rw [Bool.eq_false_iff]
  intro quote
  simp only [isQuote, Bool.or_eq_true, beq_iff_eq] at quote
  rcases quote with rfl | rfl
  · exact absurd continues (by decide)
  · exact absurd continues (by decide)

/-- A name is taken from both sources or from neither. -/
theorem name?_taken (begun : Begun gap gap' crossed text text') :
    Taken gap gap' crossed (name? text) (name? text') := by
  refine begun.taken (fun ahead => ?_) fun bar => ?_
  · cases ahead with
    | intro front outside =>
        cases front with
        | nil =>
            have ink : ∀ c, beginsName c = true → isBlank c = false := fun _ begins =>
              not_blank_of_continuesName (continuesName_of_beginsName begins)
            rcases gaps.stops ink with ⟨stops, stops'⟩
            rcases gaps.blank with ⟨c, rest, rfl, _⟩
            rcases gaps.blank' with ⟨c', rest', rfl, _⟩
            rw [List.nil_append, List.nil_append, name?, name?, if_neg (by simp [stops.head]),
              if_neg (by simp [stops'.head])]
            exact .none
        | cons c more =>
            rw [List.cons_append, List.cons_append, name?, name?]
            by_cases begins : beginsName c = true
            · have plain := not_quote_of_continuesName (continuesName_of_beginsName begins)
              have later : Ahead gap gap' (more ++ gap) (more ++ gap') :=
                .intro more ((unquoted_cons plain).mp outside)
              rcases later.run gaps (fun _ => not_blank_of_continuesName)
                (fun _ => not_quote_of_continuesName) with ⟨same, behind⟩
              rw [if_pos begins, if_pos begins, same]
              exact .some ⟨rfl, .inl behind⟩
            · rw [if_neg begins, if_neg begins]
              exact .none
  · cases bar
    rfl

omit gaps in
theorem not_quote_of_isDigit (digit : c.isDigit = true) : isQuote c = false := by
  apply not_quote_of_continuesName
  apply continuesName_of_ascii
  simp [Char.isAlphanum, digit]

theorem Ahead.digits (ahead : Ahead gap gap' text text') :
    (Number.splitDigits text).1 = (Number.splitDigits text').1 ∧
      Ahead gap gap' (Number.splitDigits text).2 (Number.splitDigits text').2 :=
  ahead.run gaps (fun _ => not_blank_of_isDigit) fun _ => not_quote_of_isDigit

/-- In front of the gaps both sources have the same character, or the gaps begin. -/
theorem Ahead.cases_front (ahead : Ahead gap gap' text text') :
    (∃ c c' rest rest', text = c :: rest ∧ text' = c' :: rest' ∧ isBlank c = true ∧
      isBlank c' = true) ∨
    ∃ c rest rest', text = c :: rest ∧ text' = c :: rest' ∧
      (isQuote c = false → Ahead gap gap' rest rest') := by
  cases ahead with
  | intro front outside =>
      cases front with
      | nil =>
          rcases gaps.blank with ⟨c, rest, rfl, blank⟩
          rcases gaps.blank' with ⟨c', rest', rfl, blank'⟩
          exact .inl ⟨c, c', rest, rest', rfl, rfl, blank, blank'⟩
      | cons c more =>
          refine .inr ⟨c, more ++ gap, more ++ gap', rfl, rfl, fun plain => ?_⟩
          exact .intro more ((unquoted_cons plain).mp outside)

/-- The sources end in the same place. -/
theorem Begun.nil_iff (begun : Begun gap gap' crossed text text') : text = [] ↔ text' = [] := by
  rcases begun with ahead | ⟨_, rfl⟩
  · rcases gaps.blank with ⟨c, rest, rfl, _⟩
    rcases gaps.blank' with ⟨c', rest', rfl, _⟩
    cases ahead
    simp
  · rfl

/-- A character that is no white space stands in both sources. -/
theorem Begun.head {c : Char} (begun : Begun gap gap' crossed (c :: text) text')
    (ink : isBlank c = false) : ∃ rest', text' = c :: rest' := by
  rcases begun with ahead | ⟨_, rfl⟩
  · rcases ahead.cases_front gaps with
      ⟨first, _, rest, _, whole, _, blank, _⟩ | ⟨first, rest, rest', whole, whole', _⟩
    · cases whole
      rw [ink] at blank
      cases blank
    · cases whole
      exact ⟨rest', whole'⟩
  · exact ⟨text, rfl⟩

omit gaps in
theorem afterFraction_of_ne (differs : c ≠ '.') : afterFraction (c :: rest) = c :: rest := by
  unfold afterFraction
  split
  · rename_i same
    cases same
    exact absurd rfl differs
  · rfl

theorem Ahead.afterFraction (ahead : Ahead gap gap' text text') :
    Ahead gap gap' (Lexeme.afterFraction text) (Lexeme.afterFraction text') := by
  have whole := ahead
  rcases ahead.cases_front gaps with
    ⟨c, c', rest, rest', rfl, rfl, blank, blank'⟩ | ⟨c, rest, rest', rfl, rfl, behind⟩
  · have differs : c ≠ '.' := ne_of_inClass blank rfl
    have differs' : c' ≠ '.' := ne_of_inClass blank' rfl
    rwa [afterFraction_of_ne differs, afterFraction_of_ne differs']
  · by_cases point : c = '.'
    · subst point
      rcases (behind rfl).digits gaps with ⟨same, later⟩
      simp only [Lexeme.afterFraction]
      generalize Number.splitDigits rest = split at same later ⊢
      generalize Number.splitDigits rest' = split' at same later ⊢
      rcases split with ⟨digits, after⟩
      rcases split' with ⟨digits', after'⟩
      dsimp only at same later ⊢
      subst same
      cases digits with
      | nil => exact whole
      | cons _ _ => exact later
    · rwa [afterFraction_of_ne point, afterFraction_of_ne point]

theorem Ahead.behindSign (ahead : Ahead gap gap' text text') :
    Ahead gap gap' (Number.splitSign text).2 (Number.splitSign text').2 := by
  have unsigned {c : Char} {rest : List Char} (minus : c ≠ '-') (plus : c ≠ '+') :
      (Number.splitSign (c :: rest)).2 = c :: rest := by
    unfold Number.splitSign
    split
    · rename_i same
      cases same
      exact absurd rfl minus
    · rename_i same
      cases same
      exact absurd rfl plus
    · rfl
  have whole := ahead
  rcases ahead.cases_front gaps with
    ⟨c, c', rest, rest', rfl, rfl, blank, blank'⟩ | ⟨c, rest, rest', rfl, rfl, behind⟩
  · rwa [unsigned (ne_of_inClass blank rfl) (ne_of_inClass blank rfl),
      unsigned (ne_of_inClass blank' rfl) (ne_of_inClass blank' rfl)]
  · by_cases minus : c = '-'
    · subst minus
      exact behind rfl
    · by_cases plus : c = '+'
      · subst plus
        exact behind rfl
      · rwa [unsigned minus plus, unsigned minus plus]

theorem Ahead.afterExponent (ahead : Ahead gap gap' text text') :
    Ahead gap gap' (Lexeme.afterExponent text) (Lexeme.afterExponent text') := by
  have whole := ahead
  rcases ahead.cases_front gaps with
    ⟨c, c', rest, rest', rfl, rfl, blank, blank'⟩ | ⟨c, rest, rest', rfl, rfl, behind⟩
  · have none {c : Char} (blank : isBlank c = true) : ¬(c = 'e' ∨ c = 'E') := by
      rintro (rfl | rfl)
      · exact absurd blank (by decide)
      · exact absurd blank (by decide)
    rw [Lexeme.afterExponent, Lexeme.afterExponent, if_neg (none blank), if_neg (none blank')]
    exact whole
  · rw [Lexeme.afterExponent, Lexeme.afterExponent]
    by_cases mark : c = 'e' ∨ c = 'E'
    · have plain : isQuote c = false := by
        rcases mark with rfl | rfl <;> rfl
      rw [if_pos mark, if_pos mark]
      rcases ((behind plain).behindSign gaps).digits gaps with ⟨same, later⟩
      generalize Number.splitDigits (Number.splitSign rest).2 = split at same later ⊢
      generalize Number.splitDigits (Number.splitSign rest').2 = split' at same later ⊢
      rcases split with ⟨digits, after⟩
      rcases split' with ⟨digits', after'⟩
      dsimp only at same later ⊢
      subst same
      cases digits with
      | nil => exact whole
      | cons _ _ => exact later
    · rw [if_neg mark, if_neg mark]
      exact whole

omit gaps in
/-- What is left behind a number is a rest of the text. -/
theorem exists_numeral (text : List Char) :
    ∃ taken, text =
      taken ++ Lexeme.afterExponent (Lexeme.afterFraction (Number.splitDigits text).2) := by
  have digits : text = (Number.splitDigits text).1 ++ (Number.splitDigits text).2 :=
    List.takeWhile_append_dropWhile.symm
  have suffix {text rest : List Char} (taken : rest = text ∨ Leaves text rest) :
      ∃ run, text = run ++ rest := by
    rcases taken with rfl | ⟨run, whole, _⟩
    · exact ⟨[], rfl⟩
    · exact ⟨run, whole⟩
  rcases suffix (afterFraction_leaves (Number.splitDigits text).2) with ⟨fraction, point⟩
  rcases suffix (afterExponent_leaves (Lexeme.afterFraction (Number.splitDigits text).2)) with
    ⟨exponent, mark⟩
  refine ⟨(Number.splitDigits text).1 ++ (fraction ++ exponent), ?_⟩
  rw [List.append_assoc, List.append_assoc, ← mark, ← point, ← digits]

omit gaps in
/-- What is taken from in front of the gaps is the same in both sources. -/
theorem Ahead.taken_eq {taken taken' rest rest' : List Char}
    (whole : Ahead gap gap' (taken ++ rest) (taken' ++ rest')) (left : Ahead gap gap' rest rest') :
    taken = taken' := by
  generalize first : taken ++ rest = text at whole
  generalize second : taken' ++ rest' = text' at whole
  cases whole with
  | intro front _ =>
      cases left with
      | intro behind _ =>
          rw [← List.append_assoc] at first second
          have here := List.append_cancel_right first
          have there := List.append_cancel_right second
          exact List.append_cancel_right (here.trans there.symm)

/-- A number is taken from both sources or from neither. -/
theorem number?_taken (begun : Begun gap gap' crossed text text') :
    Taken gap gap' crossed (number? text) (number? text') := by
  refine begun.taken (fun ahead => ?_) fun bar => ?_
  · rcases ahead.digits gaps with ⟨same, behind⟩
    have left := (behind.afterFraction gaps).afterExponent gaps
    rcases exists_numeral text with ⟨taken, whole⟩
    rcases exists_numeral text' with ⟨taken', whole'⟩
    have numerals : taken = taken' := by
      rw [whole, whole'] at ahead
      exact ahead.taken_eq left
    unfold number?
    generalize Number.splitDigits text = split at same left whole ⊢
    generalize Number.splitDigits text' = split' at same left whole' ⊢
    rcases split with ⟨digits, after⟩
    rcases split' with ⟨digits', after'⟩
    dsimp only at same left whole whole' ⊢
    subst same numerals
    cases digits with
    | nil => exact .none
    | cons first others =>
        have piece {text rest : List Char} (whole : text = taken ++ rest) :
            text.take (text.length - rest.length) = taken := by
          rw [whole, List.length_append, Nat.add_sub_cancel, List.take_left]
        dsimp only
        rw [piece whole, piece whole']
        rcases Number.readUnsigned? taken with _ | x
        · exact .none
        · exact .some ⟨rfl, .inl left⟩
  · cases bar
    rfl

omit gaps in
/-- Inside of a quoted text, a character that escapes nothing may close it. -/
theorem openQuote?_inside {quote : Char} (escape : c ≠ '\\') :
    openQuote? (some quote) (c :: rest) =
      if c = quote then openQuote? none rest else openQuote? (some quote) rest := by
  rw [openQuote?.eq_def]
  exact if_neg escape

omit gaps in
theorem quotedRest?_inside {quote : Char} (escape : c ≠ '\\') :
    quotedRest? quote (c :: rest) =
      if c = quote then some ([], rest)
      else (quotedRest? quote rest).map fun (s, left) => (c :: s, left) := by
  rw [quotedRest?.eq_def]
  exact if_neg escape

omit gaps in
/-- A quoted text that is closed in front of the gaps is read in both sources. -/
theorem quotedRest?_ahead (gap gap' : List Char) {quote : Char} (front : List Char)
    (outside : openQuote? (some quote) front = none) : ∃ content rest,
      Unquoted rest ∧ quotedRest? quote (front ++ gap) = some (content, rest ++ gap) ∧
        quotedRest? quote (front ++ gap') = some (content, rest ++ gap') := by
  fun_induction quotedRest? quote front with
  | case1 => cases outside
  | case2 => cases outside
  | case3 e after ih =>
      rw [openQuote?, if_pos rfl] at outside
      rcases ih outside with ⟨content, rest, unquoted, read, read'⟩
      refine ⟨unescaped e :: content, rest, unquoted, ?_, ?_⟩
      · simp [quotedRest?, read]
      · simp [quotedRest?, read']
  | case4 rest escape =>
      rw [openQuote?_inside escape, if_pos rfl] at outside
      refine ⟨[], rest, outside, ?_, ?_⟩
      · rw [List.cons_append, quotedRest?_inside escape, if_pos rfl]
      · rw [List.cons_append, quotedRest?_inside escape, if_pos rfl]
  | case5 c rest escape differs ih =>
      rw [openQuote?_inside escape, if_neg differs] at outside
      rcases ih outside with ⟨content, left, unquoted, read, read'⟩
      refine ⟨c :: content, left, unquoted, ?_, ?_⟩
      · rw [List.cons_append, quotedRest?_inside escape, if_neg differs, read]
        rfl
      · rw [List.cons_append, quotedRest?_inside escape, if_neg differs, read']
        rfl

/-- A quoted text is taken from both sources or from neither: no gap is inside of it. -/
theorem quoted?_taken (begun : Begun gap gap' crossed text text') :
    Taken gap gap' crossed (quoted? text) (quoted? text') := by
  refine begun.taken (fun ahead => ?_) fun bar => ?_
  · cases ahead with
    | intro front outside =>
        cases front with
        | nil =>
            rcases gaps.blank with ⟨c, rest, rfl, blank⟩
            rcases gaps.blank' with ⟨c', rest', rfl, blank'⟩
            simp only [List.nil_append, quoted?, not_quote_of_blank blank,
              not_quote_of_blank blank']
            exact .none
        | cons c more =>
            rw [List.cons_append, List.cons_append, quoted?, quoted?]
            by_cases quote : isQuote c = true
            · rw [Unquoted, openQuote?, if_pos quote] at outside
              rcases quotedRest?_ahead gap gap' more outside with
                ⟨content, rest, unquoted, read, read'⟩
              rw [if_pos quote, if_pos quote, read, read']
              exact .some ⟨rfl, .inl (.intro rest unquoted)⟩
            · rw [if_neg quote, if_neg quote]
              exact .none
  · cases bar
    rfl

omit gaps in
theorem pipe?_of_plain (plain : isPlainSpace c = true) : pipe? (c :: rest) = pipe? rest := by
  simp [pipe?, plain]

omit gaps in
theorem pipe?_of_single (single : Stops (· == '|') rest) : pipe? ('|' :: rest) = some rest :=
  pipe?_bar ⟨[], fun _ absurd => nomatch absurd⟩ single

omit gaps in
theorem pipe?_of_ne (ink : isPlainSpace c = false) (noBar : c ≠ '|') :
    pipe? (c :: rest) = none := by
  rw [pipe?, List.dropWhile_cons, ink, if_neg Bool.false_ne_true]
  split
  · rename_i heads
    exact absurd (List.cons.inj heads).1 noBar
  · rename_i heads
    exact absurd (List.cons.inj heads).1 noBar
  · rfl

omit gaps in
/-- What is taken from the same text behind the gaps, if they may be crossed. -/
theorem pipe?_same (past : (pipe? text).isSome = true → crossed) :
    Option.Rel (Stopped gap gap' crossed) (pipe? text) (pipe? text) := by
  generalize pipe? text = read at past ⊢
  rcases read with _ | rest
  · exact .none
  · exact .some (.inr ⟨past rfl, rfl⟩)

/-- The pipe of a filter is taken from both sources or from neither. -/
theorem pipe?_taken (stopped : Stopped gap gap' crossed text text') :
    Option.Rel (Stopped gap gap' crossed) (pipe? text) (pipe? text') := by
  rcases stopped with ahead | ⟨open_, rfl⟩
  · cases ahead with
    | intro front outside =>
        induction front with
        | nil =>
            rw [List.nil_append, List.nil_append, ← gaps.pipes]
            refine pipe?_same fun found => ?_
            by_cases open_ : crossed
            · exact open_
            · rw [(gaps.barred open_).2] at found
              cases found
        | cons c more ih =>
            rw [List.cons_append, List.cons_append]
            by_cases plain : isPlainSpace c = true
            · rw [pipe?_of_plain plain, pipe?_of_plain plain]
              have noQuote := not_quote_of_blank (isBlank_of_isPlainSpace plain)
              exact ih ((unquoted_cons noQuote).mp outside)
            · rw [Bool.not_eq_true] at plain
              by_cases bar : c = '|'
              · subst bar
                have behind := (unquoted_cons (by decide)).mp outside
                by_cases double : more.head? = some '|'
                · rw [List.head?_eq_some_iff] at double
                  rcases double with ⟨others, rfl⟩
                  exact .none
                · -- Neither what is in front of the gaps nor the gaps begin with a second bar.
                  have single {later : List Char} (stops : Stops (· == '|') later) :
                      Stops (· == '|') (more ++ later) := by
                    intro c head
                    rw [List.head?_append, Option.or_eq_some_iff] at head
                    rcases head with first | ⟨_, first⟩
                    · rw [beq_eq_false_iff_ne]
                      rintro rfl
                      exact double first
                    · exact stops c first
                  have ink : ∀ c, (c == '|') = true → isBlank c = false := by
                    intro c same
                    rw [eq_of_beq same]
                    rfl
                  rcases gaps.stops ink with ⟨stops, stops'⟩
                  rw [pipe?_of_single (single stops), pipe?_of_single (single stops')]
                  exact .some (.inl (.intro more behind))
              · rw [pipe?_of_ne plain bar, pipe?_of_ne plain bar]
                exact .none
  · exact pipe?_same fun _ => open_

omit gaps in
theorem isSolid_symbol (op : BinaryOp) : isSolid op.symbol = true := by
  cases op <;> decide

/-- An operator of a level is taken from both sources or from neither. -/
theorem operator?_taken (level : Level) (begun : Begun gap gap' crossed text text') :
    Taken gap gap' crossed (operator? level text) (operator? level text') := by
  unfold operator?
  induction level.operators with
  | nil => exact .none
  | cons op others ih =>
      have taken := symbol?_taken gaps (isSolid_symbol op) begun
      rw [List.findSome?_cons, List.findSome?_cons]
      generalize symbol? op.symbol text = read at taken ⊢
      generalize symbol? op.symbol text' = read' at taken ⊢
      cases taken with
      | some stopped => exact .some ⟨rfl, stopped⟩
      | none => exact ih

end Words

end Lexeme

end Stencil
