import Stencil.Proofs.Expr.Words
import Stencil.Proofs.Path.AsExpression
import Stencil.Proofs.Template.Grammar
/-!
# Statement tags and their rules

What the readers of statement tags take is what the rules of the grammar allow: each reader of a
head finds a name and a source if and only if the head has them, and the readers notice no problem
if and only if the rules are kept.
-/

namespace Stencil

open Text

namespace Text

variable {text : List Char}

theorem blank_takeWhile (text : List Char) : Blank (text.takeWhile isBlank) :=
  List.all_eq_true.mp List.all_takeWhile

theorem trimStart_of_blank (blank : Blank text) : trimStart text = [] := by
  have dropped : trimStart (text ++ []) = [] := trimStart_append blank
  rwa [List.append_nil] at dropped

/-- Trimming removes nothing but white space. -/
theorem exists_trim (text : List Char) :
    ∃ before after, Blank before ∧ Blank after ∧ text = before ++ (trim text ++ after) := by
  rcases exists_blanks text with ⟨before, leading, whole⟩
  refine ⟨before, ((trimStart text).reverse.takeWhile isBlank).reverse, leading, ?_, ?_⟩
  · intro c member
    exact blank_takeWhile _ c (List.mem_reverse.mp member)
  · rw [trim, trimEnd, ← List.reverse_append, List.takeWhile_append_dropWhile, List.reverse_reverse]
    exact whole

theorem trim_isEmpty_iff : (trim text).isEmpty = true ↔ Blank text := by
  constructor
  · intro empty
    rcases exists_trim text with ⟨before, after, leading, trailing, whole⟩
    rw [List.isEmpty_iff.mp empty, List.nil_append] at whole
    rw [whole]
    intro c member
    rcases List.mem_append.mp member with member | member
    · exact leading c member
    · exact trailing c member
  · intro blank
    rw [trim, trimStart_of_blank blank]
    rfl

end Text

namespace Lexeme

theorem name?_eq_some_iff {text rest : List Char} {found : String} :
    name? text = some (found, rest) ↔ ∃ name : Identifier,
      name.name = found ∧ text = name.text ++ rest ∧ Stops continuesName rest := by
  constructor
  · intro read
    cases text with
    | nil => cases read
    | cons c others =>
        rw [name?, Option.ite_none_right_eq_some] at read
        rcases read with ⟨begins, read⟩
        cases read
        refine ⟨⟨c, others.takeWhile continuesName, begins, List.all_eq_true.mp List.all_takeWhile⟩,
          rfl, ?_, stops_dropWhile continuesName others⟩
        rw [Identifier.text, List.cons_append, List.takeWhile_append_dropWhile]
  · rintro ⟨name, rfl, rfl, stops⟩
    exact name?_identifier name stops

end Lexeme

namespace Statement

variable {head : Statement}

/-- A tag with a keyword is split after it. -/
theorem Says.ofToken {keyword : String} (opens : head.Says keyword) (known : keyword ∈ keywords) :
    ofToken head.token = head := by
  have words : ∀ keyword ∈ keywords, keyword.toList ≠ [] ∧
      keyword.toList.all Lexeme.continuesName = true := by decide
  have nonempty := (words keyword known).1
  have continues := List.all_eq_true.mp (words keyword known).2
  rcases opens.body with ⟨blanks, blank, body⟩
  have begins : trimStart (keyword.toList ++ head.rest) = keyword.toList ++ head.rest := by
    cases letters : keyword.toList with
    | nil => exact absurd letters nonempty
    | cons c others =>
        rw [letters] at continues
        exact trimStart_cons (Lexeme.not_blank_of_continuesName (continues c List.mem_cons_self))
  have trimmed : trimStart head.token.body.toList = keyword.toList ++ head.rest := by
    rw [body, trimStart_append blank, begins]
  rcases head with ⟨word, rest, token⟩
  have same : word = keyword := opens.word
  simp only [Statement.ofToken, trimmed, takeWhile_run continues opens.ends,
    dropWhile_run continues opens.ends, String.ofList_toList, same]

theorem says_ofToken {token : Token} (tag : token.tag? = some .statement) :
    (ofToken token).Says (ofToken token).keyword := by
  refine ⟨tag, rfl, ?_, stops_dropWhile _ _⟩
  rcases exists_blanks token.body.toList with ⟨blanks, blank, whole⟩
  refine ⟨blanks, blank, ?_⟩
  simp only [ofToken, String.toList_ofList, List.takeWhile_append_dropWhile]
  exact whole

theorem isBare_iff : head.isBare = true ↔ head.Bare := trim_isEmpty_iff

/-- A class stops at white space if it has none in it. -/
theorem stops_of_blank {inClass : Char → Bool} {blanks rest : List Char}
    (apart : ∀ c, isBlank c = true → inClass c = false) (blank : Blank blanks)
    (behind : Stops inClass rest) : Stops inClass (blanks ++ rest) :=
  behind.append fun c member => apart c (blank c member)

theorem not_continuesName_of_blank {c : Char} (blank : isBlank c = true) :
    Lexeme.continuesName c = false := by
  rw [Bool.eq_false_iff]
  intro continues
  rw [Lexeme.not_blank_of_continuesName continues] at blank
  cases blank

theorem blockName?_eq_some_iff {found : String} : head.blockName? = some found ↔
    ∃ name : Identifier, name.name = found ∧ BlockHeader head.rest name := by
  constructor
  · intro read
    simp only [blockName?, Option.bind_eq_bind, Option.bind_eq_some_iff, Prod.exists,
      Option.ite_none_right_eq_some] at read
    rcases read with ⟨named, after, read, nothing, same⟩
    cases same
    rcases Lexeme.name?_eq_some_iff.mp read with ⟨name, rfl, whole, _⟩
    rcases exists_blanks head.rest with ⟨before, leading, rest⟩
    refine ⟨name, rfl, ?_⟩
    rw [rest, whole]
    exact .intro name leading (trim_isEmpty_iff.mp nothing)
  · rintro ⟨name, rfl, header⟩
    generalize rest : head.rest = text at header
    cases header with
    | intro name leading trailing =>
        rename_i before after
        have stops : Stops Lexeme.continuesName after := by
          rw [← List.append_nil after]
          exact stops_of_blank (fun _ => not_continuesName_of_blank) trailing stops_nil
        have read := Lexeme.name?_identifier name stops
        simp only [blockName?, rest, Identifier.trimStart_append leading, read, Option.bind_eq_bind,
          Option.bind_some, trim_isEmpty_iff.mpr trailing, if_true]
        rfl

theorem loopHead?_eq_some_iff {found : String} {source : List Char} :
    head.loopHead? = some (found, source) ↔
      ∃ name : Identifier, name.name = found ∧ LoopHeader head.rest name source := by
  constructor
  · intro read
    simp only [loopHead?, Option.bind_eq_bind, Option.bind_eq_some_iff, Prod.exists,
      Option.ite_none_left_eq_some] at read
    rcases read with ⟨named, afterName, read, separate, iterable, word, read⟩
    split at read
    · rename_i space more
      rw [Option.ite_none_right_eq_some] at read
      rcases read with ⟨blank, same⟩
      cases same
      rcases Lexeme.name?_eq_some_iff.mp read with ⟨name, rfl, whole, _⟩
      rcases exists_blanks head.rest with ⟨before, leading, rest⟩
      rcases exists_blanks afterName with ⟨between, gap, after⟩
      refine ⟨name, rfl, ?_⟩
      have some : between ≠ [] := by
        rintro rfl
        rw [List.nil_append] at after
        exact separate (congrArg List.length after).symm
      rw [Lexeme.exactly?_eq_some word] at after
      rw [rest, whole, after]
      exact .intro name more leading gap some blank
    · cases read
  · rintro ⟨name, rfl, header⟩
    generalize rest : head.rest = text at header
    cases header with
    | intro name more leading gap some blank =>
        rename_i before between space
        have stops : Stops Lexeme.continuesName (between ++ 'i' :: 'n' :: space :: more) := by
          cases between with
          | nil => exact absurd rfl some
          | cons c others =>
              exact stops_cons (not_continuesName_of_blank (gap c List.mem_cons_self))
        have read := Lexeme.name?_identifier name stops
        have trimmed : trimStart (between ++ 'i' :: 'n' :: space :: more) =
            'i' :: 'n' :: space :: more := by
          rw [trimStart_append gap, trimStart_cons rfl]
        have separate : ¬('i' :: 'n' :: space :: more).length =
            (between ++ 'i' :: 'n' :: space :: more).length := by
          have size := List.length_pos_iff.mpr some
          rw [List.length_append]
          omega
        have word : Lexeme.exactly? ['i', 'n'] ('i' :: 'n' :: space :: more) =
            Option.some (space :: more) := rfl
        simp only [loopHead?, rest, Identifier.trimStart_append leading, read, Option.bind_eq_bind,
          Option.bind_some, trimmed, if_neg separate, word, if_pos blank]
        rfl

theorem assignmentHead?_eq_some_iff {found : String} {source : List Char} :
    head.assignmentHead? = some (found, source) ↔
      ∃ name : Identifier, name.name = found ∧ AssignmentHeader head.rest name source := by
  constructor
  · intro read
    simp only [assignmentHead?, Option.bind_eq_bind, Option.bind_eq_some_iff, Prod.exists] at read
    rcases read with ⟨named, afterName, read, value, sign, single⟩
    split at single
    · cases single
    · rename_i noSign
      cases single
      rcases Lexeme.name?_eq_some_iff.mp read with ⟨name, rfl, whole, _⟩
      rcases exists_blanks head.rest with ⟨before, leading, rest⟩
      rcases Lexeme.symbol?_eq_some sign with ⟨between, gap, after⟩
      refine ⟨name, rfl, ?_⟩
      rw [rest, whole, after]
      refine .intro name leading gap ?_
      intro c head
      rw [beq_eq_false_iff_ne]
      rintro rfl
      rcases List.head?_eq_some_iff.mp head with ⟨others, rfl⟩
      exact noSign others rfl
  · rintro ⟨name, rfl, header⟩
    generalize rest : head.rest = text at header
    cases header with
    | intro name leading gap single =>
        rename_i before between
        have stops : Stops Lexeme.continuesName (between ++ '=' :: source) :=
          stops_of_blank (fun _ => not_continuesName_of_blank) gap (stops_cons (by decide))
        have read := Lexeme.name?_identifier name stops
        have sign : Lexeme.symbol? "=" (between ++ '=' :: source) = some source := by
          rw [Lexeme.symbol?, trimStart_append gap, trimStart_cons rfl]
          rfl
        simp only [assignmentHead?, rest, Identifier.trimStart_append leading, read,
          Option.bind_eq_bind, Option.bind_some, sign]
        split
        · exact absurd single.head (by decide)
        · rfl

end Statement

namespace Template.Parser

variable {head : Statement}

theorem bareErrors_eq_nil_iff : bareErrors head = [] ↔ head.Bare := by
  rw [← Statement.isBare_iff, bareErrors]
  split
  · rename_i bare
    simp [bare]
  · rename_i bare
    simp [bare]

theorem bindingErrors_eq_nil_iff {name : String} :
    bindingErrors name head = [] ↔ name ∉ reservedNames := by
  rw [bindingErrors]
  split
  · rename_i reserved
    simpa using reserved
  · rename_i free
    simpa using free

theorem parseExpression_ofList (source : List Char) (origin : Position) :
    parseExpression (String.ofList source) origin = Expr.Parser.parse origin source := by
  rw [parseExpression, String.toList_ofList]

/-- A required expression is read without a problem if it is what the source says. -/
theorem requiredExpression_of_reads {source : List Char} {expr : Expr}
    (reads : head.Reads source expr) : requiredExpression head source = (expr, []) := by
  rw [Statement.Reads, parseExpression_ofList] at reads
  have nonempty : ¬(trim source).isEmpty = true := by
    intro empty
    rw [Expr.Parser.parse, if_pos empty] at reads
    cases reads
  simp only [requiredExpression, if_neg nonempty, reads]

theorem reads_of_requiredExpression {source : List Char}
    (clean : (requiredExpression head source).2 = []) :
    head.Reads source (requiredExpression head source).1 := by
  rw [Statement.Reads, parseExpression_ofList]
  unfold requiredExpression at clean ⊢
  split at clean
  · cases clean
  · rename_i some
    rw [if_neg some]
    split at clean
    · rename_i expr read
      exact read
    · cases clean

theorem blockHeader_iff_trim {text : List Char} {name : Identifier} :
    Statement.BlockHeader text name ↔ trim text = name.text := by
  constructor
  · intro header
    cases header with
    | intro name leading trailing =>
        have first : Stops isBlank name.text := by
          have stops := name.text_stops []
          rwa [List.append_nil] at stops
        exact trim_between first name.endsInInk leading trailing
  · intro trimmed
    rcases exists_trim text with ⟨before, after, leading, trailing, whole⟩
    rw [whole, trimmed]
    exact .intro name leading trailing

/-- A closing tag of a named part carries nothing or the name of the part. -/
theorem mismatchErrors_eq_nil_iff {name : Identifier} {closing : Statement} :
    mismatchErrors (some name.name) (some closing) = [] ↔
      closing.Bare ∨ Statement.BlockHeader closing.rest name := by
  have empty : (String.ofList (trim closing.rest)).isEmpty = true ↔ closing.Bare := by
    rw [Statement.Bare, ← trim_isEmpty_iff, String.isEmpty_iff, List.isEmpty_iff,
      ← String.toList_eq_nil_iff, String.toList_ofList]
  have same : String.ofList (trim closing.rest) = name.name ↔ trim closing.rest = name.text := by
    rw [Identifier.name, String.ofList_inj]
  rw [blockHeader_iff_trim, ← same, ← empty, mismatchErrors]
  split
  · rename_i allowed
    simpa using allowed
  · rename_i forbidden
    simpa using forbidden

end Template.Parser

end Stencil
