import Stencil.Engine.Basic
import Stencil.Proofs.Expr.Lists
import Stencil.Proofs.Render.Steps
import Stencil.Proofs.Token.Leftmost
/-!
# Quoted texts from source to output

Any text can be written between quotes of either kind, with a backslash in front of each of those
quotes and of each backslash. What is written so is read as the text, and a tag around it renders
the text. Quotes do not protect the marker that closes the tag, so it may not be among what is
written.
-/

namespace Stencil

open Text Lexeme Render

/-- Puts a backslash in front of every backslash and every quote of a kind. -/
def escape (quote : Char) : List Char → List Char
  | [] => []
  | c :: rest =>
    if c = quote ∨ c = '\\' then '\\' :: c :: escape quote rest else c :: escape quote rest

/-- A text as a constant of the expression language. -/
def stringLiteral (quote : Char) (s : String) : String :=
  String.ofList (quote :: (escape quote s.toList ++ [quote]))

variable {quote : Char}

theorem escaped_escape (isQuote : quote = '"' ∨ quote = '\'') (content : List Char) :
    Escaped quote content (escape quote content) := by
  induction content with
  | nil => exact .nil
  | cons c rest ih =>
      rw [escape]
      split
      · rename_i special
        apply Escaped.escape _ ih
        apply Escape.itself
        rcases special with rfl | rfl
        · rcases isQuote with rfl | rfl <;> decide
        · decide
      · rename_i plain
        exact .plain (not_or.mp plain) ih

theorem quoted_stringLiteral (isQuote : quote = '"' ∨ quote = '\'') (s : String) :
    Quoted s (stringLiteral quote s).toList := by
  have quoted := Quoted.intro isQuote (escaped_escape isQuote s.toList)
  rw [String.ofList_toList] at quoted
  rwa [stringLiteral, String.toList_ofList]

namespace Expr.Parser

theorem extent_append (source : Source) (written rest : List Char) :
    source.extent (written ++ rest) rest =
      ⟨source.span (written ++ rest) rest, some (String.ofList written)⟩ := by
  simp [Source.extent]

theorem pipe?_gap (gap : Gap) : pipe? gap.text = none := by
  have nothing := gap.dropWhile_append stops_nil
  rw [List.append_nil] at nothing
  simp [pipe?, nothing]

theorem trimStart_gap (gap : Gap) : trimStart gap.text = [] := by
  have trimmed := gap.trimStart_append []
  rwa [List.append_nil] at trimmed

/-- A quoted text is an expression, with white space around it or without. -/
theorem parse_quoted {s : String} {written : List Char} (quoted : Quoted s written)
    (origin : Position) (leading trailing : Gap) : ∃ span,
      parse origin (leading.text ++ (written ++ trailing.text)) =
        .ok (.literal ⟨span, some (String.ofList written)⟩ (.string s)) := by
  let source := Source.ofText origin (leading.text ++ (written ++ trailing.text))
  have read := quoted?_quoted quoted trailing.text
  have extent := extent_append source written trailing.text
  refine ⟨source.span (written ++ trailing.text) trailing.text, ?_⟩
  rcases quoted.text_cons with ⟨quote, others, rfl, opens⟩
  have ink : isBlank quote = false := not_blank_of_beginsExpr (by simp [beginsExpr, opens])
  have plain : quote ∉ openingCharacters := not_mem_of_inClass opens rfl
  have start : trimStart (quote :: (others ++ trailing.text)) =
      quote :: (others ++ trailing.text) :=
    trimStart_cons ink
  have begins : trimStart (leading.text ++ (quote :: (others ++ trailing.text))) =
      quote :: (others ++ trailing.text) := by
    rw [leading.trimStart_append, start]
  have boundary : Boundary trailing.text := .blank trailing
  simp only [List.cons_append] at read extent ⊢
  have primary : primary source (Grammar.readPipeline source (Grammar.inner source 63))
      (quote :: (others ++ trailing.text)) =
        .ok (.literal (source.extent (quote :: (others ++ trailing.text)) trailing.text)
          (.string s),
          trailing.text) := by
    rw [primary_cons source _ ink plain, if_pos opens, require_of_some read]
    rfl
  have unary := Grammar.readUnary_of_primary start (unaryOp?_cons plain) primary boundary
  have pipeline := Grammar.pipeline_of_unary begins unary boundary (pipe?_gap trailing)
  rw [extent] at pipeline
  exact parse_of_pipeline (trim_isEmpty_of_begins begins ink) pipeline (trimStart_gap trailing)

end Expr.Parser

namespace Reference

/-- The text of one expression tag. -/
def expressionTag (body : List Char) : List Char :=
  '\x7b' :: '\x7b' :: (body ++ ['\x7d', '\x7d'])

variable {body : List Char}

/-- Nothing closes a tag before its end if the marker is not in the body and the body does not end
like it. -/
theorem not_standsAt_closing (absent : ¬['\x7d', '\x7d'] <:+: body)
    (ends : ∀ c, body.getLast? = some c → c ≠ '\x7d') {index : Nat} (inside : index < body.length) :
    ¬StandsAt ['\x7d', '\x7d'] (body ++ ['\x7d', '\x7d']) index := by
  rintro ⟨rest, stands⟩
  rw [List.drop_append_of_le_length (Nat.le_of_lt inside)] at stands
  have whole : body.take index ++ body.drop index = body := List.take_append_drop index body
  rcases behind : body.drop index with _ | ⟨first, _ | ⟨second, others⟩⟩
  · have length := congrArg List.length behind
    simp only [List.length_drop, List.length_nil] at length
    omega
  · simp only [behind, List.cons_append, List.cons.injEq] at stands
    apply ends first _ stands.1.symm
    rw [← whole, behind, List.getLast?_append]
    rfl
  · simp only [behind, List.cons_append, List.cons.injEq] at stands
    rcases stands with ⟨rfl, rfl, _⟩
    apply absent
    refine ⟨body.take index, others, ?_⟩
    simpa [behind] using whole

/-- Blanks at both ends of a body do not make a marker with it. -/
theorem infix_of_blanks {written : List Char}
    (occurs : ['\x7d', '\x7d'] <:+: ' ' :: (written ++ [' '])) : ['\x7d', '\x7d'] <:+: written := by
  rcases List.infix_cons_iff.mp occurs with front | occurs
  · rcases List.prefix_cons_iff.mp front with none | ⟨others, same, _⟩
    · cases none
    · exact absurd (List.cons.inj same).1 (by decide)
  · rcases List.infix_concat_iff.mp occurs with back | occurs
    · rcases List.suffix_concat_iff.mp back with none | ⟨others, same, _⟩
      · cases none
      · have last := congrArg List.getLast? same
        rw [List.getLast?_concat] at last
        exact absurd (Option.some.inj last) (by decide)
    · exact occurs

theorem nextTag_expressionTag (body : List Char) :
    NextTag {} (expressionTag body) 0 .expression 0 where
  first := ⟨Nat.le_refl 0, ⟨_, rfl⟩, fun _ _ before => absurd before (Nat.not_lt_zero _)⟩
  leftmost := fun _ _ _ before => absurd before (Nat.not_lt_zero _)
  wins := by
    intro other stands
    cases other with
    | statement =>
        rcases stands with ⟨rest, stands⟩
        exact absurd (List.cons.inj (List.cons.inj stands).2).1 (by decide)
    | expression => exact Nat.le_refl _
    | comment => decide

theorem closesAt_expressionTag (absent : ¬['\x7d', '\x7d'] <:+: body)
    (ends : ∀ c, body.getLast? = some c → c ≠ '\x7d') :
    ClosesAt {} (expressionTag body) .expression 0 (2 + body.length) where
  after := Nat.le_add_right ..
  stands := by
    rw [← standsAt_drop]
    refine ⟨[], ?_⟩
    simp [expressionTag, Delimiters.closing, Delimiters.markers]
  first := by
    intro earlier after before stands
    have after : 2 ≤ earlier := after
    rcases Nat.exists_eq_add_of_le after with ⟨index, rfl⟩
    exact not_standsAt_closing absent ends (by omega) (standsAt_drop.mpr stands)

/-- A tag that its marker closes at its end is the only token of its text. -/
theorem tokenize_expressionTag (absent : ¬['\x7d', '\x7d'] <:+: body)
    (ends : ∀ c, body.getLast? = some c → c ≠ '\x7d') :
    ∃ token, tokenize {} (String.ofList (expressionTag body)) = .ok [token] ∧
      token.tag? = some .expression ∧ token.body = String.ofList body := by
  have marked : ∀ tag, (({} : Delimiters).opening tag) ≠ [] := by
    intro tag
    cases tag <;> decide
  have closable : ∀ tag, (({} : Delimiters).closing tag) ≠ [] := by
    intro tag
    cases tag <;> decide
  have reached :=
    Reaches.tag .start (nextTag_expressionTag body) (closesAt_expressionTag absent ends)
  have atEnd : endOf {} .expression (2 + body.length) = (expressionTag body).length := by
    change 2 + body.length + 2 = _
    simp [expressionTag]
    omega
  have last : NoTag {} (expressionTag body) (expressionTag body).length := by
    intro tag later after stands
    have inside := stands.le_length (marked tag)
    have some := List.length_pos_iff.mpr (marked tag)
    omega
  have nothing (index : Nat) : textBetween (expressionTag body) index index = [] := by
    simp [textBetween]
  have scanned := Ends.tokens reached (atEnd ▸ last)
  rw [atEnd, nothing, nothing, List.append_nil, List.nil_append, List.nil_append] at scanned
  have inside : (expressionTag body).extract 2 (2 + body.length) = body := by
    rw [List.extract_eq_take_drop]
    simp [expressionTag]
  refine ⟨tagToken {} (expressionTag body) .expression 0 (2 + body.length), ?_, rfl,
    congrArg String.ofList inside⟩
  rw [tokenize_of_marked marked closable]
  apply Ends.eq_tokens marked closable _ _ (Nat.lt_succ_self _)
  rwa [String.toList_ofList]

end Reference

namespace Engine

/-- A tag with a quoted text is one node that renders the text. -/
theorem parse_quotedTag {s : String} {written : List Char} (quoted : Quoted s written)
    (leading trailing : Gap) (token : Token) (isTag : token.tag? = some .expression)
    (body : token.body.toList = leading.text ++ (written ++ trailing.text)) :
    ∃ extent inner, Stencil.parse [token] =
      ⟨⟨[.output extent (.literal inner (.string s))], ⟨token.start, token.stop⟩⟩, []⟩ := by
  rcases Expr.Parser.parse_quoted quoted token.bodyStart leading trailing with ⟨span, read⟩
  rw [← body] at read
  have node : Template.Parser.outputNode token =
      (.output ⟨token.span, some token.content⟩
        (.literal ⟨span, some (String.ofList written)⟩ (.string s)), []) := by
    rw [Template.Parser.outputNode, read]
  have taken : Template.Parser.State.take {} token =
      Template.Parser.State.attach {} (Template.Parser.outputNode token) := by
    simp only [Template.Parser.State.take, isTag]
  refine ⟨⟨token.span, some token.content⟩, ⟨span, some (String.ofList written)⟩, ?_⟩
  simp only [Stencil.parse, List.foldl_cons, List.foldl_nil, taken, node]
  rfl

theorem render_constant (input : RenderInput) (extent inner : Extent) (s : String) (span : Span) :
    Stencil.render input ⟨[.output extent (.literal inner (.string s))], span⟩ =
      .ok ⟨s, [], true⟩ := by
  have rendered :
      ∃ lines, (renderNodes input [.output extent (.literal inner (.string s))]).exec {} =
      (.ok s, RenderState.noting {} lines) := by
    rcases exec_trace input ("render expression at " ++ extent.span.start.text) {} with
      ⟨lines, traced⟩
    refine ⟨lines, ?_⟩
    rw [renderNodes, renderNode, evaluate, renderNodes]
    simp only [bind_assoc, pure_bind]
    rw [exec_bind_ok traced]
    simp [RenderOptions.shown, Literal.value, Value.text]
  rcases rendered with ⟨lines, rendered⟩
  rw [Stencil.render, renderFrom]
  simp only [exec] at rendered
  simp only [rendered]
  rfl

/-- A quoted text is read as the text, and a tag around it renders the text. -/
theorem render_stringLiteral (engine : Engine) (markers : engine.delimiters = {})
    (isQuote : quote = '"' ∨ quote = '\'') (s : String) :
    (∀ origin, ∃ span, parseExpression (stringLiteral quote s) origin =
        .ok (.literal ⟨span, some (stringLiteral quote s)⟩ (.string s))) ∧
      (¬"\x7d\x7d".toList <:+: (stringLiteral quote s).toList →
        ∃ compiled,
          engine.compile ("\x7b\x7b " ++ stringLiteral quote s ++ " \x7d\x7d") = .ok compiled ∧
            compiled.parseErrors = [] ∧ ∀ data, compiled.render data = .ok ⟨s, [], true⟩) := by
  have quoted := quoted_stringLiteral isQuote s
  refine ⟨?_, ?_⟩
  · intro origin
    rcases Expr.Parser.parse_quoted quoted origin .empty .empty with ⟨span, read⟩
    refine ⟨span, ?_⟩
    simpa [parseExpression] using read
  · intro absent
    let body := Gap.space.text ++ ((stringLiteral quote s).toList ++ Gap.space.text)
    have text : "\x7b\x7b " ++ stringLiteral quote s ++ " \x7d\x7d" =
        String.ofList (Reference.expressionTag body) := by
      apply String.toList_injective
      simp [Reference.expressionTag, body, Gap.space]
    have inside : ¬['\x7d', '\x7d'] <:+: body := by
      intro occurs
      exact absent (Reference.infix_of_blanks occurs)
    have ends : ∀ c, body.getLast? = some c → c ≠ '\x7d' := by
      rintro c last rfl
      have blank : body.getLast? = some ' ' := List.getLast?_concat (l := ' ' :: _)
      rw [blank] at last
      cases last
    rcases Reference.tokenize_expressionTag inside ends with ⟨token, scanned, isTag, content⟩
    have tokenBody : token.body.toList = body := by
      rw [content, String.toList_ofList]
    rcases parse_quotedTag quoted .space .space token isTag tokenBody with ⟨extent, inner, parsed⟩
    refine ⟨⟨⟨[.output extent (.literal inner (.string s))], ⟨token.start, token.stop⟩⟩, [],
      engine.registry, engine.options⟩, ?_, rfl, ?_⟩
    · rw [compile, parse, tokenize, markers, text, scanned]
      change Except.map _ (Except.map _ (Except.ok _)) = _
      simp [Except.map, parsed]
    · intro data
      rw [CompiledTemplate.render, CompiledTemplate.renderWith, render_constant]
      rfl

theorem render_stringLiteral_escaped :
    (∃ span, parseExpression "\"a\\\"\\\\n\"" Position.start =
        .ok (.literal ⟨span, some "\"a\\\"\\\\n\""⟩ (.string "a\"\\n"))) ∧
      ∃ compiled, ({} : Engine).compile "\x7b\x7b \"a\\\"\\\\n\" \x7d\x7d" = .ok compiled ∧
        compiled.parseErrors = [] ∧ ∀ data, compiled.render data = .ok ⟨"a\"\\n", [], true⟩ := by
  have literal : stringLiteral '"' "a\"\\n" = "\"a\\\"\\\\n\"" := by rfl
  have told := render_stringLiteral {} rfl (.inl rfl : '"' = '"' ∨ _) "a\"\\n"
  have template : "\x7b\x7b " ++ "\"a\\\"\\\\n\"" ++ " \x7d\x7d" =
      "\x7b\x7b \"a\\\"\\\\n\" \x7d\x7d" := by rfl
  rw [literal, template] at told
  refine ⟨told.1 Position.start, told.2 ?_⟩
  intro occurs
  have member : '\x7d' ∈ "\"a\\\"\\\\n\"".toList := occurs.subset (by decide)
  revert member
  decide

end Engine

end Stencil
