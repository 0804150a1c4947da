import Stencil.Proofs.Render.Holes
import Stencil.Proofs.Render.Totality
import Stencil.Proofs.Template.Building
/-!
# Code that is not selected

Choices, ternaries and the two logical operators evaluate one expression and then select what comes
next. What is not selected may be anything: wherever such a construct stands in a template, and
however often a render comes to it, replacing a part that is never selected changes nothing.

In a chain of conditions the body of the first that holds is rendered, and the conditions before it
have been evaluated once each, in order. The parser makes such a chain of a choice with further
conditions: each condition that is written behind another is all of the other branch of that one.
-/

namespace Stencil

open Render Template

/-- That the value of an expression, if it has one, is of a certain truth. -/
def Decides (input : RenderInput) (decider : Expr) (truth : Bool) (state : RenderState) : Prop :=
  ∀ value after, (evaluate input decider).exec state = (.ok value, after) → value.truthy = truth

/-- That two expressions differ in a part alone that is selected by a truth of another part. -/
inductive Expr.DiffersWhere (decider : Expr) : Bool → Expr → Expr → Prop where
  | thenBranch {extent : Extent} {first other second : Expr} :
      DiffersWhere decider true (.ternary extent decider first second)
        (.ternary extent decider other second)
  | elseBranch {extent : Extent} {first second other : Expr} :
      DiffersWhere decider false (.ternary extent decider first second)
        (.ternary extent decider first other)
  | rightOfAnd {extent : Extent} {right other : Expr} :
      DiffersWhere decider true (.binary extent .and decider right)
        (.binary extent .and decider other)
  | rightOfOr {extent : Extent} {right other : Expr} :
      DiffersWhere decider false (.binary extent .or decider right)
        (.binary extent .or decider other)

/-- That two choices differ in a branch alone that is selected by a truth of the condition. The
other branch holds all further conditions with their bodies. -/
inductive Node.DiffersWhere (decider : Expr) : Bool → Node → Node → Prop where
  | body {extent : Extent} {body other : List Node} {otherwise : Option (List Node)} :
      DiffersWhere decider true (.choice extent decider body otherwise)
        (.choice extent decider other otherwise)
  | otherwise {extent : Extent} {body : List Node} {otherwise other : Option (List Node)} :
      DiffersWhere decider false (.choice extent decider body otherwise)
        (.choice extent decider body other)

section Selecting

variable {input : RenderInput} {state : RenderState} {decider : Expr}

/-- What is selected by a truth that a value does not have does not matter. -/
theorem exec_selected {α : Type} {truth : Bool} (decides : Decides input decider truth state)
    {selected other : Value → Render α}
    (same : ∀ value, value.truthy = truth → other value = selected value) :
    (evaluate input decider >>= other).exec state =
      (evaluate input decider >>= selected).exec state := by
  rw [exec_bind, exec_bind]
  rcases evaluated : (evaluate input decider).exec state with ⟨stop | value, after⟩
  · rfl
  · simp only [same value (decides value after evaluated)]

theorem Expr.DiffersWhere.extent_eq {truth : Bool} {expr other : Expr}
    (differs : Expr.DiffersWhere decider truth expr other) : other.extent = expr.extent := by
  cases differs <;> rfl

/-- An expression does not do anything with a part that it does not select. -/
theorem Expr.DiffersWhere.exec_eq {truth : Bool} {expr other : Expr}
    (differs : Expr.DiffersWhere decider truth expr other)
    (decides : Decides input decider (!truth) state) :
    (evaluate input other).exec state = (evaluate input expr).exec state := by
  cases differs with
  | thenBranch =>
      simp only [evaluate]
      apply exec_selected decides
      intro value falsy
      simp [falsy]
  | elseBranch =>
      simp only [evaluate]
      apply exec_selected decides
      intro value truthy
      simp [truthy]
  | rightOfAnd =>
      simp only [evaluate]
      apply exec_selected decides
      intro value falsy
      simp [BinaryOp.settled?, falsy]
  | rightOfOr =>
      simp only [evaluate]
      apply exec_selected decides
      intro value truthy
      simp [BinaryOp.settled?, truthy]

/-- A choice begins with a line in the log if lines are asked for, and then evaluates its
condition. -/
theorem exec_choice (extent : Extent) (condition : Expr) (body : List Node)
    (otherwise : Option (List Node)) (state : RenderState) :
    (renderNode input (.choice extent condition body otherwise)).exec state =
      (evaluate input condition >>= fun decision =>
        if decision.truthy then renderNodes input body
        else renderNodes input (otherwise.getD [])).exec
          (state.begun input (.choice extent condition body otherwise)) :=
  exec_of_begun (renderNode_choice input extent condition body otherwise) state

/-- A choice does not do anything with a branch that it does not select. -/
theorem Node.DiffersWhere.exec_eq {truth : Bool} {node other : Node}
    (differs : Node.DiffersWhere decider truth node other)
    (decides : Decides input decider (!truth) (state.begun input node)) :
    (renderNode input other).exec state = (renderNode input node).exec state := by
  cases differs with
  | body =>
      rw [exec_choice, exec_choice]
      apply exec_selected decides
      intro value falsy
      simp [falsy]
  | otherwise =>
      rw [exec_choice, exec_choice]
      apply exec_selected decides
      intro value truthy
      simp [truthy]

end Selecting

/-- A condition of a chain with its body. -/
structure Link where
  extent : Extent
  condition : Expr
  body : List Node

namespace Link

/-- What a chain of conditions makes of the other branch behind it: each condition is a choice that
is the only node of the other branch of the one before. -/
def chain : List Link → Option (List Node) → Option (List Node)
  | [], otherwise => otherwise
  | link :: rest, otherwise =>
    some [.choice link.extent link.condition link.body (chain rest otherwise)]

/-- That tokens behind the head of a choice say the links of a chain, and the branch behind them: the
bodies of the links stand between the tags of further conditions, and all links stop at the tag that
closes the choice. -/
inductive Written (stop : Position) : Nat → Statement → Expr → List Token → List Link →
    Option (List Node) → Prop where
  | single {depth : Nat} {head close : Statement} {condition : Expr} {inside : List Token}
      {body : List Node} (forms : Forms depth inside body) (closes : close.Says "endif")
      (bare : close.Bare) (stops : close.token.stop = stop) :
      Written stop depth head condition (inside ++ [close.token])
        [⟨head.extentTo stop, condition, body⟩] none
  | otherwise {depth : Nat} {head middle close : Statement} {condition : Expr}
      {inside others : List Token} {body otherBody : List Node} (forms : Forms depth inside body)
      (continues : middle.Says "else") (bareMiddle : middle.Bare)
      (formsOther : Forms depth others otherBody) (closes : close.Says "endif")
      (bare : close.Bare) (stops : close.token.stop = stop) :
      Written stop depth head condition (inside ++ middle.token :: (others ++ [close.token]))
        [⟨head.extentTo stop, condition, body⟩] (some otherBody)
  | further {depth : Nat} {head next : Statement} {condition nextCondition : Expr}
      {inside others : List Token} {body : List Node} {links : List Link}
      {last : Option (List Node)} (forms : Forms depth inside body) (continues : next.Says "elif")
      (room : depth < maxDepth) (reads : next.Reads next.rest nextCondition)
      (later : Written stop (depth + 1) next nextCondition others links last) :
      Written stop depth head condition (inside ++ next.token :: others)
        (⟨head.extentTo stop, condition, body⟩ :: links) last

/-- The grammar nests a chain that is written. -/
theorem Written.branches {stop : Position} {depth : Nat} {head : Statement} {condition : Expr}
    {tokens : List Token} {links : List Link} {last : Option (List Node)}
    (written : Written stop depth head condition tokens links last) :
    ∃ node, chain links last = some [node] ∧ node.span.stop = stop ∧
      Branches depth head condition tokens node := by
  induction written with
  | single forms closes bare stops =>
      subst stops
      exact ⟨_, rfl, rfl, .single forms closes bare⟩
  | otherwise forms continues bareMiddle formsOther closes bare stops =>
      subst stops
      exact ⟨_, rfl, rfl, .otherwise forms continues bareMiddle formsOther closes bare⟩
  | @further depth head next condition _ _ _ body _ _ forms continues room reads later ih =>
      rcases ih with ⟨node, nested, rfl, branches⟩
      refine ⟨.choice (head.extentTo node.span.stop) condition body (some [node]), ?_, rfl,
        .further forms continues room reads branches⟩
      rw [chain, nested]

/-- The parser nests a chain that is written. -/
theorem Written.parse {stop : Position} {head : Statement} {condition : Expr}
    {tokens : List Token} {links : List Link} {last : Option (List Node)}
    (opens : head.Says "if") (reads : head.Reads head.rest condition)
    (written : Written stop 1 head condition tokens links last)
    (distinct : (Node.blockNamesAll ((chain links last).getD [])).Nodup) :
    (Stencil.parse (head.token :: tokens)).errors = [] ∧
      (Stencil.parse (head.token :: tokens)).template.children = (chain links last).getD [] := by
  rcases written.branches with ⟨node, nested, _, branches⟩
  rw [nested] at distinct ⊢
  have forms : Forms 0 (head.token :: (tokens ++ [])) [node] :=
    .choice opens (by decide) reads branches .nil
  rw [List.append_nil] at forms
  exact Parser.parse_of_forms forms distinct

/-- The state in which the condition of a link is evaluated. -/
def begun (input : RenderInput) (link : Link) (state : RenderState) : RenderState :=
  state.begun input (.choice link.extent link.condition link.body none)

/-- That the conditions of links are evaluated once each, in order, and none of them holds. -/
inductive FallThrough (input : RenderInput) : List Link → RenderState → RenderState → Prop where
  | nil {state : RenderState} : FallThrough input [] state state
  | cons {link : Link} {rest : List Link} {decision : Value} {state middle after : RenderState}
      (decided : (evaluate input link.condition).exec (link.begun input state) =
        (.ok decision, middle))
      (falsy : decision.truthy = false) (later : FallThrough input rest middle after) :
      FallThrough input (link :: rest) state after

variable {input : RenderInput} {link : Link} {links rest : List Link}
  {otherwise : Option (List Node)} {state after : RenderState}

theorem exec_chain_cons (link : Link) (rest : List Link) (otherwise : Option (List Node))
    (state : RenderState) :
    (renderNodes input ((chain (link :: rest) otherwise).getD [])).exec state =
      (evaluate input link.condition >>= fun decision =>
        if decision.truthy then renderNodes input link.body
        else renderNodes input ((chain rest otherwise).getD [])).exec (link.begun input state) := by
  rw [chain, Option.getD_some, renderNodes_singleton, exec_choice]
  rfl

/-- Conditions that do not hold have been evaluated, and nothing else has been done. -/
theorem FallThrough.exec_chain (falls : FallThrough input links state after) :
    (renderNodes input ((chain (links ++ rest) otherwise).getD [])).exec state =
      (renderNodes input ((chain rest otherwise).getD [])).exec after := by
  induction falls with
  | nil => rfl
  | cons decided falsy later ih =>
      rw [List.cons_append, exec_chain_cons, exec_bind_ok decided, falsy]
      exact ih

/-- The body of a condition that holds is rendered, and nothing behind it matters. -/
theorem exec_chain_of_decides
    (holds : Decides input link.condition true (link.begun input state)) :
    (renderNodes input ((chain (link :: rest) otherwise).getD [])).exec state =
      (evaluate input link.condition >>= fun _ => renderNodes input link.body).exec
        (link.begun input state) := by
  rw [exec_chain_cons]
  symm
  apply exec_selected holds
  intro value truthy
  simp [truthy]

/-- Either no condition of a chain holds, or there is a first that does not fail to. -/
theorem fallThrough_or_first (links : List Link) (state : RenderState) :
    (∃ after, FallThrough input links state after) ∨
      ∃ earlier link later middle, links = earlier ++ link :: later ∧
        FallThrough input earlier state middle ∧
        Decides input link.condition true (link.begun input middle) := by
  induction links generalizing state with
  | nil => exact .inl ⟨state, .nil⟩
  | cons link rest ih =>
      rcases decided : (evaluate input link.condition).exec (link.begun input state) with
        ⟨stop | decision, middle⟩
      · refine .inr ⟨[], link, rest, state, rfl, .nil, ?_⟩
        intro value after evaluated
        rw [decided] at evaluated
        cases evaluated
      cases truth : decision.truthy with
      | true =>
          refine .inr ⟨[], link, rest, state, rfl, .nil, ?_⟩
          intro value after evaluated
          rw [decided] at evaluated
          cases evaluated
          exact truth
      | false =>
          rcases ih middle with ⟨after, falls⟩ | ⟨earlier, first, later, last, rfl, falls, holds⟩
          · exact .inl ⟨after, .cons decided truth falls⟩
          · exact .inr ⟨link :: earlier, first, later, last, rfl, .cons decided truth falls, holds⟩

end Link

/-- Renders of two templates are the same if the walks over their nodes are. -/
theorem renderFrom_congr {input : RenderInput} {state : RenderState} {nodes nodes' : List Node}
    (same : (renderNodes input nodes').exec state = (renderNodes input nodes).exec state)
    (span : Span) :
    renderFrom input ⟨nodes', span⟩ state = renderFrom input ⟨nodes, span⟩ state := by
  rw [renderFrom_eq_conclude, renderFrom_eq_conclude, same]

/-- What is not selected has no effect. A branch of a choice or ternary, or the right operand of a
logical operator, may be replaced by anything wherever it stands in a template, if the render never
selects it there: the result and the state that is left stay the same. In a chain of conditions, the
body of the first that holds is rendered after each condition up to it has been evaluated once, in
order, and if none holds, the branch behind them is. A choice that is written with further conditions
is parsed to be such a chain. -/
theorem unselected_has_no_effect (input : RenderInput) (state : RenderState) (span : Span) :
    (∀ (hole : NodeHole) (decider : Expr) (truth : Bool) (node other : Node),
      Node.DiffersWhere decider truth node other →
      (∀ here ∈ hole.reached input [node] state,
        Decides input decider (!truth) (here.begun input node)) →
      renderFrom input ⟨hole.fill [other], span⟩ state =
        renderFrom input ⟨hole.fill [node], span⟩ state) ∧
    (∀ (hole : ExprHole) (decider : Expr) (truth : Bool) (expr other : Expr),
      Expr.DiffersWhere decider truth expr other →
      (∀ here ∈ hole.reached input expr state, Decides input decider (!truth) here) →
      renderFrom input ⟨hole.fill other, span⟩ state =
        renderFrom input ⟨hole.fill expr, span⟩ state) ∧
    (∀ (links : List Link) (otherwise : Option (List Node)),
      (∃ after, Link.FallThrough input links state after ∧
        (renderNodes input ((Link.chain links otherwise).getD [])).exec state =
          (renderNodes input (otherwise.getD [])).exec after) ∨
      ∃ earlier link later middle, links = earlier ++ link :: later ∧
        Link.FallThrough input earlier state middle ∧
        Decides input link.condition true (link.begun input middle) ∧
        (renderNodes input ((Link.chain links otherwise).getD [])).exec state =
          (evaluate input link.condition >>= fun _ => renderNodes input link.body).exec
            (link.begun input middle)) ∧
    ∀ (stop : Position) (head : Statement) (condition : Expr) (tokens : List Token)
      (links : List Link) (otherwise : Option (List Node)),
      head.Says "if" → head.Reads head.rest condition →
      Link.Written stop 1 head condition tokens links otherwise →
      (Node.blockNamesAll ((Link.chain links otherwise).getD [])).Nodup →
      (parse (head.token :: tokens)).errors = [] ∧
        (parse (head.token :: tokens)).template.children =
          (Link.chain links otherwise).getD [] := by
  refine ⟨?_, ?_, ?_, ?_⟩
  · intro hole decider truth node other differs decides
    apply renderFrom_congr
    apply hole.exec_fill_congr
    intro here member
    simp only [renderNodes_singleton]
    exact differs.exec_eq (decides here member)
  · intro hole decider truth expr other differs decides
    apply renderFrom_congr
    apply hole.exec_fill_congr differs.extent_eq
    intro here member
    exact differs.exec_eq (decides here member)
  · intro links otherwise
    rcases Link.fallThrough_or_first links state with
      ⟨after, falls⟩ | ⟨earlier, link, later, middle, rfl, falls, holds⟩
    · refine .inl ⟨after, falls, ?_⟩
      have rendered : (renderNodes input ((Link.chain (links ++ []) otherwise).getD [])).exec state =
          (renderNodes input (otherwise.getD [])).exec after := falls.exec_chain
      rwa [List.append_nil] at rendered
    · refine .inr ⟨earlier, link, later, middle, rfl, falls, holds, ?_⟩
      rw [falls.exec_chain, Link.exec_chain_of_decides holds]
  · intro stop head condition tokens links otherwise opens reads written distinct
    exact written.parse opens reads distinct

/-- A statement tag at the beginning of a source. -/
def statementTag (body : String) : Statement :=
  .ofToken ⟨some .statement, body, body, 0, Position.start, Position.start, Position.start⟩

/-- The link of a tag that says a condition, with nothing in its body. -/
def emptyLink (head : Statement) : Link :=
  ⟨head.extentTo Position.start, (Parser.requiredExpression head head.rest).1, []⟩

/-- A name that is bound nowhere may stand in a branch that neither of two iterations selects, and
behind an operator that does not get to it. Two conditions that are written are a chain. -/
theorem unselected_has_no_effect_looped :
    let input : RenderInput := ⟨.object [], Registry.empty, {}⟩
    let extent : Extent := ⟨Span.empty, none⟩
    let yes : Expr := .literal extent (.bool true)
    let unbound : Expr := .access extent "z" []
    let condition : Expr := .access extent "x" []
    let hole : NodeHole := .iterated extent "x" (.array extent [yes, yes]) .here
    let node : Node := .choice extent condition [.text extent "a"] none
    let other : Node := .choice extent condition [.text extent "a"] (some [.output extent unbound])
    let operand : ExprHole := ⟨.here, .output extent, [.operand extent .not]⟩
    let expr : Expr := .binary extent .or yes yes
    let otherExpr : Expr := .binary extent .or yes unbound
    let head := statementTag " if false "
    let next := statementTag " elif true "
    let others := [(statementTag " else ").token, (statementTag " endif ").token]
    let tokens := next.token :: others
    let chain := Link.chain [emptyLink head, emptyLink next] (some [])
    (Node.DiffersWhere condition false node other ∧
      (∀ here ∈ hole.reached input [node] {}, Decides input condition true (here.begun input node)) ∧
      renderFrom input ⟨hole.fill [other], Span.empty⟩ {} =
        renderFrom input ⟨hole.fill [node], Span.empty⟩ {}) ∧
      (Expr.DiffersWhere yes false expr otherExpr ∧
        (∀ here ∈ operand.reached input expr {}, Decides input yes true here) ∧
        renderFrom input ⟨operand.fill otherExpr, Span.empty⟩ {} =
          renderFrom input ⟨operand.fill expr, Span.empty⟩ {}) ∧
      head.Says "if" ∧ head.Reads head.rest (emptyLink head).condition ∧
        (parse (head.token :: tokens)).errors = [] ∧
        (parse (head.token :: tokens)).template.children = chain.getD [] := by
  intro input extent yes unbound condition hole node other operand expr otherExpr head next others
    tokens chain
  have same := unselected_has_no_effect input {} Span.empty
  have twice : ∀ here ∈ hole.reached input [node] {},
      Decides input condition true (here.begun input node) := by
    have starts : hole.reached input [node] {} =
        [RenderState.enter { iterations := 1 } (loopFrame "x" (.bool true) 0 2),
          RenderState.enter { pushes := 1, pops := 1, iterations := 2 }
            (loopFrame "x" (.bool true) 1 2)] := rfl
    rw [starts]
    simp only [List.forall_mem_cons]
    refine ⟨?_, ?_, fun _ absurd => nomatch absurd⟩
    · rintro value after ⟨⟩
      rfl
    · rintro value after ⟨⟩
      rfl
  have once : ∀ here ∈ operand.reached input expr {}, Decides input yes true here := by
    have start : operand.reached input expr {} = [{}] := rfl
    rw [start, List.forall_mem_singleton]
    rintro value after ⟨⟩
    rfl
  have opens : head.Says "if" := Statement.says_ofToken rfl
  have reads : head.Reads head.rest (emptyLink head).condition :=
    Parser.reads_of_requiredExpression (by decide +kernel)
  have readsNext : next.Reads next.rest (emptyLink next).condition :=
    Parser.reads_of_requiredExpression (by decide +kernel)
  have last : Link.Written Position.start 2 next (emptyLink next).condition others
      [emptyLink next] (some []) :=
    .otherwise .nil (Statement.says_ofToken rfl) (Statement.isBare_iff.mp rfl) .nil
      (Statement.says_ofToken rfl) (Statement.isBare_iff.mp rfl) rfl
  have written : Link.Written Position.start 1 head (emptyLink head).condition tokens
      [emptyLink head, emptyLink next] (some []) :=
    .further .nil (Statement.says_ofToken rfl) (by decide) readsNext last
  exact ⟨⟨.otherwise, twice, same.1 hole condition false node other .otherwise twice⟩,
    ⟨.rightOfOr, once, same.2.1 operand yes false expr otherExpr .rightOfOr once⟩,
    opens, reads, same.2.2.2 _ head _ tokens _ _ opens reads written (by decide)⟩

end Stencil
