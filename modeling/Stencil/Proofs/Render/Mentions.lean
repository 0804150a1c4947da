import Stencil.Proofs.Expr.Precedence
import Stencil.Proofs.Template.Grammar
import Stencil.Render.Rendering
/-!
# Names that a template mentions

A render looks into its data for one reason only: the value of a root name of an expression that no
loop and no assignment has bound. So the data matters through the root names that the template
mentions somewhere, and two renders over data that agree about these names are the same, step by
step and from every state.
-/

namespace Stencil

open Render

/-- What data has under a name at its top. -/
def Value.top? (data : Value) (name : String) : Option Value :=
  data.object?.bind fun entries => entries.find? name

namespace Expr

/-- The root name of a variable. -/
def root? : Expr → Option String
  | access _ root _ => some root
  | _ => none

/-- The root names in an expression, those of computed keys and of arguments included. -/
def roots (expr : Expr) : List String := expr.walk.filterMap root?

end Expr

/-- The root names that a template mentions, whether a render comes to them or not. -/
def Template.roots (template : Template) : List String :=
  (template.walk.filterMap Node.expression?).flatMap Expr.roots

/-- The same input with other data. -/
def RenderInput.over (input : RenderInput) (data : Value) : RenderInput :=
  { input with data := data }

/-- That two data values have the same under each of the root names in some expressions. -/
def AgreeAbout (first second : Value) (exprs : List Expr) : Prop :=
  ∀ name ∈ exprs.filterMap Expr.root?, first.top? name = second.top? name

section Agreement

variable {first second : Value}

@[simp]
theorem agreeAbout_cons {expr : Expr} {others : List Expr} :
    AgreeAbout first second (expr :: others) ↔
      (∀ name ∈ expr.root?, first.top? name = second.top? name) ∧
        AgreeAbout first second others := by
  cases root : expr.root? with
  | none => simp [AgreeAbout, root]
  | some name => simp [AgreeAbout, root]

@[simp]
theorem agreeAbout_append {exprs others : List Expr} :
    AgreeAbout first second (exprs ++ others) ↔
      AgreeAbout first second exprs ∧ AgreeAbout first second others := by
  simp only [AgreeAbout, List.filterMap_append, List.forall_mem_append]

end Agreement

variable {input : RenderInput} {data : Value}

/-- The only step of a render that looks into the data. -/
theorem Render.access_over {root : String} (agree : data.top? root = input.data.top? root)
    (span : Span) (steps : List ResolvedStep) :
    access (input.over data) span root steps = access input span root steps := by
  have same (state : RenderState) : state.lookup data root = state.lookup input.data root := by
    unfold RenderState.lookup
    unfold Value.top? at agree
    rw [agree]
  unfold access
  simp only [RenderInput.over, same]
  rfl

mutual

/-- An expression is evaluated alike over data that agree about its root names. -/
theorem evaluate_over : (expr : Expr) → AgreeAbout data input.data expr.walk →
    evaluate (input.over data) expr = evaluate input expr
  | .literal _ value, _ => by rw [evaluate, evaluate]
  | .access extent root path, agree => by
    rw [Expr.walk, agreeAbout_cons] at agree
    have steps := evaluatePath_over path agree.2
    have found := access_over (agree.1 root rfl) extent.span
    simp only [evaluate, steps, found]
  | .filter _ inner filters, agree => by
    simp only [Expr.walk, agreeAbout_cons, agreeAbout_append] at agree
    have value := evaluate_over inner agree.2.1
    have sent (value : Value) := evaluateFilters_over value filters agree.2.2
    simp only [evaluate, value, sent]
  | .call extent name args, agree => by
    rw [Expr.walk, agreeAbout_cons] at agree
    have values := evaluateAll_over args agree.2
    simp only [evaluate, values]
    rfl
  | .binary extent op left right, agree => by
    simp only [Expr.walk, agreeAbout_cons, agreeAbout_append] at agree
    have first := evaluate_over left agree.2.1
    have second := evaluate_over right agree.2.2
    simp only [evaluate, first, second]
    rfl
  | .unary _ op operand, agree => by
    rw [Expr.walk, agreeAbout_cons] at agree
    have value := evaluate_over operand agree.2
    simp only [evaluate, value]
  | .array _ items, agree => by
    rw [Expr.walk, agreeAbout_cons] at agree
    have values := evaluateAll_over items agree.2
    simp only [evaluate, values]
  | .object _ entries, agree => by
    rw [Expr.walk, agreeAbout_cons] at agree
    have values := evaluateEntries_over entries agree.2
    simp only [evaluate, values]
  | .paren _ inner, agree => by
    rw [Expr.walk, agreeAbout_cons] at agree
    have value := evaluate_over inner agree.2
    simp only [evaluate, value]
  | .ternary _ condition thenBranch elseBranch, agree => by
    simp only [Expr.walk, agreeAbout_cons, agreeAbout_append] at agree
    have decision := evaluate_over condition agree.2.1
    have first := evaluate_over thenBranch agree.2.2.1
    have second := evaluate_over elseBranch agree.2.2.2
    simp only [evaluate, decision, first, second]
  | .malformed extent message, _ => by rw [evaluate, evaluate]

theorem evaluateAll_over : (exprs : List Expr) →
    AgreeAbout data input.data (Expr.walkAll exprs) →
      evaluateAll (input.over data) exprs = evaluateAll input exprs
  | [], _ => by rw [evaluateAll, evaluateAll]
  | expr :: rest, agree => by
    rw [Expr.walkAll, agreeAbout_append] at agree
    have value := evaluate_over expr agree.1
    have values := evaluateAll_over rest agree.2
    simp only [evaluateAll, value, values]

theorem evaluateEntries_over : (entries : List (String × Expr)) →
    AgreeAbout data input.data (Expr.walkEntries entries) →
      evaluateEntries (input.over data) entries = evaluateEntries input entries
  | [], _ => by rw [evaluateEntries, evaluateEntries]
  | (key, expr) :: rest, agree => by
    rw [Expr.walkEntries, agreeAbout_append] at agree
    have value := evaluate_over expr agree.1
    have values := evaluateEntries_over rest agree.2
    simp only [evaluateEntries, value, values]

theorem evaluatePath_over : (path : List (PathStep Expr)) →
    AgreeAbout data input.data (Expr.walkPath path) →
      evaluatePath (input.over data) path = evaluatePath input path
  | [], _ => by rw [evaluatePath, evaluatePath]
  | .property name :: rest, agree => by
    rw [Expr.walkPath] at agree
    have steps := evaluatePath_over rest agree
    simp only [evaluatePath, steps]
  | .index key :: rest, agree => by
    rw [Expr.walkPath, agreeAbout_append] at agree
    have value := evaluate_over key agree.1
    have steps := evaluatePath_over rest agree.2
    simp only [evaluatePath, value, steps]

theorem evaluateFilters_over (value : Value) : (filters : List (FilterCall Expr)) →
    AgreeAbout data input.data (Expr.walkFilters filters) →
      evaluateFilters (input.over data) value filters = evaluateFilters input value filters
  | [], _ => by rw [evaluateFilters, evaluateFilters]
  | ⟨name, args, span⟩ :: rest, agree => by
    rw [Expr.walkFilters, agreeAbout_append] at agree
    have values := evaluateAll_over args agree.1
    have sent (result : Value) := evaluateFilters_over result rest agree.2
    simp only [evaluateFilters, values, sent]
    rfl

end

/-- The expressions in nodes, those of nodes inside of them included. -/
def Node.mentions (nodes : List Node) : List Expr :=
  (nodes.filterMap Node.expression?).flatMap Expr.walk

section Mentions

variable {first second : Value}

@[simp]
theorem agreeAbout_mentions_cons {node : Node} {others : List Node} :
    AgreeAbout first second (Node.mentions (node :: others)) ↔
      (∀ expr ∈ node.expression?, AgreeAbout first second expr.walk) ∧
        AgreeAbout first second (Node.mentions others) := by
  cases expression : node.expression? with
  | none => simp [Node.mentions, expression]
  | some expr => simp [Node.mentions, expression]

@[simp]
theorem agreeAbout_mentions_append {nodes others : List Node} :
    AgreeAbout first second (Node.mentions (nodes ++ others)) ↔
      AgreeAbout first second (Node.mentions nodes) ∧
        AgreeAbout first second (Node.mentions others) := by
  simp only [Node.mentions, List.filterMap_append, List.flatMap_append, agreeAbout_append]

end Mentions

mutual

/-- A node is rendered alike over data that agree about the names that it mentions. -/
theorem renderNode_over : (node : Node) → AgreeAbout data input.data (Node.mentions node.walk) →
    renderNode (input.over data) node = renderNode input node
  | .text extent content, _ => by
    simp only [renderNode]
    rfl
  | .output extent value, agree => by
    rw [Node.walk, agreeAbout_mentions_cons] at agree
    have result := evaluate_over value (agree.1 value rfl)
    simp only [renderNode, result]
    rfl
  | .choice extent condition body none, agree => by
    rw [Node.walk, agreeAbout_mentions_cons] at agree
    have decision := evaluate_over condition (agree.1 condition rfl)
    have nodes := renderNodes_over body agree.2
    simp only [renderNode, decision, nodes]
    rfl
  | .choice extent condition body (some otherwise), agree => by
    rw [Node.walk, agreeAbout_mentions_cons, agreeAbout_mentions_append] at agree
    have decision := evaluate_over condition (agree.1 condition rfl)
    have nodes := renderNodes_over body agree.2.1
    have others := renderNodes_over otherwise agree.2.2
    simp only [renderNode, decision, nodes, others]
    rfl
  | .loop extent iterator iterable body, agree => by
    rw [Node.walk, agreeAbout_mentions_cons] at agree
    have items := evaluate_over iterable (agree.1 iterable rfl)
    have nodes := renderNodes_over body agree.2
    simp only [renderNode, items, nodes]
    rfl
  | .assignment extent name value, agree => by
    rw [Node.walk, agreeAbout_mentions_cons] at agree
    have result := evaluate_over value (agree.1 value rfl)
    simp only [renderNode, result]
    rfl
  | .block extent name body, agree => by
    rw [Node.walk, agreeAbout_mentions_cons] at agree
    have nodes := renderNodes_over body agree.2
    simp only [renderNode, nodes]
    rfl
  | .malformed extent message, _ => by
    simp only [renderNode]
    rfl

theorem renderNodes_over : (nodes : List Node) →
    AgreeAbout data input.data (Node.mentions (Node.walkAll nodes)) →
      renderNodes (input.over data) nodes = renderNodes input nodes
  | [], _ => by rw [renderNodes, renderNodes]
  | node :: rest, agree => by
    rw [Node.walkAll, agreeAbout_mentions_append] at agree
    have first := renderNode_over node agree.1
    have others := renderNodes_over rest agree.2
    simp only [renderNodes, first, others]

end

theorem Template.roots_eq_filterMap (template : Template) :
    template.roots = (Node.mentions template.walk).filterMap Expr.root? := by
  rw [Template.roots, Node.mentions, List.filterMap_flatMap]
  rfl

/-- Renders over data that agree about the root names of the template are the same: from every state
they give the same result and leave the same state. -/
theorem render_depends_on_roots (input : RenderInput) (data : Value) (template : Template)
    (agree : ∀ name ∈ template.roots, data.top? name = input.data.top? name) :
    render { input with data := data } template = render input template ∧
      ∀ state, renderFrom { input with data := data } template state =
        renderFrom input template state := by
  rw [Template.roots_eq_filterMap] at agree
  have walked := renderNodes_over template.children agree
  have same (state : RenderState) :
      renderFrom (input.over data) template state = renderFrom input template state := by
    unfold renderFrom
    rw [walked]
    rfl
  refine ⟨?_, same⟩
  unfold render
  rw [← same]
  rfl

/-- A loop whose bodies look up a computed key and have a default, and a branch that is not
taken. -/
def mentioningTemplate : String :=
  "\x7b% for a in b %\x7d\x7b\x7b a[c] | default(d) \x7d\x7d\x7b% endfor %\x7d" ++
    "\x7b% if e %\x7d\x7b\x7b f \x7d\x7d\x7b% endif %\x7d"

theorem render_depends_on_roots_unmentioned : ∃ tokens,
    tokenize {} mentioningTemplate = .ok tokens ∧
      (parse tokens).template.roots = ["b", "a", "c", "d", "e", "f"] ∧
        let items : Value := .array [.object [("x", .null)], .null]
        let first : Value := .object [("b", items), ("c", .string "x"), ("g", .bool true)]
        let second : Value := .object [("h", .null), ("c", .string "x"), ("b", items)]
        ∀ registry options, render ⟨first, registry, options⟩ (parse tokens).template =
          render ⟨second, registry, options⟩ (parse tokens).template := by
  cases scanned : tokenize {} mentioningTemplate with
  | error problem =>
      have scans : (tokenize {} mentioningTemplate).isOk = true := by decide +kernel
      rw [scanned] at scans
      cases scans
  | ok tokens =>
      have found : (tokenize {} mentioningTemplate).toOption.map (fun tokens =>
          (parse tokens).template.roots) = some ["b", "a", "c", "d", "e", "f"] := by
        decide +kernel
      rw [scanned] at found
      have roots : (parse tokens).template.roots = ["b", "a", "c", "d", "e", "f"] :=
        Option.some.inj found
      refine ⟨tokens, rfl, roots, ?_⟩
      intro items first second registry options
      refine (render_depends_on_roots ⟨second, registry, options⟩ first _ ?_).1
      intro name member
      rw [roots] at member
      simp only [List.mem_cons, List.not_mem_nil, or_false] at member
      rcases member with rfl | rfl | rfl | rfl | rfl | rfl <;> rfl

end Stencil
