import Stencil.Proofs.Render.Bodies
import Stencil.Proofs.Render.Problems
/-!
# Templates with a hole

A place in a template is told by what is around it: the template with a hole there. The hole is for
nodes or for an expression, and around it are layers, each of which is one construct with what else
is in it, or the other nodes beside the hole.

A render comes to the hole in certain states, in a loop once for each iteration that gets there.
What stands in the hole matters for nothing but what it does in these states
(`exec_fillAll_congr`, `NodeHole.exec_fill_congr` and `ExprHole.exec_fill_congr`).
-/

namespace Stencil

open Render

/-- What is done at a hole: what is in it, with something behind it, or something else instead. -/
inductive Course (α β : Type) where
  | instead (other : Render β)
  | through (rest : α → Render β)

namespace Course

variable {α β : Type}

/-- All that is done, with the hole filled: what comes before it decides what is done at it. -/
def run (surrounding : Render (Course α β)) (inside : Render α) : Render β := do
  match ← surrounding with
  | instead other => other
  | through rest => inside >>= rest

/-- The states in which what is in the hole begins, of which there is at most one. -/
def reached (surrounding : Render (Course α β)) : Starts := fun state =>
  match surrounding.exec state with
  | (.ok (through _), after) => [after]
  | _ => []

theorem exec_run_congr {surrounding : Render (Course α β)} {inside inside' : Render α}
    {state : RenderState}
    (same : ∀ here ∈ reached surrounding state, inside'.exec here = inside.exec here) :
    (run surrounding inside').exec state = (run surrounding inside).exec state := by
  unfold reached at same
  simp only [run, exec_bind]
  generalize surrounding.exec state = outcome at same ⊢
  rcases outcome with ⟨stop | other | rest, after⟩
  · rfl
  · rfl
  · have here := same after (by simp)
    simp only [exec_bind, here]

end Course

/-- One layer of an expression around a hole for an expression. -/
inductive ExprLayer where
  | filtered (extent : Extent) (filters : List (FilterCall Expr))
  | filterArgument (extent : Extent) (inner : Expr) (earlier : List (FilterCall Expr))
      (name : String) (before after : List Expr) (span : Span) (later : List (FilterCall Expr))
  | index (extent : Extent) (root : String) (before after : List (PathStep Expr))
  | argument (extent : Extent) (name : String) (before after : List Expr)
  | leftOf (extent : Extent) (op : BinaryOp) (right : Expr)
  | rightOf (extent : Extent) (op : BinaryOp) (left : Expr)
  | operand (extent : Extent) (op : UnaryOp)
  | item (extent : Extent) (before after : List Expr)
  | entry (extent : Extent) (before : List (String × Expr)) (key : String)
      (after : List (String × Expr))
  | grouped (extent : Extent)
  | decider (extent : Extent) (thenBranch elseBranch : Expr)
  | whenTrue (extent : Extent) (condition elseBranch : Expr)
  | whenFalse (extent : Extent) (condition thenBranch : Expr)

namespace ExprLayer

def fill : ExprLayer → Expr → Expr
  | filtered extent filters, expr => .filter extent expr filters
  | filterArgument extent inner earlier name before after span later, expr =>
    .filter extent inner (earlier ++ ⟨name, before ++ expr :: after, span⟩ :: later)
  | index extent root before after, expr => .access extent root (before ++ .index expr :: after)
  | argument extent name before after, expr => .call extent name (before ++ expr :: after)
  | leftOf extent op right, expr => .binary extent op expr right
  | rightOf extent op left, expr => .binary extent op left expr
  | operand extent op, expr => .unary extent op expr
  | item extent before after, expr => .array extent (before ++ expr :: after)
  | entry extent before key after, expr => .object extent (before ++ (key, expr) :: after)
  | grouped extent, expr => .paren extent expr
  | decider extent thenBranch elseBranch, expr => .ternary extent expr thenBranch elseBranch
  | whenTrue extent condition elseBranch, expr => .ternary extent condition expr elseBranch
  | whenFalse extent condition thenBranch, expr => .ternary extent condition thenBranch expr

/-- What an evaluation does around the hole. -/
def surrounding (input : RenderInput) : ExprLayer → Render (Course Value Value)
  | filtered _ filters => return .through fun value => evaluateFilters input value filters
  | filterArgument _ inner earlier name before after span later => do
    let value ← evaluate input inner
    let result ← evaluateFilters input value earlier
    let values ← evaluateAll input before
    return .through fun here => do
      let others ← evaluateAll input after
      let sent ← applyFilter input name span (values ++ here :: others) result
      evaluateFilters input sent later
  | index extent root before after => do
    let steps ← evaluatePath input before
    return .through fun here => do
      let others ← evaluatePath input after
      access input extent.span root (steps ++ .key here :: others)
  | argument extent name before after => do
    let values ← evaluateAll input before
    return .through fun here => do
      let others ← evaluateAll input after
      applyCall input extent.span name (extent.sourceOr name) (values ++ here :: others)
  | leftOf extent op right =>
    return .through fun first =>
      match op.settled? first with
      | some value => return value
      | none => do
        let second ← evaluate input right
        applyBinary input extent.span op (extent.sourceOr op.symbol) first second
  | rightOf extent op left => do
    let first ← evaluate input left
    match op.settled? first with
    | some value => return .instead (return value)
    | none =>
      return .through fun second =>
        applyBinary input extent.span op (extent.sourceOr op.symbol) first second
  | operand _ op => return .through fun value => return op.apply value
  | item _ before after => do
    let values ← evaluateAll input before
    return .through fun here => do
      let others ← evaluateAll input after
      return .array (values ++ here :: others)
  | entry _ before key after => do
    let values ← evaluateEntries input before
    return .through fun here => do
      let others ← evaluateEntries input after
      return .object (Entries.ofList (values ++ (key, here) :: others))
  | grouped _ => return .through fun value => return value
  | decider _ thenBranch elseBranch =>
    return .through fun decision =>
      if decision.truthy then evaluate input thenBranch else evaluate input elseBranch
  | whenTrue _ condition elseBranch => do
    let decision ← evaluate input condition
    if decision.truthy then return .through fun value => return value
    else return .instead (evaluate input elseBranch)
  | whenFalse _ condition thenBranch => do
    let decision ← evaluate input condition
    if decision.truthy then return .instead (evaluate input thenBranch)
    else return .through fun value => return value

end ExprLayer

section Lists

variable (input : RenderInput)

theorem evaluateAll_append (exprs others : List Expr) :
    evaluateAll input (exprs ++ others) = do
      let values ← evaluateAll input exprs
      let more ← evaluateAll input others
      return values ++ more := by
  induction exprs with
  | nil => simp [evaluateAll]
  | cons expr rest ih => simp [evaluateAll, ih]

theorem evaluateEntries_append (entries others : List (String × Expr)) :
    evaluateEntries input (entries ++ others) = do
      let values ← evaluateEntries input entries
      let more ← evaluateEntries input others
      return values ++ more := by
  induction entries with
  | nil => simp [evaluateEntries]
  | cons entry rest ih => simp [evaluateEntries, ih]

theorem evaluatePath_append (path others : List (PathStep Expr)) :
    evaluatePath input (path ++ others) = do
      let steps ← evaluatePath input path
      let more ← evaluatePath input others
      return steps ++ more := by
  induction path with
  | nil => simp [evaluatePath]
  | cons step rest ih => cases step <;> simp [evaluatePath, ih]

theorem evaluateFilters_append (value : Value) (filters others : List (FilterCall Expr)) :
    evaluateFilters input value (filters ++ others) =
      (evaluateFilters input value filters >>= fun result =>
        evaluateFilters input result others) := by
  induction filters generalizing value with
  | nil => simp [evaluateFilters]
  | cons filter rest ih =>
      rcases filter with ⟨name, args, span⟩
      simp [evaluateFilters, ih]

theorem renderNodes_append (nodes others : List Node) :
    renderNodes input (nodes ++ others) = do
      let text ← renderNodes input nodes
      let more ← renderNodes input others
      return text ++ more := by
  induction nodes with
  | nil => simp [renderNodes, -bind_pure_comp]
  | cons node rest ih => simp [renderNodes, ih, String.append_assoc, -bind_pure_comp]

theorem renderNodes_singleton (node : Node) :
    renderNodes input [node] = renderNode input node := by
  simp [renderNodes]

end Lists

/-- An evaluation with a hole in it does what is in the hole, and what its layer does around it. -/
theorem ExprLayer.evaluate_fill (input : RenderInput) (layer : ExprLayer) (expr : Expr) :
    evaluate input (layer.fill expr) = Course.run (layer.surrounding input) (evaluate input expr) := by
  cases layer with
  | filterArgument extent inner earlier name before after span later =>
      simp [fill, surrounding, Course.run, evaluate, evaluateFilters_append, evaluateFilters,
        evaluateAll_append, evaluateAll]
  | index extent root before after =>
      simp [fill, surrounding, Course.run, evaluate, evaluatePath_append, evaluatePath]
  | argument extent name before after =>
      simp [fill, surrounding, Course.run, evaluate, evaluateAll_append, evaluateAll]
  | item extent before after =>
      simp [fill, surrounding, Course.run, evaluate, evaluateAll_append, evaluateAll]
  | entry extent before key after =>
      simp [fill, surrounding, Course.run, evaluate, evaluateEntries_append, evaluateEntries]
  | rightOf extent op left =>
      simp only [fill, surrounding, Course.run, evaluate, bind_assoc]
      congr 1
      funext first
      cases op.settled? first <;> simp
  | whenTrue extent condition elseBranch =>
      simp only [fill, surrounding, Course.run, evaluate, bind_assoc]
      congr 1
      funext decision
      split <;> simp
  | whenFalse extent condition thenBranch =>
      simp only [fill, surrounding, Course.run, evaluate, bind_assoc]
      congr 1
      funext decision
      split <;> simp
  | leftOf extent op right =>
      rw [fill, evaluate]
      exact (pure_bind _ _).symm
  | _ => simp [fill, surrounding, Course.run, evaluate]

/-- A node with a hole for its expression. -/
inductive NodeSlot where
  | output (extent : Extent)
  | condition (extent : Extent) (body : List Node) (otherwise : Option (List Node))
  | iterable (extent : Extent) (iterator : String) (body : List Node)
  | value (extent : Extent) (name : String)

namespace NodeSlot

def fill : NodeSlot → Expr → Node
  | output extent, expr => .output extent expr
  | condition extent body otherwise, expr => .choice extent expr body otherwise
  | iterable extent iterator body, expr => .loop extent iterator expr body
  | value extent name, expr => .assignment extent name expr

/-- What a render does around the hole. What is looped over is left out where there is no room for
another loop. `extent` is that of the expression in the hole, which the problems of a loop name. -/
def surrounding (input : RenderInput) (filled : Extent) : NodeSlot → Render (Course Value String)
  | output extent => do
    trace input ("render expression at " ++ extent.span.start.text)
    return .through fun value => return input.options.shown value
  | condition extent body otherwise => do
    trace input ("render if at " ++ extent.span.start.text)
    return .through fun decision =>
      if decision.truthy then renderNodes input body else renderNodes input (otherwise.getD [])
  | iterable extent iterator body => do
    trace input ("render for at " ++ extent.span.start.text)
    if input.options.maxDepth ≤ (← get).depth then
      return .instead do
        report input (Problems.tooDeep input extent.span (filled.sourceOr iterator))
        return ""
    else
      return .through fun value =>
        match value with
        | .array values =>
          iterate (countIteration input extent.span (filled.sourceOr iterator))
            (renderNodes input body) iterator values.length 0 values ""
        | other => do
          report input (Problems.noArray filled.span (filled.sourceOr iterator) other)
          return ""
  | value extent name => do
    trace input ("render set at " ++ extent.span.start.text)
    return .through fun result => do
      modify fun state => state.assign name result
      return ""

end NodeSlot

theorem NodeSlot.renderNode_fill (input : RenderInput) (slot : NodeSlot) (expr : Expr) :
    renderNode input (slot.fill expr) =
      Course.run (slot.surrounding input expr.extent) (evaluate input expr) := by
  cases slot with
  | condition extent body otherwise =>
      simp [fill, surrounding, Course.run, renderNode_choice]
  | iterable extent iterator body =>
      simp only [fill, surrounding, Course.run, renderNode, loop, bind_assoc]
      congr 1
      funext _
      congr 1
      funext state
      split
      · exact (pure_bind _ _).symm
      · exact (pure_bind _ _).symm
  | _ => simp [fill, surrounding, Course.run, renderNode]

/-- One layer of a template around a hole for nodes, other than a loop. -/
inductive NodeLayer where
  /-- Other nodes beside the hole. -/
  | among (before after : List Node)
  | body (extent : Extent) (condition : Expr) (otherwise : Option (List Node))
  | otherwise (extent : Extent) (condition : Expr) (body : List Node)
  | block (extent : Extent) (name : String)

namespace NodeLayer

def fill : NodeLayer → List Node → List Node
  | among before after, nodes => before ++ (nodes ++ after)
  | body extent condition others, nodes => [.choice extent condition nodes others]
  | otherwise extent condition first, nodes => [.choice extent condition first (some nodes)]
  | block extent name, nodes => [.block extent name nodes]

/-- What a render does around the hole. -/
def surrounding (input : RenderInput) : NodeLayer → Render (Course String String)
  | among before after => do
    let text ← renderNodes input before
    return .through fun here => do
      let more ← renderNodes input after
      return text ++ (here ++ more)
  | body extent condition others => do
    trace input ("render if at " ++ extent.span.start.text)
    let decision ← evaluate input condition
    if decision.truthy then return .through fun text => return text
    else return .instead (renderNodes input (others.getD []))
  | otherwise extent condition first => do
    trace input ("render if at " ++ extent.span.start.text)
    let decision ← evaluate input condition
    if decision.truthy then return .instead (renderNodes input first)
    else return .through fun text => return text
  | block extent _ => do
    trace input ("render block at " ++ extent.span.start.text)
    return .through fun text => return text

theorem renderNodes_fill (input : RenderInput) (layer : NodeLayer) (nodes : List Node) :
    renderNodes input (layer.fill nodes) =
      Course.run (layer.surrounding input) (renderNodes input nodes) := by
  cases layer with
  | among before after =>
      simp [fill, surrounding, Course.run, renderNodes_append]
  | body extent condition others =>
      simp only [fill, surrounding, Course.run, renderNodes_singleton, renderNode_choice, bind_assoc]
      congr 1
      funext _
      congr 1
      funext decision
      split <;> simp
  | otherwise extent condition first =>
      simp only [fill, surrounding, Course.run, renderNodes_singleton, renderNode_choice, bind_assoc]
      congr 1
      funext _
      congr 1
      funext decision
      split <;> simp
  | block extent name =>
      simp [fill, surrounding, Course.run, renderNodes_singleton, renderNode]

end NodeLayer

/-- The starts of something that begins in certain states itself. -/
def Starts.inside (outer inner : Starts) : Starts := fun state => (outer state).flatMap inner

/-- The states in which the body of a loop starts. -/
def Starts.ofBody (input : RenderInput) (extent : Extent) (iterator : String) (iterable : Expr)
    (body : List Node) : Starts :=
  Starts.none.bind (trace input ("render for at " ++ extent.span.start.text)) fun _ =>
    Starts.ofLoop input extent.span (iterable.extent.sourceOr iterator) iterator
      (evaluate input iterable) (renderNodes input body) Starts.none

theorem Starts.ofBody_begun (input : RenderInput) (extent : Extent) (iterator : String)
    (iterable : Expr) (body : List Node) (state : RenderState) :
    Starts.ofBody input extent iterator iterable body state =
      Starts.ofLoop input extent.span (iterable.extent.sourceOr iterator) iterator
        (evaluate input iterable) (renderNodes input body) Starts.none
          (state.begun input (.loop extent iterator iterable body)) := by
  have begins : (trace input ("render for at " ++ extent.span.start.text)).exec state =
      (.ok (), state.begun input (.loop extent iterator iterable body)) :=
    exec_trace_begun input (.loop extent iterator iterable body) state
  simp only [Starts.ofBody, Starts.bind, Starts.none, begins, List.nil_append]

/-- A template with a hole for nodes. -/
inductive NodeHole where
  | here
  | under (layer : NodeLayer) (inner : NodeHole)
  | iterated (extent : Extent) (iterator : String) (iterable : Expr) (inner : NodeHole)

namespace NodeHole

def fill : NodeHole → List Node → List Node
  | here, nodes => nodes
  | under layer inner, nodes => layer.fill (inner.fill nodes)
  | iterated extent iterator iterable inner, nodes =>
    [.loop extent iterator iterable (inner.fill nodes)]

/-- The states in which the nodes in the hole begin. -/
def reached (input : RenderInput) : NodeHole → List Node → Starts
  | here, _ => fun state => [state]
  | under layer inner, nodes =>
    (Course.reached (layer.surrounding input)).inside (inner.reached input nodes)
  | iterated extent iterator iterable inner, nodes =>
    (Starts.ofBody input extent iterator iterable (inner.fill nodes)).inside
      (inner.reached input nodes)

end NodeHole

section Loops

variable {input : RenderInput} {body body' : Render String} {state : RenderState}

theorem exec_iterate_congr {start : Render Unit} {iterator : String} {length index : Nat}
    {items : List Value} {done : String}
    (same : ∀ here ∈ Starts.ofIterations start body Starts.none iterator length index items state,
      body'.exec here = body.exec here) :
    (iterate start body' iterator length index items done).exec state =
      (iterate start body iterator length index items done).exec state := by
  induction items generalizing index done state with
  | nil => rfl
  | cons item rest ih =>
      simp only [Starts.ofIterations, Starts.bind, Starts.within, Starts.none, List.nil_append]
        at same
      simp only [iterate, exec_bind]
      generalize start.exec state = began at same ⊢
      rcases began with ⟨stop | _, counted⟩
      · rfl
      · -- The body of this iteration does the same, and so the next one begins in the same state.
        simp only [exec_within, List.cons_append, List.nil_append, List.forall_mem_cons] at same ⊢
        rw [same.1]
        have later := same.2
        generalize body.exec (counted.enter (loopFrame iterator item index length)) = rendered
          at later ⊢
        rcases rendered with ⟨stop | piece, left⟩
        · rfl
        · exact ih later

theorem exec_loop_congr {span source : Span} {path iterator : String} {items : Render Value}
    (same : ∀ here ∈ Starts.ofLoop input span path iterator items body Starts.none state,
      body'.exec here = body.exec here) :
    (loop input span source path iterator items body').exec state =
      (loop input span source path iterator items body).exec state := by
  unfold Starts.ofLoop at same
  unfold loop
  simp only [exec_bind_ok (exec_get state)]
  split
  · rfl
  · rename_i room
    simp only [room, if_false, Starts.bind, Starts.none, List.nil_append] at same
    simp only [exec_bind]
    generalize items.exec state = evaluated at same ⊢
    rcases evaluated with ⟨stop | value, after⟩
    · rfl
    · cases value with
      | array values => exact exec_iterate_congr same
      | _ => rfl

end Loops

variable {input : RenderInput} {state : RenderState}

/-- What stands in a hole for nodes matters only for what it does where a render comes to it. -/
theorem NodeHole.exec_fill_congr (hole : NodeHole) {nodes nodes' : List Node}
    (same : ∀ here ∈ hole.reached input nodes state,
      (renderNodes input nodes').exec here = (renderNodes input nodes).exec here) :
    (renderNodes input (hole.fill nodes')).exec state =
      (renderNodes input (hole.fill nodes)).exec state := by
  induction hole generalizing state with
  | here => exact same state (by simp [reached])
  | under layer inner ih =>
      simp only [fill, NodeLayer.renderNodes_fill]
      apply Course.exec_run_congr
      intro here member
      apply ih
      intro deeper memberDeeper
      exact same deeper (List.mem_flatMap.mpr ⟨here, member, memberDeeper⟩)
  | iterated extent iterator iterable inner ih =>
      simp only [fill, renderNodes_singleton, exec_loop_begun]
      apply exec_loop_congr
      intro here member
      apply ih
      intro deeper memberDeeper
      apply same deeper
      apply List.mem_flatMap.mpr
      refine ⟨here, ?_, memberDeeper⟩
      rw [Starts.ofBody_begun]
      exact member

/-- An expression with a hole for an expression: its layers, the outermost first. -/
abbrev ExprLayers := List ExprLayer

namespace ExprLayers

def fill (layers : ExprLayers) (expr : Expr) : Expr := layers.foldr ExprLayer.fill expr

/-- The states in which the expression in the hole begins. -/
def reached (input : RenderInput) (layers : ExprLayers) : Starts :=
  layers.foldr (fun layer inner => (Course.reached (layer.surrounding input)).inside inner)
    fun state => [state]

theorem exec_fill_congr (layers : ExprLayers) {expr expr' : Expr}
    (same : ∀ here ∈ reached input layers state,
      (evaluate input expr').exec here = (evaluate input expr).exec here) :
    (evaluate input (fill layers expr')).exec state =
      (evaluate input (fill layers expr)).exec state := by
  induction layers generalizing state with
  | nil => exact same state (by simp [reached])
  | cons layer inner ih =>
      simp only [fill, List.foldr_cons, ExprLayer.evaluate_fill]
      apply Course.exec_run_congr
      intro here member
      apply ih
      intro deeper memberDeeper
      exact same deeper (List.mem_flatMap.mpr ⟨here, member, memberDeeper⟩)

theorem extent_fill (layers : ExprLayers) {expr expr' : Expr}
    (same : expr'.extent = expr.extent) : (fill layers expr').extent = (fill layers expr).extent := by
  cases layers with
  | nil => exact same
  | cons layer inner => cases layer <;> rfl

end ExprLayers

/-- A template with a hole for an expression. -/
structure ExprHole where
  nodes : NodeHole
  slot : NodeSlot
  layers : ExprLayers

namespace ExprHole

def fill (hole : ExprHole) (expr : Expr) : List Node :=
  hole.nodes.fill [hole.slot.fill (hole.layers.fill expr)]

/-- The states in which the expression in the hole begins. -/
def reached (input : RenderInput) (hole : ExprHole) (expr : Expr) : Starts :=
  let filled := hole.layers.fill expr
  (hole.nodes.reached input [hole.slot.fill filled]).inside
    ((Course.reached (hole.slot.surrounding input filled.extent)).inside
      (hole.layers.reached input))

/-- What stands in a hole for an expression matters only for what it does where a render comes to
it, and for where it comes from. -/
theorem exec_fill_congr (hole : ExprHole) {expr expr' : Expr} (origin : expr'.extent = expr.extent)
    (same : ∀ here ∈ hole.reached input expr state,
      (evaluate input expr').exec here = (evaluate input expr).exec here) :
    (renderNodes input (hole.fill expr')).exec state =
      (renderNodes input (hole.fill expr)).exec state := by
  apply NodeHole.exec_fill_congr
  intro here member
  simp only [renderNodes_singleton, NodeSlot.renderNode_fill, hole.layers.extent_fill origin]
  apply Course.exec_run_congr
  intro inside memberInside
  apply ExprLayers.exec_fill_congr
  intro deeper memberDeeper
  apply same
  exact List.mem_flatMap.mpr ⟨here, member, List.mem_flatMap.mpr ⟨inside, memberInside, memberDeeper⟩⟩

end ExprHole

end Stencil
