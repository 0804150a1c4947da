import Stencil.Proofs.Render.Bodies
/-!
# Two renders side by side

Two renders of one template, each under an input of its own, take the same steps as long as nothing
parts them. `EvaluationCoupling` and `RenderingCoupling` say of a relation between the steps of the
two that it chains along steps and holds of the single steps; then it holds of whole expressions and
of whole templates. So the induction over trees is done here once for every comparison of two
renders.

A comparison of templates may also tell of the states in which the bodies of loops start, in the two
renders.
-/

namespace Stencil

open Render

/-- A relation between the steps of two renders that chains, and in which the single steps of an
evaluation are. -/
structure EvaluationCoupling (first second : RenderInput)
    (Related : ∀ {α : Type}, Render α → Render α → Prop) : Prop where
  pure {α : Type} (value : α) : Related (Pure.pure value) (Pure.pure value)
  bind {α β : Type} {action action' : Render α} {next next' : α → Render β} :
    Related action action' → (∀ value, Related (next value) (next' value)) →
      Related (action >>= next) (action' >>= next')
  note (line : String) : Related (Render.note line) (Render.note line)
  trace (line : String) : Related (Render.trace first line) (Render.trace second line)
  report (error : RenderError) :
    Related (Render.report first error) (Render.report second error)
  call (name : String) (value : Value) (args : List Value) :
    Related (Render.call first name value args) (Render.call second name value args)
  access (span : Span) (root : String) (steps : List ResolvedStep) :
    Related (Render.access first span root steps) (Render.access second span root steps)

variable {first second : RenderInput} {Related : ∀ {α : Type}, Render α → Render α → Prop}

namespace EvaluationCoupling

variable (coupling : EvaluationCoupling first second Related)

include coupling

theorem applyFilter (name : String) (span : Span) (args : List Value) (value : Value) :
    Related (Render.applyFilter first name span args value)
      (Render.applyFilter second name span args value) := by
  unfold Render.applyFilter
  apply coupling.bind (coupling.trace _)
  intro _
  apply coupling.bind (coupling.call name value args)
  intro answer
  split
  · exact coupling.pure _
  · exact coupling.bind (coupling.report _) fun _ => coupling.pure _

theorem applyCall (span : Span) (name source : String) (args : List Value) :
    Related (Render.applyCall first span name source args)
      (Render.applyCall second span name source args) := by
  unfold Render.applyCall
  apply coupling.bind (coupling.trace _)
  intro _
  apply coupling.bind (coupling.call name _ _)
  intro answer
  split
  · exact coupling.pure _
  · exact coupling.bind (coupling.report _) fun _ => coupling.pure _

theorem applyBinary (span : Span) (op : BinaryOp) (source : String) (left right : Value) :
    Related (Render.applyBinary first span op source left right)
      (Render.applyBinary second span op source left right) := by
  unfold Render.applyBinary
  split
  · exact coupling.pure _
  · exact coupling.bind (coupling.report _) fun _ => coupling.pure _

end EvaluationCoupling

mutual

/-- The evaluations of an expression are related if their single steps are. -/
theorem evaluate_coupled (coupling : EvaluationCoupling first second Related) :
    (expr : Expr) → Related (evaluate first expr) (evaluate second expr)
  | .literal _ value => by
    simp only [evaluate]
    exact coupling.pure _
  | .access extent root path => by
    simp only [evaluate]
    exact coupling.bind (evaluatePath_coupled coupling path) fun steps =>
      coupling.access _ root steps
  | .filter _ inner filters => by
    simp only [evaluate]
    exact coupling.bind (evaluate_coupled coupling inner) fun value =>
      evaluateFilters_coupled coupling value filters
  | .call extent name args => by
    simp only [evaluate]
    exact coupling.bind (evaluateAll_coupled coupling args) fun values =>
      coupling.applyCall _ name _ values
  | .binary extent op left right => by
    simp only [evaluate]
    apply coupling.bind (evaluate_coupled coupling left)
    intro value
    split
    · exact coupling.pure _
    · exact coupling.bind (evaluate_coupled coupling right) fun other =>
        coupling.applyBinary _ op _ value other
  | .unary _ op operand => by
    simp only [evaluate]
    exact coupling.bind (evaluate_coupled coupling operand) fun _ => coupling.pure _
  | .array _ items => by
    simp only [evaluate]
    exact coupling.bind (evaluateAll_coupled coupling items) fun _ => coupling.pure _
  | .object _ entries => by
    simp only [evaluate]
    exact coupling.bind (evaluateEntries_coupled coupling entries) fun _ => coupling.pure _
  | .paren _ inner => by
    simp only [evaluate]
    exact evaluate_coupled coupling inner
  | .ternary _ condition thenBranch elseBranch => by
    simp only [evaluate]
    apply coupling.bind (evaluate_coupled coupling condition)
    intro decision
    split
    · exact evaluate_coupled coupling thenBranch
    · exact evaluate_coupled coupling elseBranch
  | .malformed extent message => by
    simp only [evaluate]
    exact coupling.bind (coupling.note _) fun _ => coupling.pure _

theorem evaluateAll_coupled (coupling : EvaluationCoupling first second Related) :
    (exprs : List Expr) → Related (evaluateAll first exprs) (evaluateAll second exprs)
  | [] => by
    simp only [evaluateAll]
    exact coupling.pure _
  | expr :: rest => by
    simp only [evaluateAll]
    apply coupling.bind (evaluate_coupled coupling expr)
    intro value
    exact coupling.bind (evaluateAll_coupled coupling rest) fun _ => coupling.pure _

theorem evaluateEntries_coupled (coupling : EvaluationCoupling first second Related) :
    (entries : List (String × Expr)) →
      Related (evaluateEntries first entries) (evaluateEntries second entries)
  | [] => by
    simp only [evaluateEntries]
    exact coupling.pure _
  | (key, expr) :: rest => by
    simp only [evaluateEntries]
    apply coupling.bind (evaluate_coupled coupling expr)
    intro value
    exact coupling.bind (evaluateEntries_coupled coupling rest) fun _ => coupling.pure _

theorem evaluatePath_coupled (coupling : EvaluationCoupling first second Related) :
    (path : List (PathStep Expr)) → Related (evaluatePath first path) (evaluatePath second path)
  | [] => by
    simp only [evaluatePath]
    exact coupling.pure _
  | .property name :: rest => by
    simp only [evaluatePath]
    exact coupling.bind (evaluatePath_coupled coupling rest) fun _ => coupling.pure _
  | .index key :: rest => by
    simp only [evaluatePath]
    apply coupling.bind (evaluate_coupled coupling key)
    intro value
    exact coupling.bind (evaluatePath_coupled coupling rest) fun _ => coupling.pure _

theorem evaluateFilters_coupled (coupling : EvaluationCoupling first second Related)
    (value : Value) : (filters : List (FilterCall Expr)) →
      Related (evaluateFilters first value filters) (evaluateFilters second value filters)
  | [] => by
    simp only [evaluateFilters]
    exact coupling.pure _
  | ⟨name, args, span⟩ :: rest => by
    simp only [evaluateFilters]
    apply coupling.bind (evaluateAll_coupled coupling args)
    intro values
    apply coupling.bind (coupling.applyFilter name span values value)
    intro result
    exact evaluateFilters_coupled coupling result rest

end

namespace Starts

variable {α β : Type}

/-- A step without loops behind another adds no starts to it. -/
theorem bind_none (starts : Starts) (action : Render α) :
    (starts.bind action fun _ => Starts.none) = starts := by
  funext state
  unfold Starts.bind
  split <;> simp [Starts.none]

theorem bind_assoc (starts : Starts) (action : Render α) (next : α → Render β)
    (middle : α → Starts) (later : β → Starts) :
    ((starts.bind action middle).bind (action >>= next) later) =
      starts.bind action fun value => (middle value).bind (next value) later := by
  funext state
  unfold Starts.bind
  rw [exec_bind]
  rcases action.exec state with ⟨_ | value, after⟩
  · simp
  · simp

/-- The starts of a loop's iterations, left out if there is no room for another loop. -/
def capped (input : RenderInput) (rest : Starts) : Starts := fun state =>
  if input.options.maxDepth ≤ state.depth then [] else rest state

end Starts

namespace Render

/-- What comes of a loop: `rest` if there is room for another loop, and a problem otherwise. -/
def capped (input : RenderInput) (span : Span) (path : String) (rest : Render String) :
    Render String := do
  if input.options.maxDepth ≤ (← get).depth then
    report input ((RenderError.runtime
      ("loop nesting exceeds the maximum depth of " ++ toString input.options.maxDepth)
      path).located span)
    return ""
  else rest

/-- One iteration of a loop: it is counted, and the body is rendered in a frame. -/
def round (input : RenderInput) (span : Span) (path : String) (frame : Entries Value)
    (body : Render String) : Render String :=
  countIteration input span path >>= fun _ => within frame body

theorem iterate_cons (input : RenderInput) (span : Span) (path : String) (body : Render String)
    (iterator : String) (length index : Nat) (item : Value) (rest : List Value) (done : String) :
    iterate (countIteration input span path) body iterator length index (item :: rest) done =
      (round input span path (loopFrame iterator item index length) body >>= fun piece =>
        iterate (countIteration input span path) body iterator length (index + 1) rest
          (done ++ piece)) := by
  rw [iterate, round, bind_assoc]

end Render

/-- The starts of one iteration of a loop: its body, and those in it. -/
def Starts.round (input : RenderInput) (span : Span) (path : String) (frame : Entries Value)
    (inside : Starts) : Starts :=
  Starts.none.bind (countIteration input span path) fun _ => Starts.within frame inside

theorem Starts.ofIterations_cons (input : RenderInput) (span : Span) (path : String)
    (body : Render String) (inside : Starts) (iterator : String) (length index : Nat) (item : Value)
    (rest : List Value) :
    Starts.ofIterations (countIteration input span path) body inside iterator length index
        (item :: rest) =
      (Starts.round input span path (loopFrame iterator item index length) inside).bind
        (Render.round input span path (loopFrame iterator item index length) body) fun _ =>
          Starts.ofIterations (countIteration input span path) body inside iterator length
            (index + 1) rest := by
  rw [Starts.ofIterations, Starts.round, Render.round, Starts.bind_assoc]

/-- A relation between the steps of two renders, with the starts told of them, that chains, and in
which the single steps of a render are. An iteration is a single step if the same holds of its
body. -/
structure RenderingCoupling (first second : RenderInput)
    (Related : ∀ {α : Type}, Render α → Render α → Prop)
    (Coupled : ∀ {α : Type}, Starts → Render α → Starts → Render α → Prop) : Prop
    extends EvaluationCoupling first second Related where
  shown (value : Value) : first.options.shown value = second.options.shown value
  assign (name : String) (value : Value) :
    Related (modify fun state => state.assign name value)
      (modify fun state => state.assign name value)
  evaluation {α : Type} {action action' : Render α} :
    Related action action' → Coupled Starts.none action Starts.none action'
  chain {α β : Type} {starts starts' : Starts} {action action' : Render α}
    {later later' : α → Starts} {next next' : α → Render β} :
    Coupled starts action starts' action' →
      (∀ value, Coupled (later value) (next value) (later' value) (next' value)) →
        Coupled (starts.bind action later) (action >>= next)
          (starts'.bind action' later') (action' >>= next')
  round (span : Span) (path : String) (frame : Entries Value) {inside inside' : Starts}
    {body body' : Render String} : Coupled inside body inside' body' →
      Coupled (Starts.round first span path frame inside) (Render.round first span path frame body)
        (Starts.round second span path frame inside')
        (Render.round second span path frame body')
  capped (span : Span) (path : String) {starts starts' : Starts} {rest rest' : Render String} :
    Coupled starts rest starts' rest' →
      Coupled (starts.capped first) (Render.capped first span path rest)
        (starts'.capped second) (Render.capped second span path rest')

namespace RenderingCoupling

variable {Coupled : ∀ {α : Type}, Starts → Render α → Starts → Render α → Prop}
  (coupling : RenderingCoupling first second Related Coupled)

include coupling

/-- A step whose last parts have no loops. -/
theorem andThen {α β : Type} {starts starts' : Starts} {action action' : Render α}
    {next next' : α → Render β} (here : Coupled starts action starts' action')
    (rest : ∀ value, Related (next value) (next' value)) :
    Coupled starts (action >>= next) starts' (action' >>= next') := by
  have coupled := coupling.chain here fun value => coupling.evaluation (rest value)
  rwa [Starts.bind_none, Starts.bind_none] at coupled

/-- A step whose first part has no loops. -/
theorem behind {α β : Type} {action action' : Render α} {later later' : α → Starts}
    {next next' : α → Render β} (here : Related action action')
    (rest : ∀ value, Coupled (later value) (next value) (later' value) (next' value)) :
    Coupled (Starts.none.bind action later) (action >>= next)
      (Starts.none.bind action' later') (action' >>= next') :=
  coupling.chain (coupling.evaluation here) rest

theorem iterate (span : Span) (path : String) {inside inside' : Starts}
    {body body' : Render String} (bodies : Coupled inside body inside' body') (iterator : String)
    (length index : Nat) (items : List Value) (done : String) :
    Coupled
      (Starts.ofIterations (countIteration first span path) body inside iterator length index items)
      (Render.iterate (countIteration first span path) body iterator length index items done)
      (Starts.ofIterations (countIteration second span path) body' inside' iterator length index
        items)
      (Render.iterate (countIteration second span path) body' iterator length index items
        done) := by
  induction items generalizing index done with
  | nil =>
      simp only [Render.iterate, Starts.ofIterations]
      exact coupling.evaluation (coupling.pure done)
  | cons item rest ih =>
      simp only [Render.iterate_cons, Starts.ofIterations_cons]
      apply coupling.chain (coupling.round span path _ bodies)
      intro piece
      exact ih (index + 1) (done ++ piece)

theorem loop (span source : Span) (path iterator : String) {items items' : Render Value}
    {inside inside' : Starts} {body body' : Render String} (evaluated : Related items items')
    (bodies : Coupled inside body inside' body') :
    Coupled (Starts.ofLoop first span path iterator items body inside)
      (Render.loop first span source path iterator items body)
      (Starts.ofLoop second span path iterator items' body' inside')
      (Render.loop second span source path iterator items' body') := by
  apply coupling.capped span path
  apply coupling.behind evaluated
  intro value
  cases value with
  | array values => exact coupling.iterate span path bodies iterator values.length 0 values ""
  | _ =>
      apply coupling.evaluation
      exact coupling.bind (coupling.report _) fun _ => coupling.pure _

end RenderingCoupling

variable {Coupled : ∀ {α : Type}, Starts → Render α → Starts → Render α → Prop}

mutual

/-- The renders of a node are coupled if their single steps are. -/
theorem renderNode_coupled (coupling : RenderingCoupling first second Related Coupled) :
    (node : Node) → Coupled (nodeStarts first node) (renderNode first node)
      (nodeStarts second node) (renderNode second node)
  | .text extent content => by
    simp only [renderNode, nodeStarts]
    apply coupling.evaluation
    exact coupling.bind (coupling.trace _) fun _ => coupling.pure _
  | .output extent value => by
    simp only [renderNode, nodeStarts, coupling.shown]
    apply coupling.evaluation
    apply coupling.bind (coupling.trace _)
    intro _
    exact coupling.bind (evaluate_coupled coupling.toEvaluationCoupling value) fun _ =>
      coupling.pure _
  | .choice extent condition body otherwise => by
    have decided := evaluate_coupled coupling.toEvaluationCoupling condition
    cases otherwise with
    | none =>
        simp only [renderNode, nodeStarts]
        apply coupling.behind (coupling.trace _)
        intro _
        apply coupling.behind decided
        intro decision
        split
        · exact renderNodes_coupled coupling body
        · exact coupling.evaluation (coupling.pure _)
    | some nodes =>
        simp only [renderNode, nodeStarts]
        apply coupling.behind (coupling.trace _)
        intro _
        apply coupling.behind decided
        intro decision
        split
        · exact renderNodes_coupled coupling body
        · exact renderNodes_coupled coupling nodes
  | .loop extent iterator iterable body => by
    simp only [renderNode, nodeStarts]
    apply coupling.behind (coupling.trace _)
    intro _
    exact coupling.loop _ _ _ iterator (evaluate_coupled coupling.toEvaluationCoupling iterable)
      (renderNodes_coupled coupling body)
  | .assignment extent name value => by
    simp only [renderNode, nodeStarts]
    apply coupling.evaluation
    apply coupling.bind (coupling.trace _)
    intro _
    apply coupling.bind (evaluate_coupled coupling.toEvaluationCoupling value)
    intro result
    exact coupling.bind (coupling.assign name result) fun _ => coupling.pure _
  | .block extent name body => by
    simp only [renderNode, nodeStarts]
    apply coupling.behind (coupling.trace _)
    intro _
    exact renderNodes_coupled coupling body
  | .malformed extent message => by
    simp only [renderNode, nodeStarts]
    apply coupling.evaluation
    apply coupling.bind (coupling.trace _)
    intro _
    exact coupling.bind (coupling.note _) fun _ => coupling.pure _

theorem renderNodes_coupled (coupling : RenderingCoupling first second Related Coupled) :
    (nodes : List Node) → Coupled (nodesStarts first nodes) (renderNodes first nodes)
      (nodesStarts second nodes) (renderNodes second nodes)
  | [] => by
    simp only [renderNodes, nodesStarts]
    exact coupling.evaluation (coupling.pure _)
  | node :: rest => by
    simp only [renderNodes, nodesStarts]
    apply coupling.chain (renderNode_coupled coupling node)
    intro piece
    exact coupling.andThen (renderNodes_coupled coupling rest) fun _ => coupling.pure _

end

/-- The same input with other limits on loops. -/
def RenderInput.limited (input : RenderInput) (depth : Nat) (iterations : Option Nat) :
    RenderInput :=
  { input with
    options := { input.options with maxDepth := depth, maxIterations := iterations } }

/-- Limits on loops are nothing to the steps of an evaluation: under other limits they are the same
steps, and keep what they keep. -/
theorem EvaluationInvariant.coupling {relation : RenderState → RenderState → Prop}
    (invariant : EvaluationInvariant relation) (input : RenderInput) (depth : Nat)
    (iterations : Option Nat) :
    EvaluationCoupling input (input.limited depth iterations)
      (fun action action' => action' = action ∧ Keeps relation action) where
  pure value := ⟨rfl, invariant.pure value⟩
  bind := by
    rintro α β action _ next next' ⟨rfl, kept⟩ rest
    constructor
    · congr 1
      funext value
      exact (rest value).1
    · exact invariant.bind kept fun value => (rest value).2
  note line := ⟨rfl, fun state => invariant.noting state _⟩
  trace line := ⟨rfl, invariant.trace input line⟩
  report error := ⟨rfl, invariant.report input error⟩
  call name value args := ⟨rfl, invariant.call input name value args⟩
  access span root steps := ⟨rfl, invariant.access input span root steps⟩

/-- Limits on loops are nothing to what a render gives when the walk over its nodes has ended. -/
theorem conclude_limited (input : RenderInput) (depth : Nat) (iterations : Option Nat)
    (outcome : Except Interruption String × RenderState) :
    conclude (input.limited depth iterations) outcome = conclude input outcome := by
  rcases outcome with ⟨(_ | _ | _) | _, after⟩ <;> rfl

end Stencil
