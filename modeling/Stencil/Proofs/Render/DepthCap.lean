import Stencil.Proofs.Render.Coupling
import Stencil.Proofs.Render.Holes
import Stencil.Proofs.Render.Totality
import Stencil.Proofs.Render.Scopes
/-!
# The cap on the depth of loops

A loop that would be one too many inside of each other is left out: nothing in it is evaluated, and
one problem is recorded. So wherever a render is in a template, no more loops are running than the
cap allows.

Otherwise the cap is nothing to a render. As long as no loop has been left out, the render under a
higher cap is the same, step by step.
-/

namespace Stencil

open Render RenderState

section Around

variable {relation : RenderState → RenderState → Prop} (input : RenderInput)

/-- What an evaluation does before it comes to a hole keeps what evaluations keep. -/
theorem ExprLayer.surrounding_keeps (invariant : EvaluationInvariant relation)
    (layer : ExprLayer) : Keeps relation (layer.surrounding input) := by
  cases layer with
  | filterArgument extent inner earlier name before after span later =>
      apply invariant.bind (evaluate_keeps invariant input inner)
      intro value
      apply invariant.bind (evaluateFilters_keeps invariant input value earlier)
      intro result
      exact invariant.bind (evaluateAll_keeps invariant input before) fun _ => invariant.pure _
  | index extent root before after =>
      exact invariant.bind (evaluatePath_keeps invariant input before) fun _ => invariant.pure _
  | argument extent name before after =>
      exact invariant.bind (evaluateAll_keeps invariant input before) fun _ => invariant.pure _
  | rightOf extent op left =>
      apply invariant.bind (evaluate_keeps invariant input left)
      intro first
      split <;> exact invariant.pure _
  | item extent before after =>
      exact invariant.bind (evaluateAll_keeps invariant input before) fun _ => invariant.pure _
  | entry extent before key after =>
      exact invariant.bind (evaluateEntries_keeps invariant input before) fun _ => invariant.pure _
  | whenTrue extent condition elseBranch =>
      apply invariant.bind (evaluate_keeps invariant input condition)
      intro decision
      split <;> exact invariant.pure _
  | whenFalse extent condition thenBranch =>
      apply invariant.bind (evaluate_keeps invariant input condition)
      intro decision
      split <;> exact invariant.pure _
  | _ => exact invariant.pure _

theorem NodeSlot.surrounding_keeps (invariant : EvaluationInvariant relation) (filled : Extent)
    (slot : NodeSlot) : Keeps relation (slot.surrounding input filled) := by
  cases slot with
  | iterable extent iterator body =>
      apply invariant.bind (invariant.trace input _)
      intro _
      apply invariant.get_bind
      intro state
      split <;> exact invariant.pure _
  | _ => exact invariant.bind (invariant.trace input _) fun _ => invariant.pure _

/-- What a render does before it comes to a hole keeps what renders keep. -/
theorem NodeLayer.surrounding_keeps (invariant : RenderingInvariant relation)
    (layer : NodeLayer) : Keeps relation (layer.surrounding input) := by
  cases layer with
  | among before after =>
      exact invariant.bind (renderNodes_keeps invariant input before) fun _ => invariant.pure _
  | block extent name =>
      exact invariant.bind (invariant.trace input _) fun _ => invariant.pure _
  | _ =>
      apply invariant.bind (invariant.trace input _)
      intro _
      apply invariant.bind (evaluate_keeps invariant.toEvaluationInvariant input _)
      intro decision
      split <;> exact invariant.pure _

end Around

section Depth

variable {input : RenderInput} {state here : RenderState}

/-- What is done before a hole leaves the frames that it finds. -/
theorem Course.depth_of_reached {α β : Type} {surrounding : Render (Course α β)}
    (confined : Keeps Confined surrounding) (member : here ∈ Course.reached surrounding state) :
    here.depth = state.depth := by
  have kept := (confined state).depth
  unfold Course.reached at member
  generalize surrounding.exec state = outcome at kept member
  rcases outcome with ⟨stop | other | rest, after⟩
  · cases member
  · cases member
  · rw [List.mem_singleton.mp member]
    exact kept

/-- The body of a loop starts one frame deeper than the loop. -/
theorem depth_of_mem_ofIterations {start : Render Unit} {body : Render String}
    (begins : Keeps Confined start) (bodies : Keeps Confined body) {iterator : String}
    {length index : Nat} {items : List Value}
    (member : here ∈ Starts.ofIterations start body Starts.none iterator length index items state) :
    here.depth = state.depth + 1 := by
  induction items generalizing index state with
  | nil => cases member
  | cons item rest ih =>
      have began := (begins state).depth
      simp only [Starts.ofIterations, Starts.bind, Starts.none, List.nil_append] at member
      generalize start.exec state = outcome at began member
      rcases outcome with ⟨stop | _, counted⟩
      · cases member
      · have left := (confined_rendering.within bodies
          (loopFrame iterator item index length) counted).depth
        simp only [Starts.within, Starts.none, List.cons_append, List.nil_append] at member
        generalize (within (loopFrame iterator item index length) body).exec counted = rendered
          at left member
        rcases List.mem_cons.mp member with rfl | later
        · rw [← began]
          rfl
        · rcases rendered with ⟨stop | piece, after⟩
          · cases later
          · rw [ih later, left, began]

/-- The body of a loop starts only where there is room for another frame. -/
theorem depth_of_mem_ofBody {extent : Extent} {iterator : String} {iterable : Expr}
    {body : List Node} (member : here ∈ Starts.ofBody input extent iterator iterable body state) :
    here.depth ≤ input.options.maxDepth := by
  rw [Starts.ofBody_begun] at member
  generalize state.begun input (.loop extent iterator iterable body) = begun at member
  unfold Starts.ofLoop at member
  split at member
  · cases member
  · rename_i room
    have evaluated := (evaluate_keeps confined_rendering.toEvaluationInvariant input iterable
      begun).depth
    simp only [Starts.bind, Starts.none, List.nil_append] at member
    generalize (evaluate input iterable).exec begun = outcome at evaluated member
    rcases outcome with ⟨stop | value, after⟩
    · cases member
    · cases value with
      | array values =>
          have counts := confined_rendering.countIteration confined_rendering.counted input
            extent.span (iterable.extent.sourceOr iterator)
          have bodies := renderNodes_keeps confined_rendering input body
          have deeper := depth_of_mem_ofIterations counts bodies member
          dsimp only at evaluated
          omega
      | _ => cases member

/-- Wherever a render comes to nodes of a template, the cap has been kept. -/
theorem NodeHole.depth_of_reached (hole : NodeHole) {nodes : List Node}
    (room : state.depth ≤ input.options.maxDepth) (member : here ∈ hole.reached input nodes state) :
    here.depth ≤ input.options.maxDepth := by
  induction hole generalizing state with
  | here =>
      rw [List.mem_singleton.mp member]
      exact room
  | under layer inner ih =>
      rcases List.mem_flatMap.mp member with ⟨outside, reached, deeper⟩
      have same := Course.depth_of_reached (layer.surrounding_keeps input confined_rendering) reached
      exact ih (by omega) deeper
  | iterated extent iterator iterable inner ih =>
      rcases List.mem_flatMap.mp member with ⟨outside, reached, deeper⟩
      exact ih (depth_of_mem_ofBody reached) deeper

theorem ExprLayers.depth_of_reached (layers : ExprLayers)
    (member : here ∈ layers.reached input state) : here.depth = state.depth := by
  induction layers generalizing state with
  | nil => rw [List.mem_singleton.mp member]
  | cons layer inner ih =>
      rcases List.mem_flatMap.mp member with ⟨outside, reached, deeper⟩
      have kept := layer.surrounding_keeps input confined_rendering.toEvaluationInvariant
      rw [ih deeper, Course.depth_of_reached kept reached]

/-- Wherever a render comes to an expression of a template, the cap has been kept. -/
theorem ExprHole.depth_of_reached (hole : ExprHole) {expr : Expr}
    (room : state.depth ≤ input.options.maxDepth) (member : here ∈ hole.reached input expr state) :
    here.depth ≤ input.options.maxDepth := by
  rcases List.mem_flatMap.mp member with ⟨node, reachedNode, inside⟩
  rcases List.mem_flatMap.mp inside with ⟨whole, reachedWhole, deeper⟩
  have kept := hole.slot.surrounding_keeps input confined_rendering.toEvaluationInvariant
    (hole.layers.fill expr).extent
  have atNode := hole.nodes.depth_of_reached room reachedNode
  rw [hole.layers.depth_of_reached deeper, Course.depth_of_reached kept reachedWhole]
  exact atNode

end Depth

section LeftOut

variable {input : RenderInput} {state : RenderState}

/-- A loop that would be one too many is left out. It records one problem, and has no text. -/
theorem exec_loop_of_deep (collects : input.options.throwOnError = false) (extent : Extent)
    (iterator : String) (iterable : Expr) (body : List Node)
    (deep : input.options.maxDepth ≤ state.depth) :
    (renderNode input (.loop extent iterator iterable body)).exec state =
      (.ok "", (state.begun input (.loop extent iterator iterable body)).recordSoftly
        (Problems.tooDeep input extent.span (iterable.extent.sourceOr iterator))) := by
  have stillDeep : input.options.maxDepth ≤
      (state.begun input (.loop extent iterator iterable body)).depth := by
    rw [depth_begun]
    exact deep
  rw [exec_loop_begun]
  unfold loop
  rw [exec_bind_ok (exec_get _), if_pos stillDeep, exec_bind_ok (exec_report_lenient collects _ _)]
  rfl

/-- A render does not come to what is looped over by a loop that is left out. -/
theorem reached_iterable_of_deep (extent : Extent) (iterator : String) (body : List Node)
    (layers : ExprLayers) (expr : Expr) (deep : input.options.maxDepth ≤ state.depth) :
    ExprHole.reached input ⟨.here, .iterable extent iterator body, layers⟩ expr state = [] := by
  rcases exec_trace input ("render for at " ++ extent.span.start.text) state with ⟨lines, traced⟩
  have stillDeep : input.options.maxDepth ≤ (state.noting lines).depth := deep
  simp [ExprHole.reached, Starts.inside, NodeHole.reached, Course.reached, NodeSlot.surrounding,
    exec_bind, traced, stillDeep]

/-- A render does not come to the body of a loop that is left out. -/
theorem reached_body_of_deep (extent : Extent) (iterator : String) (iterable : Expr)
    (inner : NodeHole) (nodes : List Node) (deep : input.options.maxDepth ≤ state.depth) :
    (NodeHole.iterated extent iterator iterable inner).reached input nodes state = [] := by
  simp [NodeHole.reached, Starts.inside, Starts.ofBody_begun, Starts.ofLoop, deep]

end LeftOut

/-- That a loop has been left out because there was no room for it. -/
def RenderState.HasLeftOut (input : RenderInput) (state : RenderState) : Prop :=
  ∃ span path, Problems.tooDeep input span path ∈ state.errors

/-- That no problem is lost between two states. -/
def RenderState.KeepsErrors (before after : RenderState) : Prop :=
  ∀ error ∈ before.errors, error ∈ after.errors

theorem keepsErrors_rendering : RenderingInvariant RenderState.KeepsErrors where
  refl _ _ member := member
  trans early late error member := late error (early error member)
  noting _ _ _ member := member
  recording _ _ _ member := Array.mem_push_of_mem _ member
  assign state name value error member := by
    unfold RenderState.assign
    split <;> exact member
  counted _ _ member := member
  enclosed kept := kept

/-- That two steps are the same from every state, unless the first of them leaves out a loop. -/
def SameUntilLeftOut (input : RenderInput) {α : Type} (action action' : Render α) : Prop :=
  Keeps RenderState.KeepsErrors action ∧
    ∀ state, action'.exec state = action.exec state ∨ (action.exec state).2.HasLeftOut input

namespace SameUntilLeftOut

variable {α β : Type} {input : RenderInput}

theorem bind {action action' : Render α} {next next' : α → Render β}
    (first : SameUntilLeftOut input action action')
    (rest : ∀ value, SameUntilLeftOut input (next value) (next' value)) :
    SameUntilLeftOut input (action >>= next) (action' >>= next') := by
  constructor
  · exact keepsErrors_rendering.bind first.1 fun value => (rest value).1
  · intro state
    rw [exec_bind, exec_bind]
    rcases first.2 state with same | ⟨span, path, recorded⟩
    · rw [same]
      rcases action.exec state with ⟨stop | value, after⟩
      · exact .inl rfl
      · exact (rest value).2 after
    · -- What has been recorded is still there when the first step has gone on.
      right
      generalize action.exec state = outcome at recorded ⊢
      rcases outcome with ⟨stop | value, after⟩
      · exact ⟨span, path, recorded⟩
      · exact ⟨span, path, (rest value).1 after _ recorded⟩

theorem within {action action' : Render α} (inside : SameUntilLeftOut input action action')
    (frame : Entries Value) :
    SameUntilLeftOut input (Render.within frame action) (Render.within frame action') := by
  constructor
  · exact keepsErrors_rendering.within inside.1 frame
  · intro state
    rw [exec_within, exec_within]
    rcases inside.2 (state.enter frame) with same | leftOut
    · left
      rw [same]
    · exact .inr leftOut

end SameUntilLeftOut

/-- Renders under a cap and under a higher one are the same until a loop is left out. -/
theorem depthCoupling {input : RenderInput} (collects : input.options.throwOnError = false)
    {depth : Nat} (higher : input.options.maxDepth ≤ depth) :
    RenderingCoupling input (input.limited depth input.options.maxIterations)
      (fun action action' => action' = action ∧ Keeps RenderState.KeepsErrors action)
      (fun _ action _ action' => SameUntilLeftOut input action action') where
  toEvaluationCoupling := keepsErrors_rendering.toEvaluationInvariant.coupling input _ _
  shown _ := rfl
  assign name value := ⟨rfl, fun state => keepsErrors_rendering.assign state name value⟩
  evaluation := by
    rintro α action _ ⟨rfl, kept⟩
    exact ⟨kept, fun state => .inl rfl⟩
  chain first rest := first.bind rest
  round span path frame _ _ _ _ bodies := by
    have counts := keepsErrors_rendering.countIteration keepsErrors_rendering.counted input span path
    have counting : SameUntilLeftOut input (countIteration input span path)
        (countIteration (input.limited depth input.options.maxIterations) span path) :=
      ⟨counts, fun state => .inl rfl⟩
    exact counting.bind fun _ => bodies.within frame
  capped span path starts starts' rest rest' inner := by
    have reporting (error : RenderError) :=
      keepsErrors_rendering.bind (keepsErrors_rendering.report input error) fun _ =>
        keepsErrors_rendering.pure ""
    constructor
    · apply keepsErrors_rendering.get_bind
      intro state
      split
      · exact reporting _
      · exact inner.1
    · intro state
      unfold Render.capped
      rw [exec_bind_ok (exec_get state), exec_bind_ok (exec_get state)]
      by_cases deep : input.options.maxDepth ≤ state.depth
      · right
        rw [if_pos deep]
        unfold report
        rw [collects]
        exact ⟨span, path, Array.mem_push_self⟩
      · have room : ¬(input.limited depth input.options.maxIterations).options.maxDepth ≤
            state.depth := by
          change ¬depth ≤ state.depth
          omega
        rw [if_neg deep, if_neg room]
        exact inner.2 state

theorem RenderInput.lenient_eq_self {input : RenderInput}
    (collects : input.options.throwOnError = false) : input.lenient = input := by
  rcases input with ⟨data, registry, options⟩
  rcases options with ⟨throws, shows, shown, depth, debug, iterations⟩
  cases collects
  rfl

/-- The cap on the depth of loops caps the frames at every place of a template. A loop for which
there is no room has no text, records one problem, and has nothing in it evaluated. If a render has
recorded no such problem, a higher cap changes nothing. -/
theorem max_depth_caps_scopes (input : RenderInput)
    (collects : input.options.throwOnError = false) (template : Template) :
    (∀ (hole : NodeHole) (nodes : List Node), template.children = hole.fill nodes →
      ∀ here ∈ hole.reached input nodes {}, here.depth ≤ input.options.maxDepth) ∧
    (∀ (hole : ExprHole) (expr : Expr), template.children = hole.fill expr →
      ∀ here ∈ hole.reached input expr {}, here.depth ≤ input.options.maxDepth) ∧
    (∀ (extent : Extent) (iterator : String) (iterable : Expr) (body : List Node)
        (state : RenderState), input.options.maxDepth ≤ state.depth →
      (renderNode input (.loop extent iterator iterable body)).exec state =
          (.ok "", (state.begun input (.loop extent iterator iterable body)).recordSoftly
            (Problems.tooDeep input extent.span (iterable.extent.sourceOr iterator))) ∧
        (∀ layers expr, iterable = ExprLayers.fill layers expr →
          ExprHole.reached input ⟨.here, .iterable extent iterator body, layers⟩ expr state =
            []) ∧
        ∀ inner nodes, body = NodeHole.fill inner nodes →
          (NodeHole.iterated extent iterator iterable inner).reached input nodes state = []) ∧
    ∃ output, render input template = .ok output ∧
      ((∀ span path, Problems.tooDeep input span path ∉ output.errors) →
        ∀ depth, input.options.maxDepth ≤ depth →
          renderFrom { input with options := { input.options with maxDepth := depth } } template {} =
            renderFrom input template {}) := by
  have start : RenderState.depth {} ≤ input.options.maxDepth := Nat.zero_le _
  refine ⟨?_, ?_, ?_, ?_⟩
  · intro hole nodes _ here member
    exact hole.depth_of_reached start member
  · intro hole expr _ here member
    exact hole.depth_of_reached start member
  · intro extent iterator iterable body state deep
    refine ⟨exec_loop_of_deep collects extent iterator iterable body deep, ?_, ?_⟩
    · intro layers expr _
      exact reached_iterable_of_deep extent iterator body layers expr deep
    · intro inner nodes _
      exact reached_body_of_deep extent iterator iterable inner nodes deep
  · rcases conclude_lenient input ((renderNodes input template.children).exec {}) with
      ⟨text, more, success, concluded⟩
    rw [RenderInput.lenient_eq_self collects, ← renderFrom_eq_conclude] at concluded
    refine ⟨_, concluded, ?_⟩
    · intro none depth higher
      have compared :=
        (renderNodes_coupled (depthCoupling collects higher) template.children).2 {}
      rcases compared with same | ⟨span, path, leftOut⟩
      · change renderFrom (input.limited depth input.options.maxIterations) template {} = _
        rw [renderFrom_eq_conclude, renderFrom_eq_conclude, same]
        exact conclude_limited input _ _ _
      · refine absurd ?_ (none span path)
        exact List.mem_append_left _ (Array.mem_toList_iff.mpr leftOut)

/-- A loop in the body of another is left out where one loop is allowed, and where two are, allowing
more changes nothing. -/
theorem max_depth_caps_scopes_nested :
    let input (depth : Nat) : RenderInput :=
      ⟨.object [], Registry.empty, { maxDepth := depth }⟩
    let extent : Extent := ⟨Span.empty, none⟩
    let pair : Expr := .array extent [.literal extent .null, .literal extent .null]
    let unbound : Expr := .access extent "z" []
    let inner : Node := .loop extent "y" (.paren extent unbound) []
    let hole : NodeHole := .iterated extent "x" pair .here
    let template : Template := ⟨hole.fill [inner], Span.empty⟩
    let state : RenderState := RenderState.enter {} (loopFrame "x" .null 0 2)
    template.children = hole.fill [inner] ∧
      (∀ here ∈ hole.reached (input 1) [inner] {}, here.depth ≤ 1) ∧
      (input 1).options.maxDepth ≤ state.depth ∧
      ((renderNode (input 1) inner).exec state).1.toOption = some "" ∧
      ExprHole.reached (input 1) ⟨.here, .iterable extent "y" [], [.grouped extent]⟩ unbound state =
        [] ∧
      renderFrom (input 7) template {} = renderFrom (input 2) template {} := by
  intro input extent pair unbound inner hole template state
  have one := max_depth_caps_scopes (input 1) rfl template
  have two := max_depth_caps_scopes (input 2) rfl template
  have deep : (input 1).options.maxDepth ≤ state.depth := Nat.le_refl 1
  rcases one.2.2.1 extent "y" (.paren extent unbound) [] state deep with ⟨rendered, outside, _⟩
  refine ⟨rfl, one.1 hole [inner] rfl, deep, ?_, outside [.grouped extent] unbound rfl, ?_⟩
  · rw [rendered]
    rfl
  · rcases two.2.2.2 with ⟨output, same, higher⟩
    refine higher ?_ 7 (by decide)
    -- The problems of the inner loop are a name and a value that is no array.
    cases same
    intro span path member
    have kinds : ∀ error ∈ ((renderNodes (input 2) template.children).exec {}).2.errors.toList,
        error.kind ≠ .runtimeError := by decide
    exact kinds _ member rfl

end Stencil
