import Stencil.Proofs.Render.Scopes
import Stencil.Proofs.Render.Totality
import Stencil.Proofs.Template.Standing
/-!
# Rendering what is malformed

A malformed expression has no value and is no problem of a render, since the parser has reported it.
So a choice on it goes on with its other branch, and a binding to it binds nothing. Only a loop over
it is a problem: it asks for an array and finds none.

A template in which every expression is malformed is therefore rendered along its other branches,
and is free of problems just if no loop is met there.
-/

namespace Stencil

open Render RenderState

namespace Node

/-- That nothing in some nodes has a value: their own expressions are malformed. -/
def AllValueless (nodes : List Node) : Prop :=
  ∀ node ∈ nodes, ∀ expr ∈ node.expression?, expr.isMalformed = true

instance (nodes : List Node) : Decidable (AllValueless nodes) :=
  decidable_of_iff (nodes.all fun node => node.expression?.all Expr.isMalformed)
    (by simp [AllValueless, Option.all_eq_true])

mutual

/-- The nodes that are met where no condition holds and no loop has elements. -/
def met : Node → List Node
  | choice extent condition body none => [choice extent condition body none]
  | choice extent condition body (some otherwise) =>
    choice extent condition body (some otherwise) :: metAll otherwise
  | block extent name body => block extent name body :: metAll body
  | loop extent iterator iterable body => [loop extent iterator iterable body]
  | assignment extent name value => [assignment extent name value]
  | output extent value => [output extent value]
  | text extent content => [text extent content]
  | malformed extent message => [malformed extent message]

def metAll : List Node → List Node
  | [] => []
  | node :: rest => met node ++ metAll rest

end

/-- What a node shows by itself if its expression has no value. -/
def shownAlone (options : RenderOptions) : Node → String
  | text _ content => content
  | output _ _ => options.shown .undefined
  | _ => ""

/-- What nodes show by themselves, one after the other. -/
def allShownAlone (options : RenderOptions) (nodes : List Node) : String :=
  String.join (nodes.map (shownAlone options))

/-- The problem of a loop over a malformed expression where so many loops are running. -/
def loopProblem (input : RenderInput) (depth : Nat) (extent : Extent) (iterator : String)
    (iterable : Expr) : RenderError :=
  if input.options.maxDepth ≤ depth then
    Problems.tooDeep input extent.span (iterable.extent.sourceOr iterator)
  else Problems.noArray iterable.span (iterable.extent.sourceOr iterator) .undefined

/-- The problem of a node by itself if its expression has no value. Only loops have one. -/
def problemAlone? (input : RenderInput) (depth : Nat) : Node → Option RenderError
  | loop extent iterator iterable _ => some (loopProblem input depth extent iterator iterable)
  | _ => none

theorem AllValueless.own {node : Node} {nodes : List Node}
    (valueless : AllValueless (node :: nodes)) :
    ∀ expr ∈ node.expression?, expr.isMalformed = true :=
  valueless node List.mem_cons_self

theorem AllValueless.of_subset {nodes more : List Node} (valueless : AllValueless more)
    (subset : nodes ⊆ more) : AllValueless nodes :=
  fun node member => valueless node (subset member)

end Node

section Tags

variable {input : RenderInput} {expr : Expr}

/-- A malformed expression has no value, and evaluating it only adds a line to the log. -/
theorem exec_evaluate_of_isMalformed (malformed : expr.isMalformed = true) (state : RenderState) :
    ∃ lines, (evaluate input expr).exec state = (.ok .undefined, state.noting lines) := by
  cases expr with
  | malformed extent message =>
      rw [evaluate]
      exact ⟨_, rfl⟩
  | _ => cases malformed

theorem RenderState.noting_noting (state : RenderState) (lines more : List String) :
    (state.noting lines).noting more = state.noting (lines ++ more) := by
  simp [noting, ← Array.toList_inj]

theorem RenderState.errors_assign (state : RenderState) (name : String) (value : Value) :
    (state.assign name value).errors = state.errors := by
  unfold assign
  split
  · rfl
  · rfl

/-- The state in which a node begins has more lines in the log and is the same otherwise. -/
theorem exists_begun (input : RenderInput) (node : Node) (state : RenderState) :
    ∃ lines, state.begun input node = state.noting lines := by
  rcases exec_trace input ("render " ++ node.label ++ " at " ++ node.span.start.text) state with
    ⟨lines, traced⟩
  exact ⟨lines, by rw [RenderState.begun, traced]⟩

/-- A node that begins with a malformed expression goes on with no value for it. -/
theorem exec_of_isMalformed {node : Node} (malformed : expr.isMalformed = true)
    (rest : Value → Render String)
    (rendered : renderNode input node =
      (trace input ("render " ++ node.label ++ " at " ++ node.span.start.text) >>= fun _ =>
        evaluate input expr >>= rest)) (state : RenderState) :
    ∃ lines, (renderNode input node).exec state = (rest .undefined).exec (state.noting lines) := by
  rcases exists_begun input node state with ⟨lines, begun⟩
  rcases exec_evaluate_of_isMalformed malformed (state.noting lines) with ⟨more, evaluated⟩
  rw [noting_noting] at evaluated
  refine ⟨lines ++ more, ?_⟩
  rw [exec_of_begun rendered, begun, exec_bind_ok evaluated]

variable (input) (malformed : expr.isMalformed = true) (extent : Extent) (state : RenderState)

include malformed

/-- A choice on a malformed condition goes on with its other branch. -/
theorem exec_choice_of_isMalformed (body : List Node) (otherwise : Option (List Node)) :
    ∃ lines, (renderNode input (.choice extent expr body otherwise)).exec state =
      (renderNodes input (otherwise.getD [])).exec (state.noting lines) :=
  exec_of_isMalformed malformed _ (renderNode_choice input extent expr body otherwise) state

/-- A name that is bound to a malformed value is bound to `undefined`. -/
theorem exec_assignment_of_isMalformed (name : String) :
    ∃ lines, (renderNode input (.assignment extent name expr)).exec state =
      (.ok "", (state.noting lines).assign name .undefined) :=
  exec_of_isMalformed malformed
    (fun value => do
      modify fun state => state.assign name value
      return "")
    (by rw [renderNode]; rfl) state

theorem exec_output_of_isMalformed :
    ∃ lines, (renderNode input (.output extent expr)).exec state =
      (.ok (input.options.shown .undefined), state.noting lines) :=
  exec_of_isMalformed malformed (fun value => return input.options.shown value)
    (by rw [renderNode]; rfl) state

/-- A loop over a malformed expression shows nothing and records a problem. -/
theorem exec_loop_of_isMalformed (collects : input.options.throwOnError = false)
    (iterator : String) (body : List Node) :
    ∃ lines, (renderNode input (.loop extent iterator expr body)).exec state =
      (.ok "", (state.noting lines).recordSoftly
        (Node.loopProblem input state.depth extent iterator expr)) := by
  rcases exists_begun input (.loop extent iterator expr body) state with ⟨lines, begun⟩
  rw [exec_loop_begun, begun]
  unfold loop Node.loopProblem
  rw [exec_bind_ok (exec_get _)]
  by_cases deep : input.options.maxDepth ≤ state.depth
  · refine ⟨lines, ?_⟩
    rw [if_pos deep, if_pos (show _ ≤ (state.noting lines).depth from deep),
      exec_bind_ok (exec_report_lenient collects _ _)]
    rfl
  · rcases exec_evaluate_of_isMalformed malformed (state.noting lines) with ⟨more, evaluated⟩
    rw [noting_noting] at evaluated
    refine ⟨lines ++ more, ?_⟩
    rw [if_neg deep, if_neg (show ¬_ ≤ (state.noting lines).depth from deep),
      exec_bind_ok evaluated]
    dsimp only
    rw [exec_bind_ok (exec_report_lenient collects _ _)]
    rfl

end Tags

theorem exec_malformedNode (input : RenderInput) (extent : Extent) (message : String)
    (state : RenderState) :
    ∃ lines, (renderNode input (.malformed extent message)).exec state =
      (.ok "", state.noting lines) := by
  rcases exists_begun input (.malformed extent message) state with ⟨lines, begun⟩
  have rendered : (renderNode input (.malformed extent message)).exec state =
      (note _ >>= fun _ => pure "").exec _ := exec_of_begun (by rw [renderNode]; rfl) state
  rw [rendered, begun]
  exact ⟨_, congrArg (Prod.mk _) (noting_noting state lines _)⟩

/-- That an action shows what nodes show by themselves and records their problems. -/
def ShowsAlone (input : RenderInput) (action : Render String) (nodes : List Node) : Prop :=
  ∀ state, ∃ after, action.exec state = (.ok (Node.allShownAlone input.options nodes), after) ∧
    after.depth = state.depth ∧
    after.errors.toList =
      state.errors.toList ++ nodes.filterMap (Node.problemAlone? input state.depth)

namespace ShowsAlone

variable {input : RenderInput} {node : Node} {early late nodes : List Node}

theorem nil : ShowsAlone input (pure "") [] := by
  intro state
  exact ⟨state, rfl, rfl, by simp⟩

/-- What is rendered one after the other shows what is shown at both. -/
theorem append {first later : Render String} (here : ShowsAlone input first early)
    (behind : ShowsAlone input later late) :
    ShowsAlone input
      (first >>= fun text => later >>= fun others => pure (text ++ others)) (early ++ late) := by
  intro state
  rcases here state with ⟨between, done, depth, recorded⟩
  rcases behind between with ⟨after, doneLater, depthLater, recordedLater⟩
  refine ⟨after, ?_, depthLater.trans depth, ?_⟩
  · rw [exec_bind_ok done, exec_bind_ok doneLater, exec_pure]
    simp only [Node.allShownAlone, List.map_append, String.join_append]
  · rw [recordedLater, recorded, depth, List.filterMap_append, List.append_assoc]

/-- A node that shows nothing by itself and goes on with the nodes inside of it. -/
theorem behind {action inside : Render String} (empty : node.shownAlone input.options = "")
    (silent : ∀ depth, node.problemAlone? input depth = none)
    (goesOn : ∀ state, ∃ lines, action.exec state = inside.exec (state.noting lines))
    (shows : ShowsAlone input inside nodes) : ShowsAlone input action (node :: nodes) := by
  intro state
  rcases goesOn state with ⟨lines, same⟩
  rcases shows (state.noting lines) with ⟨after, done, depth, recorded⟩
  refine ⟨after, ?_, depth, ?_⟩
  · rw [same, done, Node.allShownAlone, Node.allShownAlone, List.map_cons, String.join_cons, empty,
      String.empty_append]
  · rw [recorded, List.filterMap_cons_none (silent _)]
    rfl

/-- A node that ends by itself. -/
theorem single {action : Render String}
    (ends : ∀ state, ∃ after, action.exec state = (.ok (node.shownAlone input.options), after) ∧
      after.depth = state.depth ∧
      after.errors.toList =
        state.errors.toList ++ (node.problemAlone? input state.depth).toList) :
    ShowsAlone input action [node] := by
  intro state
  rcases ends state with ⟨after, done, depth, recorded⟩
  refine ⟨after, ?_, depth, ?_⟩
  · rw [done, Node.allShownAlone, List.map_singleton]
    simp [String.join]
  · rw [recorded]
    cases own : node.problemAlone? input state.depth <;> simp [own]

/-- A node that only adds lines to the log. -/
theorem quiet {action : Render String} (silent : ∀ depth, node.problemAlone? input depth = none)
    (ends : ∀ state, ∃ lines,
      action.exec state = (.ok (node.shownAlone input.options), state.noting lines)) :
    ShowsAlone input action [node] := by
  apply single
  intro state
  rcases ends state with ⟨lines, done⟩
  refine ⟨state.noting lines, done, rfl, ?_⟩
  rw [silent]
  exact (List.append_nil _).symm

end ShowsAlone

mutual

/-- A node in which nothing has a value shows what the nodes that are met in it show by
themselves. -/
theorem renderNode_showsAlone {input : RenderInput}
    (collects : input.options.throwOnError = false) :
    (node : Node) → Node.AllValueless node.walk →
      ShowsAlone input (renderNode input node) node.met
  | .text extent content, _ => by
    rw [Node.met]
    apply ShowsAlone.quiet (fun _ => rfl)
    intro state
    rcases exists_begun input (.text extent content) state with ⟨lines, begun⟩
    refine ⟨lines, ?_⟩
    rw [← begun]
    exact exec_of_begun (by rw [renderNode]; rfl) state
  | .output extent expr, valueless => by
    rw [Node.met]
    have malformed : expr.isMalformed = true := valueless.own expr rfl
    apply ShowsAlone.quiet (fun _ => rfl)
    exact exec_output_of_isMalformed input malformed extent
  | .choice extent condition body none, valueless => by
    rw [Node.met]
    have malformed : condition.isMalformed = true := valueless.own condition rfl
    refine ShowsAlone.behind rfl (fun _ => rfl) (fun state =>
      exec_choice_of_isMalformed input malformed extent state body none) ?_
    rw [Option.getD_none, renderNodes]
    exact ShowsAlone.nil
  | .choice extent condition body (some otherwise), valueless => by
    rw [Node.met]
    have malformed : condition.isMalformed = true := valueless.own condition rfl
    refine ShowsAlone.behind rfl (fun _ => rfl) (fun state =>
      exec_choice_of_isMalformed input malformed extent state body (some otherwise)) ?_
    refine renderNodes_showsAlone collects otherwise (valueless.of_subset ?_)
    simp [Node.walk]
  | .loop extent iterator iterable body, valueless => by
    rw [Node.met]
    refine ShowsAlone.single fun state => ?_
    have malformed : iterable.isMalformed = true := valueless.own iterable rfl
    rcases exec_loop_of_isMalformed input malformed extent state collects iterator body with
      ⟨lines, done⟩
    exact ⟨_, done, rfl, Array.toList_push⟩
  | .assignment extent name expr, valueless => by
    rw [Node.met]
    refine ShowsAlone.single fun state => ?_
    have malformed : expr.isMalformed = true := valueless.own expr rfl
    rcases exec_assignment_of_isMalformed input malformed extent state name with
      ⟨lines, done⟩
    have confined := Confined.assign (state.noting lines) name .undefined
    refine ⟨_, done, confined.depth, ?_⟩
    rw [errors_assign]
    exact (List.append_nil _).symm
  | .block extent name body, valueless => by
    rw [Node.met]
    refine ShowsAlone.behind rfl (fun _ => rfl) (fun state => ?_)
      (renderNodes_showsAlone collects body (valueless.of_subset (by simp [Node.walk])))
    rcases exists_begun input (.block extent name body) state with ⟨lines, begun⟩
    refine ⟨lines, ?_⟩
    rw [← begun]
    exact exec_of_begun (by rw [renderNode]; rfl) state
  | .malformed extent message, _ => by
    rw [Node.met]
    apply ShowsAlone.quiet (fun _ => rfl)
    exact exec_malformedNode input extent message

theorem renderNodes_showsAlone {input : RenderInput}
    (collects : input.options.throwOnError = false) :
    (nodes : List Node) → Node.AllValueless (Node.walkAll nodes) →
      ShowsAlone input (renderNodes input nodes) (Node.metAll nodes)
  | [], _ => by
    rw [renderNodes, Node.metAll]
    exact ShowsAlone.nil
  | node :: rest, valueless => by
    rw [renderNodes, Node.metAll]
    refine ShowsAlone.append
      (renderNode_showsAlone collects node (valueless.of_subset (by simp [Node.walkAll])))
      (renderNodes_showsAlone collects rest (valueless.of_subset (by simp [Node.walkAll])))

end

/-- Problems of nodes by themselves are those of loops. -/
theorem filterMap_problemAlone?_eq_nil (input : RenderInput) (depth : Nat) {nodes : List Node} :
    nodes.filterMap (Node.problemAlone? input depth) = [] ↔
      ∀ extent iterator iterable body, .loop extent iterator iterable body ∉ nodes := by
  rw [List.filterMap_eq_nil_iff]
  constructor
  · intro silent extent iterator iterable body member
    have none := silent _ member
    cases none
  · intro loopless node member
    cases node with
    | loop extent iterator iterable body => exact absurd member (loopless _ _ _ _)
    | _ => rfl

/-- What is malformed is no problem of a lenient render, with one exception. A malformed node shows
nothing, a choice on a malformed condition takes its other branch, and a name bound to a malformed
value is bound to `undefined`, all without a problem. But a loop over a malformed expression records
one, that there is no array, or that too many loops are inside each other.

So where all expressions of a template are malformed, the render shows what is met along the other
branches, and succeeds if and only if no loop is met and nothing has been recorded before. -/
theorem malformed_tags_render (input : RenderInput) (collects : input.options.throwOnError = false)
    (state : RenderState) :
    (∀ extent message, ∃ lines, (renderNode input (.malformed extent message)).exec state =
      (.ok "", state.noting lines)) ∧
    (∀ expr, expr.isMalformed = true → ∀ extent,
      (∀ body otherwise, ∃ lines,
        (renderNode input (.choice extent expr body otherwise)).exec state =
          (renderNodes input (otherwise.getD [])).exec (state.noting lines)) ∧
      (∀ name, ∃ lines, (renderNode input (.assignment extent name expr)).exec state =
        (.ok "", (state.noting lines).assign name .undefined)) ∧
      ∀ iterator body, ∃ lines, (renderNode input (.loop extent iterator expr body)).exec state =
        (.ok "", (state.noting lines).recordSoftly
          (Node.loopProblem input state.depth extent iterator expr))) ∧
    ∀ template : Template, Node.AllValueless template.walk →
      ∃ output after, renderFrom input template state = (.ok output, after) ∧
        output.text = Node.allShownAlone input.options (Node.metAll template.children) ∧
        output.errors = state.errors.toList ++
          (Node.metAll template.children).filterMap (Node.problemAlone? input state.depth) ∧
        (output.success = true ↔ state.errors.toList = [] ∧
          ∀ extent iterator iterable body,
            .loop extent iterator iterable body ∉ Node.metAll template.children) := by
  refine ⟨?_, ?_, ?_⟩
  · intro extent message
    exact exec_malformedNode input extent message state
  · intro expr malformed extent
    exact ⟨exec_choice_of_isMalformed input malformed extent state,
      exec_assignment_of_isMalformed input malformed extent state,
      exec_loop_of_isMalformed input malformed extent state collects⟩
  · intro template valueless
    rcases renderNodes_showsAlone collects template.children valueless state with
      ⟨after, done, _, recorded⟩
    refine ⟨_, _, by rw [renderFrom_eq_conclude, done]; rfl, rfl, recorded, ?_⟩
    rw [← filterMap_problemAlone?_eq_nil input state.depth, List.isEmpty_iff, recorded,
      List.append_eq_nil_iff]

/-- A choice and a binding with malformed expressions, and a tag of no known keyword. -/
def hollowText : String :=
  "a\x7b% if * %\x7db\x7b% else %\x7dc\x7b% endif %\x7d\x7b% set x = ] %\x7d\x7b% bogus %\x7d"

theorem malformed_tags_render_hollow :
    lenientInput.options.throwOnError = false ∧
      ∃ tokens output, tokenize {} hollowText = .ok tokens ∧
        Node.AllValueless (parse tokens).template.walk ∧
        render lenientInput (parse tokens).template = .ok output ∧ output.text = "ac" ∧
        output.errors = [] ∧ output.success = true := by
  refine ⟨rfl, ?_⟩
  have facts : ∀ tokens ∈ (tokenize {} hollowText).toOption,
      Node.AllValueless (parse tokens).template.walk ∧
        Node.allShownAlone {} (Node.metAll (parse tokens).template.children) = "ac" ∧
        ∀ node ∈ Node.metAll (parse tokens).template.children, node.label ≠ "for" := by
    decide +kernel
  rcases exists_tokens (show (tokenize {} hollowText).isOk = true by decide +kernel) with
    ⟨tokens, read⟩
  rw [read] at facts
  rcases facts tokens rfl with ⟨valueless, text, noLoop⟩
  have loopless : ∀ extent iterator iterable body,
      .loop extent iterator iterable body ∉ Node.metAll (parse tokens).template.children :=
    fun _ _ _ _ member => noLoop _ member rfl
  have renders := malformed_tags_render lenientInput rfl {}
  rcases renders.2.2 _ valueless with ⟨output, after, rendered, shown, raised, success⟩
  rw [(filterMap_problemAlone?_eq_nil _ _).mpr loopless] at raised
  refine ⟨tokens, output, read, valueless, ?_, shown.trans text, raised, ?_⟩
  · rw [render, rendered]
  · exact success.mpr ⟨rfl, loopless⟩

/-- A loop over what is malformed, and nothing else. -/
def loopOverNothing : String := "\x7b% for x in * %\x7da\x7b% endfor %\x7d"

/-- The loop raises a problem of its own, though nothing is in the template but what the parser has
reported. -/
theorem malformed_loop_raises : ∃ tokens output, tokenize {} loopOverNothing = .ok tokens ∧
    Node.AllValueless (parse tokens).template.walk ∧
    render lenientInput (parse tokens).template = .ok output ∧
    output.errors.map RenderError.kind = [.typeError] ∧ output.success = false := by
  have facts : ∀ tokens ∈ (tokenize {} loopOverNothing).toOption,
      Node.AllValueless (parse tokens).template.walk ∧
        (render lenientInput (parse tokens).template).toOption.map
          (fun output => (output.errors.map RenderError.kind, output.success)) =
            some ([.typeError], false) := by
    decide +kernel
  rcases exists_tokens (show (tokenize {} loopOverNothing).isOk = true by decide +kernel) with
    ⟨tokens, read⟩
  rw [read] at facts
  rcases facts tokens rfl with ⟨valueless, ends⟩
  cases rendered : render lenientInput (parse tokens).template with
  | error problem =>
      rw [rendered] at ends
      cases ends
  | ok output =>
      rw [rendered] at ends
      have parts := Prod.mk.inj (Option.some.inj ends)
      exact ⟨tokens, output, read, valueless, rendered, parts⟩

end Stencil
