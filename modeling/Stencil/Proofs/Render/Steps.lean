import Stencil.Render.Rendering
/-!
# Steps of a render and what they keep

A step of a render goes on with a result or breaks the render off, and leaves a state in both cases.
`Render.exec` gives the two together, and each kind of step has an equation for it.

`Render.Keeps` says that a relation holds between the state before a step and the state that it
leaves, however it ends. A relation that the single steps keep is kept by whole expressions
(`EvaluationInvariant`) and whole templates (`RenderingInvariant`), so the induction over trees is
done here once for every such relation.
-/

namespace Stencil

namespace Render

variable {α β : Type}

/-- How a step ends at a state, with the state that it leaves. -/
def exec (action : Render α) (state : RenderState) : Except Interruption α × RenderState :=
  action.run.run state

@[simp]
theorem exec_pure (value : α) (state : RenderState) :
    (pure value : Render α).exec state = (.ok value, state) := rfl

theorem exec_bind (action : Render α) (next : α → Render β) (state : RenderState) :
    (action >>= next).exec state =
      match action.exec state with
      | (.ok value, after) => (next value).exec after
      | (.error stop, after) => (.error stop, after) := by
  change (ExceptT.bindCont next (action.exec state).1).run (action.exec state).2 = _
  rcases action.exec state with ⟨_ | _, after⟩ <;> rfl

theorem exec_bind_ok {action : Render α} {next : α → Render β} {state after : RenderState}
    {value : α} (done : action.exec state = (.ok value, after)) :
    (action >>= next).exec state = (next value).exec after := by
  rw [exec_bind, done]

@[simp]
theorem exec_modify (change : RenderState → RenderState) (state : RenderState) :
    (modify change : Render Unit).exec state = (.ok (), change state) := rfl

@[simp]
theorem exec_get (state : RenderState) :
    (get : Render RenderState).exec state = (.ok state, state) := rfl

@[simp]
theorem exec_throw (stop : Interruption) (state : RenderState) :
    (throw stop : Render α).exec state = (.error stop, state) := rfl

@[simp]
theorem exec_note (line : String) (state : RenderState) :
    (note line).exec state = (.ok (), state.noting ["debug " ++ line]) := rfl

@[simp]
theorem exec_halt (error : RenderError) (state : RenderState) :
    (halt error : Render α).exec state = (.error (.halted error), state.recordLast error) := rfl

@[simp]
theorem exec_within (frame : Entries Value) (action : Render α) (state : RenderState) :
    (within frame action).exec state =
      ((action.exec (state.enter frame)).1, (action.exec (state.enter frame)).2.leave) := rfl

/-- What a call makes of the answer of a function. -/
def ofCallResult : CallResult → Except Interruption (Except FunctionError Value)
  | .ok result => .ok (.ok result)
  | .error (.error error) => .ok (.error error)
  | .error (.panic message) => .error (.panicked message)

theorem exec_call (input : RenderInput) (name : String) (value : Value) (args : List Value)
    (state : RenderState) :
    (call input name value args).exec state =
      (ofCallResult (input.registry.call name value args),
        state.noting ((input.registry.remarks name value args).map fun remark =>
          "debug " ++ remark)) := by
  simp only [call, exec_bind, exec_modify]
  rcases input.registry.call name value args with (_ | _) | _ <;> rfl

/-- The state that a debug line leaves: it may be longer by that line. -/
theorem exec_trace (input : RenderInput) (line : String) (state : RenderState) :
    ∃ lines, (trace input line).exec state = (.ok (), state.noting lines) := by
  unfold trace
  split
  · exact ⟨_, rfl⟩
  · refine ⟨[], ?_⟩
    simp [RenderState.noting]

/-- A relation between the states before and after a step, however the step ends. -/
def Keeps (relation : RenderState → RenderState → Prop) (action : Render α) : Prop :=
  ∀ state, relation state (action.exec state).2

end Render

open Render

/-- A relation between earlier and later states that chains, and that new lines in the log and new
problems do not break. -/
structure EvaluationInvariant (relation : RenderState → RenderState → Prop) : Prop where
  refl (state : RenderState) : relation state state
  trans {first second third : RenderState} :
    relation first second → relation second third → relation first third
  noting (state : RenderState) (lines : List String) : relation state (state.noting lines)
  recording (state : RenderState) (error : RenderError) : relation state (state.recording error)

namespace EvaluationInvariant

variable {α β : Type} {relation : RenderState → RenderState → Prop}

theorem pure (invariant : EvaluationInvariant relation) (value : α) :
    Keeps relation (Pure.pure value) := by
  intro state
  exact invariant.refl state

theorem bind (invariant : EvaluationInvariant relation) {action : Render α} {next : α → Render β}
    (first : Keeps relation action) (rest : ∀ value, Keeps relation (next value)) :
    Keeps relation (action >>= next) := by
  intro state
  have kept := first state
  rw [exec_bind]
  generalize action.exec state = outcome at kept ⊢
  rcases outcome with ⟨_ | value, after⟩
  · exact kept
  · exact invariant.trans kept (rest value after)

/-- What an action learns from the state does not matter if it keeps a relation in every case. -/
theorem get_bind (invariant : EvaluationInvariant relation) {next : RenderState → Render β}
    (rest : ∀ state, Keeps relation (next state)) : Keeps relation (get >>= next) :=
  invariant.bind (fun state => invariant.refl state) rest

theorem trace (invariant : EvaluationInvariant relation) (input : RenderInput) (line : String) :
    Keeps relation (Render.trace input line) := by
  intro state
  rcases exec_trace input line state with ⟨lines, traced⟩
  rw [traced]
  exact invariant.noting state lines

theorem report (invariant : EvaluationInvariant relation) (input : RenderInput)
    (error : RenderError) : Keeps relation (Render.report input error) := by
  intro state
  unfold Render.report
  split
  · exact invariant.refl state
  · exact invariant.trans (invariant.noting state _) (invariant.recording _ error)

theorem recordLast (invariant : EvaluationInvariant relation) (state : RenderState)
    (error : RenderError) : relation state (state.recordLast error) :=
  invariant.trans (invariant.noting state _) (invariant.recording _ error)

theorem call (invariant : EvaluationInvariant relation) (input : RenderInput) (name : String)
    (value : Value) (args : List Value) : Keeps relation (Render.call input name value args) := by
  intro state
  rw [exec_call]
  exact invariant.noting state _

theorem access (invariant : EvaluationInvariant relation) (input : RenderInput) (span : Span)
    (root : String) (steps : List ResolvedStep) :
    Keeps relation (Render.access input span root steps) := by
  unfold Render.access
  apply invariant.get_bind
  intro state
  split
  · exact invariant.pure _
  · exact invariant.bind (invariant.report input _) fun _ => invariant.pure _

theorem applyFilter (invariant : EvaluationInvariant relation) (input : RenderInput)
    (name : String) (span : Span) (args : List Value) (value : Value) :
    Keeps relation (Render.applyFilter input name span args value) := by
  unfold Render.applyFilter
  refine invariant.bind (invariant.trace input _) fun _ => ?_
  refine invariant.bind (invariant.call input name value args) fun answer => ?_
  split
  · exact invariant.pure _
  · exact invariant.bind (invariant.report input _) fun _ => invariant.pure _

theorem applyCall (invariant : EvaluationInvariant relation) (input : RenderInput) (span : Span)
    (name source : String) (args : List Value) :
    Keeps relation (Render.applyCall input span name source args) := by
  unfold Render.applyCall
  refine invariant.bind (invariant.trace input _) fun _ => ?_
  refine invariant.bind (invariant.call input name _ _) fun answer => ?_
  split
  · exact invariant.pure _
  · exact invariant.bind (invariant.report input _) fun _ => invariant.pure _

theorem applyBinary (invariant : EvaluationInvariant relation) (input : RenderInput) (span : Span)
    (op : BinaryOp) (source : String) (left right : Value) :
    Keeps relation (Render.applyBinary input span op source left right) := by
  unfold Render.applyBinary
  split
  · exact invariant.pure _
  · exact invariant.bind (invariant.report input _) fun _ => invariant.pure _

end EvaluationInvariant

variable {relation : RenderState → RenderState → Prop}

mutual

/-- Evaluating an expression keeps every relation that its single steps keep. -/
theorem evaluate_keeps (invariant : EvaluationInvariant relation) (input : RenderInput) :
    (expr : Expr) → Keeps relation (evaluate input expr)
  | .literal _ value => by
    rw [evaluate]
    exact invariant.pure _
  | .access extent root path => by
    rw [evaluate]
    exact invariant.bind (evaluatePath_keeps invariant input path) fun steps =>
      invariant.access input _ root steps
  | .filter _ inner filters => by
    rw [evaluate]
    exact invariant.bind (evaluate_keeps invariant input inner) fun value =>
      evaluateFilters_keeps invariant input value filters
  | .call extent name args => by
    rw [evaluate]
    exact invariant.bind (evaluateAll_keeps invariant input args) fun values =>
      invariant.applyCall input _ name _ values
  | .binary extent op left right => by
    rw [evaluate]
    refine invariant.bind (evaluate_keeps invariant input left) fun first => ?_
    split
    · exact invariant.pure _
    · exact invariant.bind (evaluate_keeps invariant input right) fun second =>
        invariant.applyBinary input _ op _ first second
  | .unary _ op operand => by
    rw [evaluate]
    exact invariant.bind (evaluate_keeps invariant input operand) fun _ => invariant.pure _
  | .array _ items => by
    rw [evaluate]
    exact invariant.bind (evaluateAll_keeps invariant input items) fun _ => invariant.pure _
  | .object _ entries => by
    rw [evaluate]
    exact invariant.bind (evaluateEntries_keeps invariant input entries) fun _ =>
      invariant.pure _
  | .paren _ inner => by
    rw [evaluate]
    exact evaluate_keeps invariant input inner
  | .ternary _ condition thenBranch elseBranch => by
    rw [evaluate]
    refine invariant.bind (evaluate_keeps invariant input condition) fun decision => ?_
    split
    · exact evaluate_keeps invariant input thenBranch
    · exact evaluate_keeps invariant input elseBranch
  | .malformed extent message => by
    rw [evaluate]
    exact invariant.bind (fun state => invariant.noting state _) fun _ => invariant.pure _

theorem evaluateAll_keeps (invariant : EvaluationInvariant relation) (input : RenderInput) :
    (exprs : List Expr) → Keeps relation (evaluateAll input exprs)
  | [] => by
    rw [evaluateAll]
    exact invariant.pure _
  | expr :: rest => by
    rw [evaluateAll]
    refine invariant.bind (evaluate_keeps invariant input expr) fun value => ?_
    exact invariant.bind (evaluateAll_keeps invariant input rest) fun _ => invariant.pure _

theorem evaluateEntries_keeps (invariant : EvaluationInvariant relation) (input : RenderInput) :
    (entries : List (String × Expr)) → Keeps relation (evaluateEntries input entries)
  | [] => by
    rw [evaluateEntries]
    exact invariant.pure _
  | (key, expr) :: rest => by
    rw [evaluateEntries]
    refine invariant.bind (evaluate_keeps invariant input expr) fun value => ?_
    exact invariant.bind (evaluateEntries_keeps invariant input rest) fun _ => invariant.pure _

theorem evaluatePath_keeps (invariant : EvaluationInvariant relation) (input : RenderInput) :
    (path : List (PathStep Expr)) → Keeps relation (evaluatePath input path)
  | [] => by
    rw [evaluatePath]
    exact invariant.pure _
  | .property name :: rest => by
    rw [evaluatePath]
    exact invariant.bind (evaluatePath_keeps invariant input rest) fun _ => invariant.pure _
  | .index key :: rest => by
    rw [evaluatePath]
    refine invariant.bind (evaluate_keeps invariant input key) fun value => ?_
    exact invariant.bind (evaluatePath_keeps invariant input rest) fun _ => invariant.pure _

theorem evaluateFilters_keeps (invariant : EvaluationInvariant relation) (input : RenderInput)
    (value : Value) : (filters : List (FilterCall Expr)) →
      Keeps relation (evaluateFilters input value filters)
  | [] => by
    rw [evaluateFilters]
    exact invariant.pure _
  | ⟨name, args, span⟩ :: rest => by
    rw [evaluateFilters]
    refine invariant.bind (evaluateAll_keeps invariant input args) fun values => ?_
    refine invariant.bind (invariant.applyFilter input name span values value) fun result => ?_
    exact evaluateFilters_keeps invariant input result rest

end

/-- The state in which an iteration has been counted. -/
def RenderState.counted (state : RenderState) : RenderState :=
  { state with iterations := state.iterations + 1 }

/-- The problem of an iteration that is one too many. -/
def overBudget (limit : Nat) (span : Span) (path : String) : RenderError :=
  (RenderError.runtime
    ("render exceeded the budget of " ++ toString limit ++ " loop iterations") path).located span

namespace Render

variable {input : RenderInput} {limit : Nat} {state : RenderState}

theorem exec_countIteration_of_none (unlimited : input.options.maxIterations = none) (span : Span)
    (path : String) (state : RenderState) :
    (countIteration input span path).exec state = (.ok (), state.counted) := by
  unfold countIteration
  rw [exec_bind_ok (exec_modify _ state), unlimited]
  rfl

theorem exec_countIteration_of_le (limited : input.options.maxIterations = some limit)
    (fits : state.iterations + 1 ≤ limit) (span : Span) (path : String) :
    (countIteration input span path).exec state = (.ok (), state.counted) := by
  have notOver : ¬limit < state.iterations + 1 := by omega
  unfold countIteration
  rw [exec_bind_ok (exec_modify _ state), limited]
  dsimp only
  rw [exec_bind_ok (exec_get _), if_neg notOver]
  rfl

theorem exec_countIteration_of_lt (limited : input.options.maxIterations = some limit)
    (exceeded : limit < state.iterations + 1) (span : Span) (path : String) :
    (countIteration input span path).exec state =
      (.error (.halted (overBudget limit span path)),
        state.counted.recordLast (overBudget limit span path)) := by
  unfold countIteration
  rw [exec_bind_ok (exec_modify _ state), limited]
  dsimp only
  rw [exec_bind_ok (exec_get _), if_pos exceeded]
  rfl

/-- Counting an iteration either leaves the counted state, or ends the render with a problem that is
recorded in it. -/
theorem exec_countIteration (input : RenderInput) (span : Span) (path : String)
    (state : RenderState) :
    (countIteration input span path).exec state = (.ok (), state.counted) ∨
      ∃ error, (countIteration input span path).exec state =
        (.error (.halted error), state.counted.recordLast error) := by
  cases allowed : input.options.maxIterations with
  | none => exact .inl (exec_countIteration_of_none allowed span path state)
  | some limit =>
      by_cases exceeded : limit < state.iterations + 1
      · exact .inr ⟨_, exec_countIteration_of_lt allowed exceeded span path⟩
      · exact .inl (exec_countIteration_of_le allowed (Nat.not_lt.mp exceeded) span path)

end Render

namespace EvaluationInvariant

theorem countIteration (invariant : EvaluationInvariant relation)
    (counted : ∀ state : RenderState, relation state state.counted) (input : RenderInput)
    (span : Span) (path : String) : Keeps relation (Render.countIteration input span path) := by
  intro state
  rcases exec_countIteration input span path state with going | ⟨error, halted⟩
  · rw [going]
    exact counted state
  · rw [halted]
    exact invariant.trans (counted state) (invariant.recordLast _ error)

/-- A loop keeps what its body keeps inside of a frame that is left afterwards. -/
theorem iterate (invariant : EvaluationInvariant relation) {start : Render Unit}
    {body : Render String} (starts : Keeps relation start)
    (pieces : ∀ frame, Keeps relation (within frame body))
    (iterator : String) (length index : Nat) (items : List Value) (done : String) :
    Keeps relation (Render.iterate start body iterator length index items done) := by
  induction items generalizing index done with
  | nil =>
      rw [Render.iterate]
      exact invariant.pure _
  | cons item rest ih =>
      rw [Render.iterate]
      refine invariant.bind starts fun _ => ?_
      refine invariant.bind (pieces _) fun piece => ?_
      exact ih (index + 1) (done ++ piece)

theorem loop (invariant : EvaluationInvariant relation)
    (counted : ∀ state : RenderState, relation state state.counted) (input : RenderInput)
    (span source : Span) (path iterator : String) {items : Render Value} {body : Render String}
    (evaluated : Keeps relation items) (pieces : ∀ frame, Keeps relation (within frame body)) :
    Keeps relation (Render.loop input span source path iterator items body) := by
  unfold Render.loop
  apply invariant.get_bind
  intro state
  split
  · exact invariant.bind (invariant.report input _) fun _ => invariant.pure _
  · refine invariant.bind evaluated fun value => ?_
    split
    · exact invariant.iterate (invariant.countIteration counted input span path) pieces _ _ _ _ _
    · exact invariant.bind (invariant.report input _) fun _ => invariant.pure _

end EvaluationInvariant

/-- An invariant of evaluation that bindings and counted iterations do not break either, and that
survives what is done inside of a frame. -/
structure RenderingInvariant (relation : RenderState → RenderState → Prop) : Prop
    extends EvaluationInvariant relation where
  assign (state : RenderState) (name : String) (value : Value) :
    relation state (state.assign name value)
  counted (state : RenderState) : relation state state.counted
  enclosed {state inside : RenderState} {frame : Entries Value} :
    relation (state.enter frame) inside → relation state inside.leave

theorem RenderingInvariant.within (invariant : RenderingInvariant relation) {α : Type}
    {action : Render α} (kept : Keeps relation action) (frame : Entries Value) :
    Keeps relation (Render.within frame action) := by
  intro state
  rw [exec_within]
  exact invariant.enclosed (kept (state.enter frame))

/-- The state in which a node begins, with a line in the log if lines are asked for. -/
def RenderState.begun (input : RenderInput) (node : Node) (state : RenderState) : RenderState :=
  ((trace input ("render " ++ node.label ++ " at " ++ node.span.start.text)).exec state).2

section Begun

variable {input : RenderInput} {node : Node}

theorem exec_trace_begun (input : RenderInput) (node : Node) (state : RenderState) :
    (trace input ("render " ++ node.label ++ " at " ++ node.span.start.text)).exec state =
      (.ok (), state.begun input node) := by
  rcases exec_trace input _ state with ⟨lines, traced⟩
  rw [RenderState.begun, traced]

@[simp]
theorem RenderState.frames_begun (state : RenderState) :
    (state.begun input node).frames = state.frames := by
  rcases exec_trace input _ state with ⟨lines, traced⟩
  rw [RenderState.begun, traced]
  rfl

@[simp]
theorem RenderState.globals_begun (state : RenderState) :
    (state.begun input node).globals = state.globals := by
  rcases exec_trace input _ state with ⟨lines, traced⟩
  rw [RenderState.begun, traced]
  rfl

@[simp]
theorem RenderState.depth_begun (state : RenderState) :
    (state.begun input node).depth = state.depth := by
  rw [depth, depth, frames_begun]

/-- A node does what comes behind the line that it begins with. -/
theorem exec_of_begun {rest : Render String}
    (rendered : renderNode input node =
      (trace input ("render " ++ node.label ++ " at " ++ node.span.start.text) >>= fun _ => rest))
    (state : RenderState) :
    (renderNode input node).exec state = rest.exec (state.begun input node) := by
  rw [rendered, exec_bind_ok (exec_trace_begun input node state)]

theorem exec_loop_begun (input : RenderInput) (extent : Extent) (iterator : String)
    (iterable : Expr) (body : List Node) (state : RenderState) :
    (renderNode input (.loop extent iterator iterable body)).exec state =
      (loop input extent.span iterable.span (iterable.extent.sourceOr iterator) iterator
        (evaluate input iterable) (renderNodes input body)).exec
          (state.begun input (.loop extent iterator iterable body)) :=
  exec_of_begun (by rw [renderNode]; rfl) state

end Begun

/-- A choice without another branch is one whose other branch is empty. -/
theorem renderNode_choice (input : RenderInput) (extent : Extent) (condition : Expr)
    (body : List Node) (otherwise : Option (List Node)) :
    renderNode input (.choice extent condition body otherwise) =
      (trace input ("render if at " ++ extent.span.start.text) >>= fun _ =>
        evaluate input condition >>= fun decision =>
          if decision.truthy then renderNodes input body
          else renderNodes input (otherwise.getD [])) := by
  cases otherwise with
  | none =>
      rw [renderNode, Option.getD_none, renderNodes]
  | some nodes =>
      rw [renderNode]
      rfl

mutual

/-- Rendering a node keeps every relation that the single steps of a render keep. -/
theorem renderNode_keeps (invariant : RenderingInvariant relation) (input : RenderInput) :
    (node : Node) → Keeps relation (renderNode input node)
  | .text extent content => by
    rw [renderNode]
    exact invariant.bind (invariant.trace input _) fun _ => invariant.pure _
  | .output extent value => by
    rw [renderNode]
    refine invariant.bind (invariant.trace input _) fun _ => ?_
    refine invariant.bind (evaluate_keeps invariant.toEvaluationInvariant input value) ?_
    exact fun _ => invariant.pure _
  | .choice extent condition body otherwise => by
    have decided := evaluate_keeps invariant.toEvaluationInvariant input condition
    cases otherwise with
    | none =>
        rw [renderNode]
        refine invariant.bind (invariant.trace input _) fun _ => ?_
        refine invariant.bind decided fun decision => ?_
        split
        · exact renderNodes_keeps invariant input body
        · exact invariant.pure _
    | some nodes =>
        rw [renderNode]
        refine invariant.bind (invariant.trace input _) fun _ => ?_
        refine invariant.bind decided fun decision => ?_
        split
        · exact renderNodes_keeps invariant input body
        · exact renderNodes_keeps invariant input nodes
  | .loop extent iterator iterable body => by
    rw [renderNode]
    refine invariant.bind (invariant.trace input _) fun _ => ?_
    exact invariant.loop invariant.counted input _ _ _ iterator
      (evaluate_keeps invariant.toEvaluationInvariant input iterable)
      (invariant.within (renderNodes_keeps invariant input body))
  | .assignment extent name value => by
    rw [renderNode]
    refine invariant.bind (invariant.trace input _) fun _ => ?_
    refine invariant.bind (evaluate_keeps invariant.toEvaluationInvariant input value) ?_
    intro result
    exact invariant.bind (fun state => invariant.assign state name result) fun _ =>
      invariant.pure _
  | .block extent name body => by
    rw [renderNode]
    exact invariant.bind (invariant.trace input _) fun _ =>
      renderNodes_keeps invariant input body
  | .malformed extent message => by
    rw [renderNode]
    refine invariant.bind (invariant.trace input _) fun _ => ?_
    exact invariant.bind (fun state => invariant.noting state _) fun _ => invariant.pure _

theorem renderNodes_keeps (invariant : RenderingInvariant relation) (input : RenderInput) :
    (nodes : List Node) → Keeps relation (renderNodes input nodes)
  | [] => by
    rw [renderNodes]
    exact invariant.pure _
  | node :: rest => by
    rw [renderNodes]
    refine invariant.bind (renderNode_keeps invariant input node) fun first => ?_
    exact invariant.bind (renderNodes_keeps invariant input rest) fun _ => invariant.pure _

end

/-- What a render gives when the walk over its nodes has ended, with the state that it leaves. -/
def conclude (input : RenderInput) : Except Interruption String × RenderState →
    Except RenderError RenderOutput × RenderState
  | (.ok text, state) =>
    (.ok { text, errors := state.errors.toList, success := state.errors.toList.isEmpty },
      state.takeErrors.2)
  | (.error (.thrown error), state) => endEarly input error state
  | (.error (.halted error), state) => endEarly input error state
  | (.error (.panicked message), state) =>
    endEarly input (panicError message) (state.recordLast (panicError message))

theorem renderFrom_eq_conclude (input : RenderInput) (template : Template) (state : RenderState) :
    renderFrom input template state =
      conclude input ((renderNodes input template.children).exec state) := by
  unfold renderFrom exec
  rcases (renderNodes input template.children).run.run state with ⟨(_ | _ | _) | _, after⟩ <;> rfl

/-- A whole render keeps a relation that its steps keep and that does not mind the recorded problems
being taken out. -/
theorem renderFrom_keeps (invariant : RenderingInvariant relation)
    (taking : ∀ state : RenderState, relation state state.takeErrors.2) (input : RenderInput)
    (template : Template) (state : RenderState) :
    relation state (renderFrom input template state).2 := by
  have kept := renderNodes_keeps invariant input template.children state
  rw [renderFrom_eq_conclude]
  generalize (renderNodes input template.children).exec state = outcome at kept ⊢
  have ending (error : RenderError) (last : RenderState) (reached : relation state last) :
      relation state (endEarly input error last).2 := by
    unfold endEarly
    split
    · exact reached
    · exact invariant.trans reached (taking last)
  rcases outcome with ⟨(error | error | message) | text, after⟩
  · exact ending error after kept
  · exact ending error after kept
  · exact ending _ _ (invariant.trans kept (invariant.recordLast after _))
  · exact invariant.trans kept (taking after)

end Stencil
