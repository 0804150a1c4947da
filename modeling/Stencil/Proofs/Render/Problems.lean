import Stencil.Proofs.Render.Steps
/-!
# Problems that a render raises

A second reading of a template tells which problems a render meets, in order: root names that are
bound nowhere, functions that fail, operators that do not fit, and loops that cannot run. It follows
the render step by step, and what comes after a step is met only if the step goes on.

The reading says nothing about what becomes of a problem. That is what `Render.Raises` adds:
problems are recorded behind those recorded before, or the first of them is thrown and nothing is
recorded. The problem that ends every render is recorded in both cases, and is the last that is
raised.
-/

namespace Stencil

open Render

/-- The problems that a step raises, in order, told for each state that it begins in. -/
abbrev Problems := RenderState → List RenderError

namespace Problems

def none : Problems := fun _ => []

def only (error : RenderError) : Problems := fun _ => [error]

/-- The problems of a step and of those after it. A step that breaks the render off is the last. -/
def bind {α : Type} (problems : Problems) (action : Render α) (later : α → Problems) : Problems :=
  fun state =>
    problems state ++
      match action.exec state with
      | (.ok value, after) => later value after
      | (.error _, _) => []

/-- The problem of a root name, if it is bound nowhere. -/
def ofRoot (input : RenderInput) (span : Span) (root : String) : Problems := fun state =>
  if (state.lookup input.data root).isSome then []
  else [(RenderError.undefinedVariable root).located span]

/-- The problem of a call, if the function fails. -/
def ofCall (input : RenderInput) (span : Span) (name path : String) (value : Value)
    (args : List Value) : Problems := fun _ =>
  match input.registry.call name value args with
  | .error (.error error) =>
    [(RenderError.filterError name error.problem.message path).located span]
  | _ => []

/-- The problem of an operator, if the values do not fit. -/
def ofBinary (span : Span) (op : BinaryOp) (source : String) (left right : Value) : Problems :=
  fun _ =>
    if (op.value? left right).isSome then []
    else
      [(RenderError.typeError
        ("cannot apply '" ++ op.symbol ++ "' to " ++ left.kind ++ " and " ++ right.kind)
        source).located span]

/-- The problem of an iteration, if it is one too many. -/
def ofCount (input : RenderInput) (span : Span) (path : String) : Problems := fun state =>
  match input.options.maxIterations with
  | .none => []
  | some limit =>
    if limit < state.iterations + 1 then
      [(RenderError.runtime
        ("render exceeded the budget of " ++ toString limit ++ " loop iterations")
        path).located span]
    else []

/-- The problems of a loop whose elements have been evaluated. `inside` tells those of its body. -/
def ofIterations (counting : Problems) (start : Render Unit) (inside : Problems)
    (body : Render String) (iterator : String) (length : Nat) : Nat → List Value → Problems
  | _, [] => none
  | index, item :: rest =>
    counting.bind start fun _ =>
      bind (fun state => inside (state.enter (loopFrame iterator item index length)))
        (within (loopFrame iterator item index length) body) fun _ =>
          ofIterations counting start inside body iterator length (index + 1) rest

/-- The problem of too many loops inside of each other. -/
def tooDeep (input : RenderInput) (span : Span) (path : String) : RenderError :=
  (RenderError.runtime
    ("loop nesting exceeds the maximum depth of " ++ toString input.options.maxDepth)
    path).located span

/-- The problem of a loop over something that is no array. -/
def noArray (source : Span) (path : String) (value : Value) : RenderError :=
  (RenderError.typeError ("cannot iterate over a value of type " ++ value.kind) path).located source

/-- The problems of a loop: those of what is looped over, and then those of the iterations. -/
def ofLoop (input : RenderInput) (span source : Span) (path iterator : String)
    (evaluating : Problems) (items : Render Value) (inside : Problems) (body : Render String) :
    Problems := fun state =>
  if input.options.maxDepth ≤ state.depth then [tooDeep input span path]
  else
    evaluating.bind items (fun value =>
      match value with
      | .array values =>
        ofIterations (ofCount input span path) (countIteration input span path) inside body iterator
          values.length 0 values
      | other => only (noArray source path other)) state

end Problems

mutual

/-- The problems that the evaluation of an expression raises. -/
def exprProblems (input : RenderInput) : Expr → Problems
  | .literal _ _ => Problems.none
  | .access extent root path =>
    (pathProblems input path).bind (evaluatePath input path) fun _ =>
      Problems.ofRoot input extent.span root
  | .filter _ inner filters =>
    (exprProblems input inner).bind (evaluate input inner) fun value =>
      filtersProblems input value filters
  | .call extent name args =>
    (allProblems input args).bind (evaluateAll input args) fun values =>
      Problems.ofCall input extent.span name (extent.sourceOr name) (values.headD .undefined)
        values.tail
  | .binary extent op left right =>
    (exprProblems input left).bind (evaluate input left) fun first =>
      if (op.settled? first).isSome then Problems.none
      else
        (exprProblems input right).bind (evaluate input right) fun second =>
          Problems.ofBinary extent.span op (extent.sourceOr op.symbol) first second
  | .unary _ _ operand => exprProblems input operand
  | .array _ items => allProblems input items
  | .object _ entries => entriesProblems input entries
  | .paren _ inner => exprProblems input inner
  | .ternary _ condition thenBranch elseBranch =>
    (exprProblems input condition).bind (evaluate input condition) fun decision =>
      if decision.truthy then exprProblems input thenBranch else exprProblems input elseBranch
  | .malformed _ _ => Problems.none

/-- The problems of expressions that are evaluated one after another. -/
def allProblems (input : RenderInput) : List Expr → Problems
  | [] => Problems.none
  | expr :: rest =>
    (exprProblems input expr).bind (evaluate input expr) fun _ => allProblems input rest

def entriesProblems (input : RenderInput) : List (String × Expr) → Problems
  | [] => Problems.none
  | (_, expr) :: rest =>
    (exprProblems input expr).bind (evaluate input expr) fun _ => entriesProblems input rest

/-- The problems of the keys of a path. -/
def pathProblems (input : RenderInput) : List (PathStep Expr) → Problems
  | [] => Problems.none
  | .property _ :: rest => pathProblems input rest
  | .index key :: rest =>
    (exprProblems input key).bind (evaluate input key) fun _ => pathProblems input rest

/-- The problems of filters that a value is sent through. -/
def filtersProblems (input : RenderInput) (value : Value) : List (FilterCall Expr) → Problems
  | [] => Problems.none
  | ⟨name, args, span⟩ :: rest =>
    (allProblems input args).bind (evaluateAll input args) fun values =>
      (Problems.ofCall input span name name value values).bind
        (applyFilter input name span values value) fun result => filtersProblems input result rest

end

mutual

/-- The problems that the rendering of a node raises. -/
def nodeProblems (input : RenderInput) : Node → Problems
  | .text _ _ => Problems.none
  | .output extent value =>
    Problems.none.bind (trace input ("render expression at " ++ extent.span.start.text)) fun _ =>
      exprProblems input value
  | .choice extent condition body otherwise =>
    Problems.none.bind (trace input ("render if at " ++ extent.span.start.text)) fun _ =>
      (exprProblems input condition).bind (evaluate input condition) fun decision =>
        if decision.truthy then nodesProblems input body
        else
          match otherwise with
          | some nodes => nodesProblems input nodes
          | none => Problems.none
  | .loop extent iterator iterable body =>
    Problems.none.bind (trace input ("render for at " ++ extent.span.start.text)) fun _ =>
      Problems.ofLoop input extent.span iterable.span (iterable.extent.sourceOr iterator) iterator
        (exprProblems input iterable) (evaluate input iterable) (nodesProblems input body)
        (renderNodes input body)
  | .assignment extent _ value =>
    Problems.none.bind (trace input ("render set at " ++ extent.span.start.text)) fun _ =>
      exprProblems input value
  | .block extent _ body =>
    Problems.none.bind (trace input ("render block at " ++ extent.span.start.text)) fun _ =>
      nodesProblems input body
  | .malformed _ _ => Problems.none

/-- The problems of nodes that are rendered one after another. -/
def nodesProblems (input : RenderInput) : List Node → Problems
  | [] => Problems.none
  | node :: rest =>
    (nodeProblems input node).bind (renderNode input node) fun _ => nodesProblems input rest

end

/-- That no more iterations have been counted than are allowed. -/
def RenderState.WithinBudget (input : RenderInput) (state : RenderState) : Prop :=
  ∀ limit, input.options.maxIterations = some limit → state.iterations ≤ limit

namespace Render

/-- What a step that has raised problems leaves, and how it ends with them. -/
inductive Raised {α : Type} (input : RenderInput) (before : RenderState) :
    List RenderError → Except Interruption α × RenderState → Prop where
  /-- The step goes on, with its problems recorded. Where problems are thrown it has none. -/
  | goesOn {problems : List RenderError} {value : α} {after : RenderState}
      (recorded : after.errors.toList = before.errors.toList ++ problems)
      (collects : input.options.throwOnError = true → problems = [])
      (budget : before.WithinBudget input → after.WithinBudget input) :
      Raised input before problems (.ok value, after)
  /-- The first problem is thrown, and nothing is recorded. -/
  | thrown {error : RenderError} {after : RenderState}
      (recorded : after.errors.toList = before.errors.toList)
      (throws : input.options.throwOnError = true) :
      Raised input before [error] (.error (.thrown error), after)
  /-- There have been too many iterations. This problem is the last, and is recorded. -/
  | halted {problems : List RenderError} {error : RenderError} {after : RenderState}
      (recorded : after.errors.toList = before.errors.toList ++ (problems ++ [error]))
      (collects : input.options.throwOnError = true → problems = [])
      (kind : error.kind = .runtimeError) (exceeded : ¬after.WithinBudget input) :
      Raised input before (problems ++ [error]) (.error (.halted error), after)
  /-- A function has given up, with no problem of its own yet. -/
  | panicked {problems : List RenderError} {message : String} {after : RenderState}
      (recorded : after.errors.toList = before.errors.toList ++ problems)
      (collects : input.options.throwOnError = true → problems = [])
      (budget : before.WithinBudget input → after.WithinBudget input)
      (givesUp : ∃ name value args, input.registry.call name value args = .error (.panic message)) :
      Raised input before problems (.error (.panicked message), after)

/-- What comes after a step that went on. -/
theorem Raised.behind {α : Type} {input : RenderInput} {before middle : RenderState}
    {problems more : List RenderError} {outcome : Except Interruption α × RenderState}
    (raised : Raised input middle more outcome)
    (recorded : middle.errors.toList = before.errors.toList ++ problems)
    (collects : input.options.throwOnError = true → problems = [])
    (budget : before.WithinBudget input → middle.WithinBudget input) :
    Raised input before (problems ++ more) outcome := by
  have both {others : List RenderError} (none : input.options.throwOnError = true → others = [])
      (throws : input.options.throwOnError = true) : problems ++ others = [] := by
    rw [collects throws, none throws, List.append_nil]
  cases raised with
  | goesOn later none kept =>
      refine .goesOn ?_ (both none) fun within => kept (budget within)
      rw [later, recorded, List.append_assoc]
  | thrown later throws =>
      rw [collects throws, List.nil_append]
      refine .thrown ?_ throws
      rw [later, recorded, collects throws, List.append_nil]
  | halted later none kind exceeded =>
      rw [← List.append_assoc]
      refine .halted ?_ (both none) kind exceeded
      rw [later, recorded, List.append_assoc, List.append_assoc]
  | panicked later none kept givesUp =>
      refine .panicked ?_ (both none) (fun within => kept (budget within)) givesUp
      rw [later, recorded, List.append_assoc]

/-- Only the problems recorded before and the budget matter of the state in which a step begins. -/
theorem Raised.of_errors_eq {α : Type} {input : RenderInput} {before middle : RenderState}
    {problems : List RenderError} {outcome : Except Interruption α × RenderState}
    (raised : Raised input middle problems outcome) (same : middle.errors = before.errors)
    (budget : before.WithinBudget input → middle.WithinBudget input) :
    Raised input before problems outcome := by
  have recorded : middle.errors.toList = before.errors.toList ++ [] := by
    rw [same, List.append_nil]
  exact raised.behind recorded (fun _ => rfl) budget

/-- That a step raises the problems told of it, from every state. -/
def Raises {α : Type} (input : RenderInput) (problems : Problems) (action : Render α) : Prop :=
  ∀ state, Raised input state (problems state) (action.exec state)

namespace Raises

variable {α β : Type} {input : RenderInput} {problems : Problems} {action : Render α}
  {next : α → Render β}

/-- A step that always goes on and neither records nor counts anything. -/
theorem quiet (goesOn : ∀ state, ∃ value after, action.exec state = (.ok value, after) ∧
    after.errors = state.errors ∧ after.iterations = state.iterations) :
    Raises input Problems.none action := by
  intro state
  rcases goesOn state with ⟨value, after, done, same, count⟩
  rw [done]
  refine .goesOn ?_ (fun _ => rfl) fun budget => ?_
  · rw [same, Problems.none, List.append_nil]
  · intro limit allowed
    rw [count]
    exact budget limit allowed

theorem pure (value : α) : Raises input Problems.none (Pure.pure value) :=
  quiet fun state => ⟨value, state, rfl, rfl, rfl⟩

theorem note (line : String) : Raises input Problems.none (Render.note line) :=
  quiet fun state => ⟨(), _, exec_note line state, rfl, rfl⟩

theorem trace (line : String) : Raises input Problems.none (Render.trace input line) := by
  apply quiet
  intro state
  rcases exec_trace input line state with ⟨lines, traced⟩
  exact ⟨(), _, traced, rfl, rfl⟩

theorem bind {later : α → Problems} (first : Raises input problems action)
    (rest : ∀ value, Raises input (later value) (next value)) :
    Raises input (problems.bind action later) (action >>= next) := by
  intro state
  have raised := first state
  rw [Problems.bind, exec_bind]
  generalize problems state = here at raised ⊢
  generalize action.exec state = outcome at raised ⊢
  cases raised with
  | goesOn recorded collects budget => exact (rest _ _).behind recorded collects budget
  | thrown recorded throws =>
      rw [List.append_nil]
      exact .thrown recorded throws
  | halted recorded collects kind exceeded =>
      rw [List.append_nil]
      exact .halted recorded collects kind exceeded
  | panicked recorded collects budget givesUp =>
      rw [List.append_nil]
      exact .panicked recorded collects budget givesUp

/-- A step whose last parts raise nothing. -/
theorem andThen (first : Raises input problems action)
    (rest : ∀ value, Raises input Problems.none (next value)) :
    Raises input problems (action >>= next) := by
  intro state
  have raised := first.bind rest state
  rw [Problems.bind] at raised
  generalize action.exec state = outcome at raised
  rcases outcome with ⟨_ | value, after⟩ <;> simpa [Problems.none] using raised

theorem report (error : RenderError) :
    Raises input (Problems.only error) (Render.report input error) := by
  intro state
  unfold Render.report
  split
  · rename_i throws
    exact .thrown rfl throws
  · rename_i collects
    refine .goesOn ?_ (fun throws => absurd throws collects) id
    exact Array.toList_push

theorem access (span : Span) (root : String) (steps : List ResolvedStep) :
    Raises input (Problems.ofRoot input span root) (Render.access input span root steps) := by
  intro state
  unfold Render.access Problems.ofRoot
  rw [exec_bind_ok (exec_get state)]
  cases state.lookup input.data root with
  | some value => exact pure _ state
  | none => exact (report _).andThen (fun _ => pure _) state

/-- A line in the log does not change which problems a step raises, if they do not depend on it. -/
theorem behindTrace (raises : Raises input problems action)
    (steady : ∀ state lines, problems (RenderState.noting state lines) = problems state)
    (line : String) : Raises input problems (Render.trace input line >>= fun _ => action) := by
  intro state
  rcases exec_trace input line state with ⟨lines, traced⟩
  have raised := raises (state.noting lines)
  rw [steady] at raised
  rw [exec_bind_ok traced]
  exact raised.of_errors_eq rfl id

/-- A call raises the problem of a function that fails, if its caller reports it. -/
theorem calling (span : Span) (name path : String) (value : Value) (args : List Value)
    {next : Except FunctionError Value → Render β}
    (proper : ∀ result, Raises input Problems.none (next (.ok result)))
    (failing : ∀ error : FunctionError, Raises input
      (Problems.only ((RenderError.filterError name error.problem.message path).located span))
      (next (.error error))) :
    Raises input (Problems.ofCall input span name path value args)
      (call input name value args >>= next) := by
  intro state
  unfold Problems.ofCall
  rw [exec_bind, exec_call]
  generalize List.map _ _ = lines
  rcases answer : input.registry.call name value args with (error | message) | result
  · have raised := failing error (state.noting lines)
    exact raised.of_errors_eq rfl id
  · refine .panicked ?_ (fun _ => rfl) id ⟨name, value, args, answer⟩
    exact (List.append_nil _).symm
  · have raised := proper result (state.noting lines)
    exact raised.of_errors_eq rfl id

theorem applyFilter (name : String) (span : Span) (args : List Value) (value : Value) :
    Raises input (Problems.ofCall input span name name value args)
      (Render.applyFilter input name span args value) := by
  unfold Render.applyFilter
  apply behindTrace _ fun _ _ => rfl
  apply calling
  · exact fun result => pure result
  · exact fun error => (report _).andThen fun _ => pure value

theorem applyCall (span : Span) (name source : String) (args : List Value) :
    Raises input
      (Problems.ofCall input span name source (args.headD .undefined) args.tail)
      (Render.applyCall input span name source args) := by
  unfold Render.applyCall
  apply behindTrace _ fun _ _ => rfl
  apply calling
  · exact fun result => pure result
  · exact fun error => (report _).andThen fun _ => pure _

theorem applyBinary (span : Span) (op : BinaryOp) (source : String) (left right : Value) :
    Raises input (Problems.ofBinary span op source left right)
      (Render.applyBinary input span op source left right) := by
  unfold Render.applyBinary Problems.ofBinary
  cases op.value? left right with
  | some result => exact pure _
  | none => exact (report _).andThen fun _ => pure _

theorem countIteration (span : Span) (path : String) :
    Raises input (Problems.ofCount input span path) (Render.countIteration input span path) := by
  intro state
  unfold Render.countIteration Problems.ofCount
  rw [exec_bind_ok (exec_modify _ state)]
  cases allowed : input.options.maxIterations with
  | none =>
      refine .goesOn (List.append_nil _).symm (fun _ => rfl) ?_
      intro _ limit limited
      rw [allowed] at limited
      cases limited
  | some limit =>
      dsimp only
      rw [exec_bind_ok (exec_get _)]
      split
      · -- This problem is recorded also where problems are thrown.
        rename_i exceeded
        change Raised input state ([] ++ [_]) _
        refine .halted Array.toList_push (fun _ => rfl) rfl ?_
        intro budget
        exact Nat.not_le.mpr exceeded (budget limit allowed)
      · rename_i fits
        refine .goesOn (List.append_nil _).symm (fun _ => rfl) ?_
        intro _ other same
        rw [allowed] at same
        cases same
        exact Nat.not_lt.mp fits

theorem within (frame : Entries Value) (inside : Raises input problems action) :
    Raises input (fun state => problems (state.enter frame)) (Render.within frame action) := by
  intro state
  have raised := inside (state.enter frame)
  change Raised input state (problems (state.enter frame)) _
  rw [exec_within]
  generalize problems (state.enter frame) = here at raised ⊢
  generalize action.exec (state.enter frame) = outcome at raised ⊢
  cases raised with
  | goesOn recorded collects budget => exact .goesOn recorded collects budget
  | thrown recorded throws => exact .thrown recorded throws
  | halted recorded collects kind exceeded => exact .halted recorded collects kind exceeded
  | panicked recorded collects budget givesUp =>
      exact .panicked recorded collects budget givesUp

theorem iterate {counting inside : Problems} {start : Render Unit} {body : Render String}
    (counts : Raises input counting start) (bodies : Raises input inside body) (iterator : String)
    (length index : Nat) (items : List Value) (done : String) :
    Raises input
      (Problems.ofIterations counting start inside body iterator length index items)
      (Render.iterate start body iterator length index items done) := by
  induction items generalizing index done with
  | nil =>
      rw [Render.iterate, Problems.ofIterations]
      exact pure done
  | cons item rest ih =>
      rw [Render.iterate, Problems.ofIterations]
      refine counts.bind fun _ => (bodies.within _).bind fun piece => ?_
      exact ih (index + 1) (done ++ piece)

theorem loop {evaluating inside : Problems} {items : Render Value} {body : Render String}
    (evaluated : Raises input evaluating items) (bodies : Raises input inside body)
    (span source : Span) (path iterator : String) :
    Raises input
      (Problems.ofLoop input span source path iterator evaluating items inside body)
      (Render.loop input span source path iterator items body) := by
  intro state
  unfold Render.loop Problems.ofLoop
  rw [exec_bind_ok (exec_get state)]
  split
  · exact (report _).andThen (fun _ => pure _) state
  · refine evaluated.bind (fun value => ?_) state
    cases value with
    | array values => exact iterate (countIteration span path) bodies iterator _ 0 values ""
    | _ => exact (report _).andThen fun _ => pure _

end Raises

end Render

mutual

/-- The evaluation of an expression raises the problems told of it. -/
theorem evaluate_raises (input : RenderInput) :
    (expr : Expr) → Raises input (exprProblems input expr) (evaluate input expr)
  | .literal _ value => by
    rw [evaluate, exprProblems]
    exact Raises.pure _
  | .access extent root path => by
    rw [evaluate, exprProblems]
    exact (evaluatePath_raises input path).bind fun steps => Raises.access _ root steps
  | .filter _ inner filters => by
    rw [evaluate, exprProblems]
    exact (evaluate_raises input inner).bind fun value =>
      evaluateFilters_raises input value filters
  | .call extent name args => by
    rw [evaluate, exprProblems]
    exact (evaluateAll_raises input args).bind fun values => Raises.applyCall _ name _ values
  | .binary extent op left right => by
    rw [evaluate, exprProblems]
    refine (evaluate_raises input left).bind fun first => ?_
    cases op.settled? first with
    | some value => exact Raises.pure _
    | none =>
        exact (evaluate_raises input right).bind fun second =>
          Raises.applyBinary _ op _ first second
  | .unary _ op operand => by
    rw [evaluate, exprProblems]
    exact (evaluate_raises input operand).andThen fun _ => Raises.pure _
  | .array _ items => by
    rw [evaluate, exprProblems]
    exact (evaluateAll_raises input items).andThen fun _ => Raises.pure _
  | .object _ entries => by
    rw [evaluate, exprProblems]
    exact (evaluateEntries_raises input entries).andThen fun _ => Raises.pure _
  | .paren _ inner => by
    rw [evaluate, exprProblems]
    exact evaluate_raises input inner
  | .ternary _ condition thenBranch elseBranch => by
    rw [evaluate, exprProblems]
    refine (evaluate_raises input condition).bind fun decision => ?_
    split
    · exact evaluate_raises input thenBranch
    · exact evaluate_raises input elseBranch
  | .malformed extent message => by
    rw [evaluate, exprProblems]
    exact (Raises.note _).andThen fun _ => Raises.pure _

theorem evaluateAll_raises (input : RenderInput) :
    (exprs : List Expr) → Raises input (allProblems input exprs) (evaluateAll input exprs)
  | [] => by
    rw [evaluateAll, allProblems]
    exact Raises.pure _
  | expr :: rest => by
    rw [evaluateAll, allProblems]
    refine (evaluate_raises input expr).bind fun value => ?_
    exact (evaluateAll_raises input rest).andThen fun _ => Raises.pure _

theorem evaluateEntries_raises (input : RenderInput) :
    (entries : List (String × Expr)) →
      Raises input (entriesProblems input entries) (evaluateEntries input entries)
  | [] => by
    rw [evaluateEntries, entriesProblems]
    exact Raises.pure _
  | (key, expr) :: rest => by
    rw [evaluateEntries, entriesProblems]
    refine (evaluate_raises input expr).bind fun value => ?_
    exact (evaluateEntries_raises input rest).andThen fun _ => Raises.pure _

theorem evaluatePath_raises (input : RenderInput) :
    (path : List (PathStep Expr)) →
      Raises input (pathProblems input path) (evaluatePath input path)
  | [] => by
    rw [evaluatePath, pathProblems]
    exact Raises.pure _
  | .property name :: rest => by
    rw [evaluatePath, pathProblems]
    exact (evaluatePath_raises input rest).andThen fun _ => Raises.pure _
  | .index key :: rest => by
    rw [evaluatePath, pathProblems]
    refine (evaluate_raises input key).bind fun value => ?_
    exact (evaluatePath_raises input rest).andThen fun _ => Raises.pure _

theorem evaluateFilters_raises (input : RenderInput) (value : Value) :
    (filters : List (FilterCall Expr)) →
      Raises input (filtersProblems input value filters) (evaluateFilters input value filters)
  | [] => by
    rw [evaluateFilters, filtersProblems]
    exact Raises.pure _
  | ⟨name, args, span⟩ :: rest => by
    rw [evaluateFilters, filtersProblems]
    refine (evaluateAll_raises input args).bind fun values => ?_
    refine (Raises.applyFilter name span values value).bind fun result => ?_
    exact evaluateFilters_raises input result rest

end

mutual

/-- The rendering of a node raises the problems told of it. -/
theorem renderNode_raises (input : RenderInput) :
    (node : Node) → Raises input (nodeProblems input node) (renderNode input node)
  | .text extent content => by
    rw [renderNode, nodeProblems]
    exact (Raises.trace _).andThen fun _ => Raises.pure _
  | .output extent value => by
    rw [renderNode, nodeProblems]
    refine (Raises.trace _).bind fun _ => ?_
    exact (evaluate_raises input value).andThen fun _ => Raises.pure _
  | .choice extent condition body otherwise => by
    cases otherwise with
    | none =>
        rw [renderNode, nodeProblems]
        refine (Raises.trace _).bind fun _ => ?_
        refine (evaluate_raises input condition).bind fun decision => ?_
        split
        · exact renderNodes_raises input body
        · exact Raises.pure _
    | some nodes =>
        rw [renderNode, nodeProblems]
        refine (Raises.trace _).bind fun _ => ?_
        refine (evaluate_raises input condition).bind fun decision => ?_
        split
        · exact renderNodes_raises input body
        · exact renderNodes_raises input nodes
  | .loop extent iterator iterable body => by
    rw [renderNode, nodeProblems]
    refine (Raises.trace _).bind fun _ => ?_
    exact Raises.loop (evaluate_raises input iterable) (renderNodes_raises input body) _ _ _ _
  | .assignment extent name value => by
    rw [renderNode, nodeProblems]
    refine (Raises.trace _).bind fun _ => ?_
    refine (evaluate_raises input value).andThen fun result => ?_
    refine Raises.andThen (Raises.quiet fun state => ?_) fun _ => Raises.pure _
    refine ⟨(), _, exec_modify _ state, ?_⟩
    rw [RenderState.assign]
    split <;> exact ⟨rfl, rfl⟩
  | .block extent name body => by
    rw [renderNode, nodeProblems]
    exact (Raises.trace _).bind fun _ => renderNodes_raises input body
  | .malformed extent message => by
    rw [renderNode, nodeProblems]
    refine (Raises.trace _).andThen fun _ => ?_
    exact (Raises.note _).andThen fun _ => Raises.pure _

/-- The rendering of nodes raises the problems told of them. -/
theorem renderNodes_raises (input : RenderInput) :
    (nodes : List Node) → Raises input (nodesProblems input nodes) (renderNodes input nodes)
  | [] => by
    rw [renderNodes, nodesProblems]
    exact Raises.pure _
  | node :: rest => by
    rw [renderNodes, nodesProblems]
    refine (renderNode_raises input node).bind fun first => ?_
    exact (renderNodes_raises input rest).andThen fun _ => Raises.pure _

end

end Stencil
