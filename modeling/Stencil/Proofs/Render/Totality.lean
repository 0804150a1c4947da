import Stencil.Proofs.Render.Delivery
import Stencil.Proofs.Render.Throwing
/-!
# Lenient renders are total

Where problems are collected, only a limit on iterations and a panic can break a render off. Without
them no step ever does: the walk over a template goes through every node on its path, and its text
is what these nodes show, in order. `Goes` tells this walk by rules, none of which breaks off.

With them a render still has a result: no text, and the problems recorded until then with the one
that has ended it behind them.
-/

namespace Stencil

open Render

/-- A node that a walk comes to, with the value that it shows if it shows one. -/
structure Visit where
  node : Node
  value : Option Value := none

/-- What is shown at a visit: the content of a text, the value of an expression, or nothing. -/
def Visit.shown (options : RenderOptions) (visit : Visit) : String :=
  match visit.node, visit.value with
  | .text _ content, _ => content
  | _, some value => options.shown value
  | _, none => ""

/-- What is shown at visits, one after the other. -/
def shownAll (options : RenderOptions) (visits : List Visit) : String :=
  String.join (visits.map (Visit.shown options))

section Showing

variable (options : RenderOptions)

theorem shownAll_cons (visit : Visit) (visits : List Visit) :
    shownAll options (visit :: visits) = visit.shown options ++ shownAll options visits := by
  rw [shownAll, List.map_cons, String.join_cons]
  rfl

theorem shownAll_singleton (visit : Visit) : shownAll options [visit] = visit.shown options := by
  rw [shownAll_cons]
  exact String.append_empty

theorem shownAll_cons_of_empty {visit : Visit} (nothing : visit.shown options = "")
    (visits : List Visit) : shownAll options (visit :: visits) = shownAll options visits := by
  rw [shownAll_cons, nothing, String.empty_append]

theorem shownAll_append (early late : List Visit) :
    shownAll options (early ++ late) = shownAll options early ++ shownAll options late := by
  rw [shownAll, List.map_append, String.join_append]
  rfl

end Showing

mutual

/-- That a walk goes through a node from a state in which the node has begun: with the value that is
shown if one is, the visits inside of the node, and the state behind it. -/
inductive Goes (input : RenderInput) :
    Node → RenderState → Option Value → List Visit → RenderState → Prop where
  | text {extent : Extent} {content : String} {state : RenderState} :
      Goes input (.text extent content) state none [] state
  | output {extent : Extent} {expr : Expr} {value : Value} {state after : RenderState}
      (evaluated : (evaluate input expr).exec state = (.ok value, after)) :
      Goes input (.output extent expr) state (some value) [] after
  | holds {extent : Extent} {condition : Expr} {body : List Node} {otherwise : Option (List Node)}
      {decision : Value} {visits : List Visit} {state middle after : RenderState}
      (decided : (evaluate input condition).exec state = (.ok decision, middle))
      (truthy : decision.truthy = true) (inside : GoesThrough input body middle visits after) :
      Goes input (.choice extent condition body otherwise) state none visits after
  | fails {extent : Extent} {condition : Expr} {body : List Node} {otherwise : Option (List Node)}
      {decision : Value} {visits : List Visit} {state middle after : RenderState}
      (decided : (evaluate input condition).exec state = (.ok decision, middle))
      (falsy : decision.truthy = false)
      (inside : GoesThrough input (otherwise.getD []) middle visits after) :
      Goes input (.choice extent condition body otherwise) state none visits after
  | tooDeep {extent : Extent} {iterator : String} {iterable : Expr} {body : List Node}
      {state : RenderState} (deep : input.options.maxDepth ≤ state.depth) :
      Goes input (.loop extent iterator iterable body) state none []
        (state.recordSoftly
          (Problems.tooDeep input extent.span (iterable.extent.sourceOr iterator)))
  | iterations {extent : Extent} {iterator : String} {iterable : Expr} {body : List Node}
      {items : List Value} {visits : List Visit} {state middle after : RenderState}
      (room : state.depth < input.options.maxDepth)
      (evaluated : (evaluate input iterable).exec state = (.ok (.array items), middle))
      (each : GoesRound input iterator body items.length 0 items middle visits after) :
      Goes input (.loop extent iterator iterable body) state none visits after
  | noArray {extent : Extent} {iterator : String} {iterable : Expr} {body : List Node}
      {value : Value} {state after : RenderState} (room : state.depth < input.options.maxDepth)
      (evaluated : (evaluate input iterable).exec state = (.ok value, after))
      (other : ∀ items, value ≠ .array items) :
      Goes input (.loop extent iterator iterable body) state none []
        (after.recordSoftly
          (Problems.noArray iterable.span (iterable.extent.sourceOr iterator) value))
  | assignment {extent : Extent} {name : String} {expr : Expr} {value : Value}
      {state after : RenderState}
      (evaluated : (evaluate input expr).exec state = (.ok value, after)) :
      Goes input (.assignment extent name expr) state none [] (after.assign name value)
  | block {extent : Extent} {name : String} {body : List Node} {visits : List Visit}
      {state after : RenderState} (inside : GoesThrough input body state visits after) :
      Goes input (.block extent name body) state none visits after
  | malformed {extent : Extent} {message : String} {state : RenderState} :
      Goes input (.malformed extent message) state none []
        (state.noting ["debug " ++
          ("skipping malformed node at " ++ extent.span.start.text ++ ": " ++ message)])

/-- That a walk goes through nodes one after another, and visits each before those inside of it. -/
inductive GoesThrough (input : RenderInput) :
    List Node → RenderState → List Visit → RenderState → Prop where
  | nil {state : RenderState} : GoesThrough input [] state [] state
  | cons {node : Node} {rest : List Node} {value : Option Value} {early late : List Visit}
      {state middle after : RenderState}
      (first : Goes input node (state.begun input node) value early middle)
      (later : GoesThrough input rest middle late after) :
      GoesThrough input (node :: rest) state (⟨node, value⟩ :: (early ++ late)) after

/-- That a walk goes through the body of a loop once for each element, in a frame of its own. -/
inductive GoesRound (input : RenderInput) : String → List Node → Nat → Nat → List Value →
    RenderState → List Visit → RenderState → Prop where
  | nil {iterator : String} {body : List Node} {length index : Nat} {state : RenderState} :
      GoesRound input iterator body length index [] state [] state
  | cons {iterator : String} {body : List Node} {length index : Nat} {item : Value}
      {rest : List Value} {early late : List Visit} {state inside after : RenderState}
      (first : GoesThrough input body
        (state.counted.enter (loopFrame iterator item index length)) early inside)
      (later : GoesRound input iterator body length (index + 1) rest inside.leave late after) :
      GoesRound input iterator body length index (item :: rest) state (early ++ late) after

end

/-- That no function gives up without a proper failure. -/
def Registry.NeverPanics (registry : Registry) : Prop :=
  ∀ name value args message, registry.call name value args ≠ .error (.panic message)

/-- That nothing can break a render off: problems are collected, iterations are not limited, and no
function panics. -/
structure RenderInput.Unbroken (input : RenderInput) : Prop where
  collects : input.options.throwOnError = false
  unlimited : input.options.maxIterations = none
  proper : input.registry.NeverPanics

variable {input : RenderInput}

/-- Where nothing can break a render off, a step goes on. -/
theorem RenderInput.Unbroken.exists_ok {α : Type} (unbroken : input.Unbroken)
    {before : RenderState} {problems : List RenderError}
    {outcome : Except Interruption α × RenderState}
    (raised : Raised input before problems outcome) :
    ∃ value after, outcome = (.ok value, after) := by
  cases raised with
  | goesOn recorded collects budget => exact ⟨_, _, rfl⟩
  | thrown recorded throws =>
      rw [unbroken.collects] at throws
      cases throws
  | halted recorded collects kind exceeded =>
      refine absurd ?_ exceeded
      intro limit limited
      rw [unbroken.unlimited] at limited
      cases limited
  | panicked recorded collects budget givesUp =>
      rcases givesUp with ⟨name, value, args, panicked⟩
      exact absurd panicked (unbroken.proper name value args _)

theorem RenderInput.Unbroken.exists_evaluated (unbroken : input.Unbroken) (expr : Expr)
    (state : RenderState) : ∃ value after, (evaluate input expr).exec state = (.ok value, after) :=
  unbroken.exists_ok (evaluate_raises input expr state)

section Walking

/-- That the nodes inside of something are gone through, and that their text is what they show. -/
def ShowsAll (input : RenderInput) (nodes : List Node) : Prop :=
  ∀ state, ∃ visits after, GoesThrough input nodes state visits after ∧
    (renderNodes input nodes).exec state = (.ok (shownAll input.options visits), after)

/-- That a node is gone through, and that its text is what is shown at it and inside of it. -/
def Shows (input : RenderInput) (node : Node) : Prop :=
  ∀ state, ∃ value visits after, Goes input node (state.begun input node) value visits after ∧
    (renderNode input node).exec state =
      (.ok (shownAll input.options (⟨node, value⟩ :: visits)), after)

/-- Every node begins with a line in the log. What is rendered behind it decides what is shown. -/
theorem shows_of_begun {node : Node} {rest : Render String}
    (rendered : renderNode input node =
      (trace input ("render " ++ node.label ++ " at " ++ node.span.start.text) >>= fun _ => rest))
    (goes : ∀ begun, ∃ value visits after, Goes input node begun value visits after ∧
      rest.exec begun = (.ok (shownAll input.options (⟨node, value⟩ :: visits)), after)) :
    Shows input node := by
  intro state
  rw [exec_of_begun rendered]
  exact goes (state.begun input node)

theorem exec_report_lenient (collects : input.options.throwOnError = false) (error : RenderError)
    (state : RenderState) :
    (report input error).exec state = (.ok (), state.recordSoftly error) := by
  unfold report
  rw [collects]
  rfl

variable (unbroken : input.Unbroken)

include unbroken

theorem exists_goesRound {body : List Node} (bodies : ShowsAll input body) (span : Span)
    (path iterator : String) (length index : Nat) (items : List Value) (done : String)
    (state : RenderState) :
    ∃ visits after, GoesRound input iterator body length index items state visits after ∧
      (iterate (countIteration input span path) (renderNodes input body) iterator length index items
        done).exec state = (.ok (done ++ shownAll input.options visits), after) := by
  induction items generalizing index done state with
  | nil =>
      refine ⟨[], state, .nil, ?_⟩
      simp [iterate, shownAll]
  | cons item rest ih =>
      let frame := loopFrame iterator item index length
      rcases bodies (state.counted.enter frame) with ⟨early, inside, first, shown⟩
      rcases ih (index + 1) (done ++ shownAll input.options early) inside.leave with
        ⟨late, after, later, rendered⟩
      refine ⟨early ++ late, after, .cons first later, ?_⟩
      have counted := exec_countIteration_of_none unbroken.unlimited span path state
      have entered : (within frame (renderNodes input body)).exec state.counted =
          (.ok (shownAll input.options early), inside.leave) := by
        rw [exec_within, shown]
      rw [iterate, exec_bind_ok counted, exec_bind_ok entered, rendered, shownAll_append,
        String.append_assoc]

theorem shows_loop {body : List Node} (bodies : ShowsAll input body) (extent : Extent)
    (iterator : String) (iterable : Expr) :
    Shows input (.loop extent iterator iterable body) := by
  refine shows_of_begun (by rw [renderNode]; rfl) fun begun => ?_
  unfold loop
  rw [exec_bind_ok (exec_get begun)]
  by_cases deep : input.options.maxDepth ≤ begun.depth
  · rw [if_pos deep, exec_bind_ok (exec_report_lenient unbroken.collects _ begun)]
    exact ⟨none, [], _, .tooDeep deep, rfl⟩
  · rw [if_neg deep]
    have room := Nat.not_le.mp deep
    rcases unbroken.exists_evaluated iterable begun with ⟨value, after, evaluated⟩
    rw [exec_bind_ok evaluated]
    cases value with
    | array items =>
        rcases exists_goesRound unbroken bodies extent.span
          (iterable.extent.sourceOr iterator) iterator items.length 0 items "" after with
          ⟨visits, last, each, rendered⟩
        refine ⟨none, visits, last, .iterations room evaluated each, ?_⟩
        rw [rendered, shownAll_cons_of_empty _ rfl, String.empty_append]
    | _ =>
        refine ⟨none, [], _, .noArray room evaluated (by simp), ?_⟩
        dsimp only
        rw [exec_bind_ok (exec_report_lenient unbroken.collects _ after)]
        rfl

theorem shows_choice {body : List Node} {otherwise : Option (List Node)}
    (bodies : ShowsAll input body) (others : ShowsAll input (otherwise.getD [])) (extent : Extent)
    (condition : Expr) : Shows input (.choice extent condition body otherwise) := by
  refine shows_of_begun (renderNode_choice input extent condition body otherwise) fun begun => ?_
  rcases unbroken.exists_evaluated condition begun with ⟨decision, middle, decided⟩
  rw [exec_bind_ok decided]
  cases truthy : decision.truthy with
  | true =>
      rcases bodies middle with ⟨visits, after, inside, rendered⟩
      refine ⟨none, visits, after, .holds decided truthy inside, ?_⟩
      rw [shownAll_cons_of_empty _ rfl]
      exact rendered
  | false =>
      rcases others middle with ⟨visits, after, inside, rendered⟩
      refine ⟨none, visits, after, .fails decided truthy inside, ?_⟩
      rw [shownAll_cons_of_empty _ rfl]
      exact rendered

end Walking

mutual

/-- A walk goes through a node, and shows its text. -/
theorem shows_node (unbroken : input.Unbroken) : (node : Node) → Shows input node
  | .text extent content => by
    refine shows_of_begun (by rw [renderNode]; rfl) fun begun => ?_
    refine ⟨none, [], begun, .text, ?_⟩
    rw [shownAll_singleton]
    rfl
  | .output extent expr => by
    refine shows_of_begun (by rw [renderNode]; rfl) fun begun => ?_
    rcases unbroken.exists_evaluated expr begun with ⟨value, after, evaluated⟩
    refine ⟨some value, [], after, .output evaluated, ?_⟩
    rw [exec_bind_ok evaluated, shownAll_singleton]
    rfl
  | .choice extent condition body none => by
    have others : ShowsAll input (Option.getD none []) := shows_nodes unbroken []
    exact shows_choice unbroken (shows_nodes unbroken body) others extent condition
  | .choice extent condition body (some nodes) => by
    have others : ShowsAll input (Option.getD (some nodes) []) := shows_nodes unbroken nodes
    exact shows_choice unbroken (shows_nodes unbroken body) others extent condition
  | .loop extent iterator iterable body =>
    shows_loop unbroken (shows_nodes unbroken body) extent iterator iterable
  | .assignment extent name expr => by
    refine shows_of_begun (by rw [renderNode]; rfl) fun begun => ?_
    rcases unbroken.exists_evaluated expr begun with ⟨value, after, evaluated⟩
    refine ⟨none, [], _, .assignment evaluated, ?_⟩
    rw [exec_bind_ok evaluated]
    rfl
  | .block extent name body => by
    refine shows_of_begun (by rw [renderNode]; rfl) fun begun => ?_
    rcases shows_nodes unbroken body begun with ⟨visits, after, inside, rendered⟩
    refine ⟨none, visits, after, .block inside, ?_⟩
    rw [shownAll_cons_of_empty _ rfl]
    exact rendered
  | .malformed extent message => by
    refine shows_of_begun (by rw [renderNode]; rfl) fun begun => ?_
    exact ⟨none, [], _, .malformed, rfl⟩

theorem shows_nodes (unbroken : input.Unbroken) : (nodes : List Node) → ShowsAll input nodes
  | [] => by
    intro state
    rw [renderNodes]
    exact ⟨[], state, .nil, rfl⟩
  | node :: rest => by
    intro state
    rcases shows_node unbroken node state with ⟨value, early, middle, first, rendered⟩
    rcases shows_nodes unbroken rest middle with ⟨late, after, later, others⟩
    refine ⟨⟨node, value⟩ :: (early ++ late), after, .cons first later, ?_⟩
    rw [renderNodes, exec_bind_ok rendered, exec_bind_ok others, ← List.cons_append,
      shownAll_append]
    rfl

end

/-- A walk that is broken off where problems are collected has either counted too many iterations or
called a function that panics. Its render has no text, and one more problem behind those met before,
which is not one of evaluation. -/
theorem render_of_brokenOff (collects : input.options.throwOnError = false) {template : Template}
    {stop : Interruption} {after : RenderState}
    (brokenOff : (renderNodes input template.children).exec {} = (.error stop, after)) :
    ((∃ error, stop = .halted error) ∧ ¬after.WithinBudget input ∨
        ∃ message name value args, stop = .panicked message ∧ after.WithinBudget input ∧
          input.registry.call name value args = .error (.panic message)) ∧
      ∃ problems last, (callFrom input template {}).1.raised = problems ++ [last] ∧
        last.kind = .runtimeError ∧
        render input template =
          .ok { text := "", errors := problems ++ [last], success := false } := by
  have raised := renderNodes_raises input template.children {}
  have ended (error : RenderError) (last : RenderState) : endEarly input error last =
      (.ok { text := "", errors := last.errors.toList, success := false }, last.takeErrors.2) := by
    simp [endEarly, collects, RenderState.takeErrors]
  have call : (callFrom input template {}).1.raised =
      nodesProblems input template.children {} ++ panicProblems (.error stop) := by
    simp only [callFrom, brokenOff]
  rw [call, render, renderFrom_eq_conclude, brokenOff]
  rw [brokenOff] at raised
  generalize nodesProblems input template.children {} = problems at raised ⊢
  cases raised with
  | thrown recorded throws =>
      rw [collects] at throws
      cases throws
  | @halted problems error _ recorded _ kind exceeded =>
      refine ⟨.inl ⟨⟨error, rfl⟩, exceeded⟩, problems, error, ?_, kind, ?_⟩
      · exact List.append_nil _
      · simp only [conclude, ended, recorded]
        rfl
  | @panicked _ message _ recorded _ budget givesUp =>
      rcases givesUp with ⟨name, value, args, panicked⟩
      have within : RenderState.WithinBudget input {} := fun _ _ => Nat.zero_le _
      refine ⟨.inr ⟨message, name, value, args, rfl, budget within, panicked⟩, problems,
        panicError message, rfl, rfl, ?_⟩
      have last : (after.recordLast (panicError message)).errors.toList =
          problems ++ [panicError message] := by
        change (after.errors.push (panicError message)).toList = _
        rw [Array.toList_push, recorded]
        rfl
      simp only [conclude, ended, last]

/-- A walk in which too many iterations have been counted has been broken off for that. -/
theorem halted_of_exceeded {template : Template}
    (exceeded : ¬((renderNodes input template.children).exec {}).2.WithinBudget input)
    (collects : input.options.throwOnError = false) :
    ∃ error, ((renderNodes input template.children).exec {}).1 = .error (.halted error) := by
  have raised := renderNodes_raises input template.children {}
  have within : RenderState.WithinBudget input {} := fun _ _ => Nat.zero_le _
  generalize nodesProblems input template.children {} = problems at raised
  generalize (renderNodes input template.children).exec {} = outcome at raised exceeded ⊢
  cases raised with
  | goesOn _ _ budget => exact absurd (budget within) exceeded
  | thrown _ throws =>
      rw [collects] at throws
      cases throws
  | @halted _ error => exact ⟨error, rfl⟩
  | panicked _ _ budget _ => exact absurd (budget within) exceeded

/-- Where problems are collected, every render has a result. Without a limit on iterations, and
without functions that panic, no step is broken off from any state: the walk goes through all nodes
on its path, the text is what they show in order, and the render is a success if and only if no
problem has been met. A walk is broken off if the limit is exceeded or a function panics, and for no
other reason; then the text is empty, and the problems met before are followed by one more. -/
theorem lenient_render_total (input : RenderInput) (collects : input.options.throwOnError = false)
    (template : Template) :
    (input.options.maxIterations = none → input.registry.NeverPanics →
      (∀ expr state, ∃ value after, (evaluate input expr).exec state = (.ok value, after)) ∧
        (∀ node state, ∃ text after, (renderNode input node).exec state = (.ok text, after)) ∧
        ∃ visits after, GoesThrough input template.children {} visits after ∧
          after.errors.toList = (callFrom input template {}).1.raised ∧
          render input template =
            .ok { text := shownAll input.options visits, errors := after.errors.toList,
                  success := after.errors.toList.isEmpty }) ∧
      (¬((renderNodes input template.children).exec {}).2.WithinBudget input →
        ∃ error, ((renderNodes input template.children).exec {}).1 = .error (.halted error)) ∧
      (∀ name value args message, input.registry.call name value args = .error (.panic message) →
        ∀ state, ((call input name value args).exec state).1 = .error (.panicked message)) ∧
      ∀ stop after, (renderNodes input template.children).exec {} = (.error stop, after) →
        ((∃ error, stop = .halted error) ∧ ¬after.WithinBudget input ∨
            ∃ message name value args, stop = .panicked message ∧ after.WithinBudget input ∧
              input.registry.call name value args = .error (.panic message)) ∧
          ∃ problems last, (callFrom input template {}).1.raised = problems ++ [last] ∧
            last.kind = .runtimeError ∧
            render input template =
              .ok { text := "", errors := problems ++ [last], success := false } := by
  refine ⟨?_, fun exceeded => halted_of_exceeded exceeded collects, ?_,
    fun _ _ brokenOff => render_of_brokenOff collects brokenOff⟩
  · intro unlimited proper
    have unbroken : input.Unbroken := ⟨collects, unlimited, proper⟩
    refine ⟨unbroken.exists_evaluated, ?_, ?_⟩
    · intro node state
      exact unbroken.exists_ok (renderNode_raises input node state)
    · rcases shows_nodes unbroken template.children {} with ⟨visits, after, goes, rendered⟩
      have raised := renderNodes_raises input template.children {}
      have call : (callFrom input template {}).1.raised =
          nodesProblems input template.children {} ++ [] := by
        simp only [callFrom, rendered, panicProblems]
      rw [rendered] at raised
      refine ⟨visits, after, goes, ?_, ?_⟩
      · rw [call, List.append_nil]
        generalize nodesProblems input template.children {} = problems at raised
        cases raised with
        | goesOn recorded _ _ => exact recorded
      · rw [render, renderFrom_eq_conclude, rendered]
        rfl
  · intro name value args message panicked state
    rw [exec_call, panicked]
    rfl

/-- A text of which hardly any tag is well-formed. -/
def malformedText : String :=
  "a\x7b% if %\x7db\x7b\x7b x | \x7d\x7d\x7b% else %\x7dc\x7b% endfor %\x7d\x7b\x7b y \x7d\x7d"

def lenientInput : RenderInput := ⟨.object [], Registry.empty, {}⟩

theorem neverPanics_empty : Registry.empty.NeverPanics := by
  intro name value args message panicked
  cases panicked

/-- One lenient render goes through a text of malformed tags, and another is broken off. -/
theorem lenient_render_total_malformed :
    (∃ tokens visits after, tokenize {} malformedText = .ok tokens ∧
      GoesThrough lenientInput (parse tokens).template.children {} visits after ∧
      render lenientInput (parse tokens).template =
        .ok { text := shownAll {} visits, errors := after.errors.toList,
              success := after.errors.toList.isEmpty }) ∧
    ∃ problems last,
      (callFrom oneIterationInput.lenient twoIterations {}).1.raised = problems ++ [last] ∧
        render oneIterationInput.lenient twoIterations =
          .ok { text := "", errors := problems ++ [last], success := false } := by
  constructor
  · cases scanned : tokenize {} malformedText with
    | error problem =>
        have scans : (tokenize {} malformedText).isOk = true := by decide +kernel
        rw [scanned] at scans
        cases scans
    | ok tokens =>
        have total := lenient_render_total lenientInput rfl (parse tokens).template
        rcases total.1 rfl neverPanics_empty with ⟨_, _, visits, after, goes, _, rendered⟩
        exact ⟨tokens, visits, after, rfl, goes, rendered⟩
  · have total := lenient_render_total oneIterationInput.lenient rfl twoIterations
    rcases total.2.2.2 _ _ rfl with ⟨_, problems, last, raised, _, rendered⟩
    exact ⟨problems, last, raised, rendered⟩

end Stencil
