import Stencil.Proofs.Render.Coupling
import Stencil.Proofs.Render.Holes
import Stencil.Proofs.Render.Scopes
import Stencil.Proofs.Render.Totality
/-!
# Iterations on their own

What a render does depends on a state only through its frames and globals, as long as the limit on
iterations is not exceeded: from two states with the same bindings it does the same, and records the
same problems behind those that it finds (`Echoed`). A frame that has been left takes with it what
has been bound in it. So each iteration of a loop does what its body does when it is rendered alone.
-/

namespace Stencil

open Render RenderState

/-- That a state has the same bindings as another one, and that no more iterations have been
counted in it. -/
structure RenderState.Echoes (state alone : RenderState) : Prop
    extends SameBindings state alone where
  iterations : alone.iterations ≤ state.iterations

theorem RenderState.Echoes.assign {state alone : RenderState} (echoes : Echoes state alone)
    (name : String) (value : Value) : Echoes (state.assign name value) (alone.assign name value) := by
  unfold RenderState.assign
  rw [echoes.frames]
  split
  · exact ⟨⟨rfl, echoes.globals⟩, echoes.iterations⟩
  · refine ⟨⟨rfl, ?_⟩, echoes.iterations⟩
    simp only [echoes.globals]

/-- How a step compares with the same step in a state that echoes its own. -/
inductive Echo {α : Type} (state alone : RenderState) :
    Except Interruption α × RenderState → Except Interruption α × RenderState → Prop where
  /-- Both end in the same way, and with the same problems more. -/
  | same {result : Except Interruption α} {after after' : RenderState} {more : List RenderError}
      (echoes : Echoes after after') (recorded : after.errors.toList = state.errors.toList ++ more)
      (recorded' : after'.errors.toList = alone.errors.toList ++ more) :
      Echo state alone (result, after) (result, after')
  /-- The limit on iterations has been exceeded, and may not be exceeded in the other state. -/
  | halted {error : RenderError} {after : RenderState}
      {outcome : Except Interruption α × RenderState} :
      Echo state alone (.error (.halted error), after) outcome

/-- That a step and another one compare in this way wherever they begin. -/
def Echoed {α : Type} (action action' : Render α) : Prop :=
  ∀ state alone, Echoes state alone → Echo state alone (action.exec state) (action'.exec alone)

namespace Echo

variable {α β : Type} {state alone : RenderState}

/-- Nothing is recorded. -/
theorem quiet {result : Except Interruption α} {after after' : RenderState}
    (echoes : Echoes after after') (kept : after.errors = state.errors)
    (kept' : after'.errors = alone.errors) : Echo state alone (result, after) (result, after') := by
  have nothing : after.errors.toList = state.errors.toList ++ [] := by
    rw [kept, List.append_nil]
  have nothing' : after'.errors.toList = alone.errors.toList ++ [] := by
    rw [kept', List.append_nil]
  exact Echo.same echoes nothing nothing'

/-- What comes behind a step with the same problems in both states. -/
theorem behind {middle middle' : RenderState} {more : List RenderError}
    {outcome outcome' : Except Interruption α × RenderState}
    (recorded : middle.errors.toList = state.errors.toList ++ more)
    (recorded' : middle'.errors.toList = alone.errors.toList ++ more)
    (echo : Echo middle middle' outcome outcome') : Echo state alone outcome outcome' := by
  cases echo with
  | same echoes later later' =>
      apply Echo.same echoes
      · rw [later, recorded, List.append_assoc]
      · rw [later', recorded', List.append_assoc]
  | halted => exact .halted

theorem chain {action action' : Render α} {next next' : α → Render β}
    (first : Echo state alone (action.exec state) (action'.exec alone))
    (rest : ∀ value, Echoed (next value) (next' value)) :
    Echo state alone ((action >>= next).exec state) ((action' >>= next').exec alone) := by
  rw [exec_bind, exec_bind]
  generalize action.exec state = outcome at first ⊢
  generalize action'.exec alone = outcome' at first ⊢
  cases first with
  | @same result after after' more echoes recorded recorded' =>
      cases result with
      | error stop => exact .same echoes recorded recorded'
      | ok value => exact (rest value after after' echoes).behind recorded recorded'
  | halted => exact .halted

/-- A frame that is left on both sides leaves what was the same outside of it. -/
theorem enclosed {frame : Entries Value} {outcome outcome' : Except Interruption α × RenderState}
    (inside : Echo (state.enter frame) (alone.enter frame) outcome outcome') :
    Echo state alone (outcome.1, outcome.2.leave) (outcome'.1, outcome'.2.leave) := by
  cases inside with
  | same echoes recorded recorded' =>
      refine Echo.same ⟨⟨?_, echoes.globals⟩, echoes.iterations⟩ recorded recorded'
      rw [leave_frames, leave_frames, echoes.frames]
  | halted => exact .halted

end Echo

namespace Echoed

variable {input : RenderInput}

theorem noting {α : Type} {action : Render α} {result : Except Interruption α}
    {lines : List String} (noted : ∀ state, action.exec state = (result, state.noting lines)) :
    Echoed action action := by
  intro state alone echoes
  rw [noted, noted]
  exact Echo.quiet ⟨⟨echoes.frames, echoes.globals⟩, echoes.iterations⟩ rfl rfl

theorem pure {α : Type} (value : α) : Echoed (Pure.pure value) (Pure.pure value) := by
  intro state alone echoes
  exact Echo.quiet echoes rfl rfl

theorem bind {α β : Type} {action action' : Render α} {next next' : α → Render β}
    (first : Echoed action action') (rest : ∀ value, Echoed (next value) (next' value)) :
    Echoed (action >>= next) (action' >>= next') := by
  intro state alone echoes
  exact (first state alone echoes).chain rest

theorem trace (line : String) : Echoed (Render.trace input line) (Render.trace input line) := by
  unfold Render.trace
  split
  · exact noting fun _ => rfl
  · exact pure ()

theorem report (error : RenderError) :
    Echoed (Render.report input error) (Render.report input error) := by
  intro state alone echoes
  unfold Render.report
  split
  · exact Echo.quiet echoes rfl rfl
  · have recorded (state : RenderState) :
        (state.recordSoftly error).errors.toList = state.errors.toList ++ [error] :=
      Array.toList_push
    refine Echo.same ?_ (recorded state) (recorded alone)
    exact ⟨⟨echoes.frames, echoes.globals⟩, echoes.iterations⟩

theorem access (span : Span) (root : String) (steps : List ResolvedStep) :
    Echoed (Render.access input span root steps) (Render.access input span root steps) := by
  intro state alone echoes
  unfold Render.access
  rw [exec_bind_ok (exec_get state), exec_bind_ok (exec_get alone), echoes.lookup]
  split
  · exact pure _ state alone echoes
  · exact (report _).bind (fun _ => pure _) state alone echoes

theorem assign (name : String) (value : Value) :
    Echoed (modify fun state => state.assign name value)
      (modify fun state => state.assign name value) := by
  intro state alone echoes
  have kept (state : RenderState) : (state.assign name value).errors = state.errors := by
    unfold RenderState.assign
    split <;> rfl
  exact Echo.quiet (echoes.assign name value) (kept state) (kept alone)

/-- If an iteration is not one too many, it is not where fewer have been counted. -/
theorem countIteration (span : Span) (path : String) :
    Echoed (Render.countIteration input span path) (Render.countIteration input span path) := by
  intro state alone echoes
  have fewer := echoes.iterations
  have counted : Echoes state.counted alone.counted :=
    ⟨⟨echoes.frames, echoes.globals⟩, Nat.succ_le_succ fewer⟩
  cases allowed : input.options.maxIterations with
  | none =>
      rw [exec_countIteration_of_none allowed, exec_countIteration_of_none allowed]
      exact Echo.quiet counted rfl rfl
  | some limit =>
      by_cases exceeded : limit < state.iterations + 1
      · rw [exec_countIteration_of_lt allowed exceeded]
        exact .halted
      · have room : state.iterations + 1 ≤ limit := by omega
        have room' : alone.iterations + 1 ≤ limit := by omega
        rw [exec_countIteration_of_le allowed room, exec_countIteration_of_le allowed room']
        exact Echo.quiet counted rfl rfl

theorem within {body body' : Render String} (inside : Echoed body body') (frame : Entries Value) :
    Echoed (Render.within frame body) (Render.within frame body') := by
  intro state alone echoes
  rw [exec_within, exec_within]
  apply Echo.enclosed
  apply inside
  refine ⟨⟨?_, echoes.globals⟩, echoes.iterations⟩
  rw [enter_frames, enter_frames, echoes.frames]

theorem capped (span : Span) (path : String) {rest rest' : Render String}
    (inner : Echoed rest rest') :
    Echoed (Render.capped input span path rest) (Render.capped input span path rest') := by
  intro state alone echoes
  have depth : alone.depth = state.depth := echoes.confined.depth
  unfold Render.capped
  rw [exec_bind_ok (exec_get state), exec_bind_ok (exec_get alone), depth]
  split
  · exact (report _).bind (fun _ => pure _) state alone echoes
  · exact inner state alone echoes

end Echoed

/-- Where a render begins matters only for its bindings. -/
theorem echoCoupling (input : RenderInput) :
    RenderingCoupling input input Echoed (fun _ action _ action' => Echoed action action') where
  pure := Echoed.pure
  bind := Echoed.bind
  note _ := Echoed.noting fun _ => rfl
  trace := Echoed.trace
  report := Echoed.report
  call name value args := Echoed.noting (exec_call input name value args)
  access := Echoed.access
  shown _ := rfl
  assign := Echoed.assign
  evaluation echoed := echoed
  chain := Echoed.bind
  round span path frame _ _ _ _ bodies :=
    (Echoed.countIteration span path).bind fun _ => bodies.within frame
  capped span path _ _ _ _ inner := inner.capped span path

/-- A state with the bindings of another one, in which nothing has been done yet. -/
def RenderState.scope (state : RenderState) : RenderState :=
  { frames := state.frames, globals := state.globals }

/-- What comes of nodes that are rendered alone, with the bindings of a state: how the render of them
ends, and the problems that it has recorded. -/
def renderAlone (input : RenderInput) (nodes : List Node) (state : RenderState) :
    Except Interruption String × List RenderError :=
  let (outcome, after) := (renderNodes input nodes).exec state.scope
  (outcome, after.errors.toList)

section Loop

variable {input : RenderInput} {body : List Node} {outside state after : RenderState}

/-- Nodes do where they are rendered what they do alone. -/
theorem renderAlone_of_exec {text : String} (same : SameBindings outside state)
    (rendered : (renderNodes input body).exec state = (.ok text, after)) :
    (renderAlone input body outside).1 = .ok text ∧
      after.errors.toList = state.errors.toList ++ (renderAlone input body outside).2 := by
  have echoes : Echoes state outside.scope :=
    ⟨⟨same.frames.symm, same.globals.symm⟩, Nat.zero_le _⟩
  have echo : Echoed (renderNodes input body) (renderNodes input body) :=
    renderNodes_coupled (echoCoupling input) body
  have compared := echo state outside.scope echoes
  unfold renderAlone
  rw [rendered] at compared
  generalize (renderNodes input body).exec outside.scope = outcome at compared ⊢
  cases compared with
  | same _ recorded recorded' =>
      have started : outside.scope.errors.toList = [] := rfl
      rw [started, List.nil_append] at recorded'
      refine ⟨rfl, ?_⟩
      rw [recorded, ← recorded']

/-- An iteration that goes on does what its body does alone, and leaves the bindings that it
finds. -/
theorem renderAlone_of_round {span : Span} {path piece : String} {frame : Entries Value}
    (same : SameBindings outside state)
    (rendered : (Render.round input span path frame (renderNodes input body)).exec state =
      (.ok piece, after)) :
    (countIteration input span path).exec state = (.ok (), state.counted) ∧
      (renderAlone input body (outside.enter frame)).1 = .ok piece ∧
      after.errors.toList =
        state.errors.toList ++ (renderAlone input body (outside.enter frame)).2 ∧
      SameBindings outside after := by
  rw [Render.round] at rendered
  rcases exec_countIteration input span path state with going | ⟨error, halted⟩
  · rw [exec_bind_ok going, exec_within] at rendered
    have entered : SameBindings (outside.enter frame) (state.counted.enter frame) := by
      refine ⟨?_, same.globals⟩
      rw [enter_frames, enter_frames, ← same.frames]
      rfl
    have confined := renderNodes_keeps confined_rendering input body (state.counted.enter frame)
    generalize inner : (renderNodes input body).exec (state.counted.enter frame) = outcome
      at rendered confined
    rcases outcome with ⟨result, inside⟩
    simp only [Prod.mk.injEq] at rendered
    rcases rendered with ⟨rfl, rfl⟩
    rcases renderAlone_of_exec entered inner with ⟨text, recorded⟩
    have left : SameBindings state.counted inside.leave := confined.sameBindings_leave
    refine ⟨going, text, recorded, ?_, ?_⟩
    · exact left.frames.trans same.frames
    · exact left.globals.trans same.globals
  · rw [exec_bind, halted] at rendered
    cases rendered

/-- The states in which the iterations of a loop begin, but for what has been recorded: with the
bindings outside of the loop, and a frame for the element. -/
def iterationScopes (outside : RenderState) (iterator : String) (length index : Nat)
    (items : List Value) : List RenderState :=
  items.mapIdx fun offset item =>
    (outside.enter (loopFrame iterator item (index + offset) length)).scope

theorem iterationScopes_cons (outside : RenderState) (iterator : String) (length index : Nat)
    (item : Value) (rest : List Value) :
    iterationScopes outside iterator length index (item :: rest) =
      (outside.enter (loopFrame iterator item index length)).scope ::
        iterationScopes outside iterator length (index + 1) rest := by
  simp only [iterationScopes, List.mapIdx_cons, Nat.add_zero, Nat.add_assoc, Nat.add_comm 1]

/-- The iterations of a loop that goes on do what its body does alone for each of the elements. -/
theorem renderAlone_of_iterate {span : Span} {path iterator text done : String}
    {length index : Nat} {items : List Value} (same : SameBindings outside state)
    (rendered : (iterate (countIteration input span path) (renderNodes input body) iterator length
      index items done).exec state = (.ok text, after)) :
    let scopes := iterationScopes outside iterator length index items
    let alone := scopes.map (renderAlone input body)
    (∃ pieces : List String, alone.map Prod.fst = pieces.map .ok ∧
        text = done ++ String.join pieces) ∧
      after.errors.toList = state.errors.toList ++ alone.flatMap Prod.snd ∧
      (Starts.ofIterations (countIteration input span path) (renderNodes input body) Starts.none
        iterator length index items state).map scope = scopes := by
  induction items generalizing index done state with
  | nil =>
      cases rendered
      exact ⟨⟨[], rfl, String.append_empty.symm⟩, (List.append_nil _).symm, rfl⟩
  | cons item rest ih =>
      let frame := loopFrame iterator item index length
      rw [iterate_cons, exec_bind] at rendered
      generalize first : (Render.round input span path frame (renderNodes input body)).exec state =
        outcome at rendered
      rcases outcome with ⟨stop | piece, middle⟩
      · cases rendered
      · rcases renderAlone_of_round same first with ⟨counted, here, recorded, left⟩
        rcases ih left rendered with ⟨⟨pieces, others, joined⟩, later, starts⟩
        simp only [iterationScopes_cons, List.map_cons, List.flatMap_cons]
        refine ⟨⟨piece :: pieces, ?_, ?_⟩, ?_, ?_⟩
        · rw [others, List.map_cons, ← here]
          rfl
        · rw [joined, String.join_cons, String.append_assoc]
        · rw [later, recorded, List.append_assoc]
          rfl
        · have began : Starts.round input span path frame Starts.none state =
              [state.counted.enter frame] := by
            simp [Starts.round, Starts.bind, Starts.none, Starts.within, counted]
          have entered : (state.counted.enter frame).scope = (outside.enter frame).scope := by
            simp only [scope, enter_frames, enter_globals, ← same.frames, ← same.globals]
            rfl
          rw [Starts.ofIterations_cons, Starts.bind, began, first, List.map_append, starts,
            List.map_singleton, entered]
          rfl

end Loop

/-- The frame of an iteration binds the iterator and the information about the loop, and nothing
else. -/
theorem find?_loopFrame (iterator name : String) (item : Value) (index length : Nat) :
    (loopFrame iterator item index length).find? name =
      if name = "loop" then some (loopInfo index length)
      else if name = iterator then some item else none := by
  simp only [loopFrame, Entries.find?_insert, Entries.find?_cons, Entries.find?_nil,
    eq_comm]

/-- Below the cap on depth, the render of a loop over an array is that of its elements. -/
theorem exec_loop_of_array {input : RenderInput} {extent : Extent} {iterator : String}
    {iterable : Expr} {body : List Node} {state middle : RenderState} {items : List Value}
    (room : state.depth < input.options.maxDepth)
    (evaluated : (evaluate input iterable).exec
      (state.begun input (.loop extent iterator iterable body)) = (.ok (.array items), middle)) :
    let path := iterable.extent.sourceOr iterator
    SameBindings state middle ∧
      (renderNode input (.loop extent iterator iterable body)).exec state =
        (iterate (countIteration input extent.span path) (renderNodes input body) iterator
          items.length 0 items "").exec middle ∧
      Starts.ofBody input extent iterator iterable body state =
        Starts.ofIterations (countIteration input extent.span path) (renderNodes input body)
          Starts.none iterator items.length 0 items middle := by
  intro path
  rw [exec_loop_begun, Starts.ofBody_begun]
  generalize begins : state.begun input (.loop extent iterator iterable body) = begun at evaluated ⊢
  have notDeep : ¬input.options.maxDepth ≤ begun.depth := by
    rw [← begins, depth_begun]
    exact Nat.not_le.mpr room
  refine ⟨?_, ?_, ?_⟩
  · have kept := evaluate_keeps sameBindings_evaluation input iterable begun
    rw [evaluated, ← begins] at kept
    exact ⟨by simpa using kept.frames, by simpa using kept.globals⟩
  · unfold loop
    rw [exec_bind_ok (exec_get _), if_neg notDeep, exec_bind_ok evaluated]
  · rw [Starts.ofLoop, if_neg notDeep, Starts.bind, evaluated]
    rfl

/-- The iterations of a loop below the cap on depth are independent of each other. Each begins with
the bindings outside of the loop and a frame for its element, and its text and its problems are those
of the body rendered alone with these bindings. The problems of what is looped over come first. -/
theorem loop_iterations_independent (input : RenderInput)
    (collects : input.options.throwOnError = false) (extent : Extent) (iterator : String)
    (iterable : Expr) (body : List Node) {state middle : RenderState} {items : List Value}
    (room : state.depth < input.options.maxDepth)
    (evaluated : (evaluate input iterable).exec
      (state.begun input (.loop extent iterator iterable body)) = (.ok (.array items), middle))
    (goesOn : ∀ error, ((renderNode input (.loop extent iterator iterable body)).exec state).1 ≠
      .error (.halted error)) :
    let scopes := items.mapIdx fun index item =>
      (state.enter (loopFrame iterator item index items.length)).scope
    let alone := scopes.map (renderAlone input body)
    (∀ item index name, (loopFrame iterator item index items.length).find? name =
        if name = "loop" then some (loopInfo index items.length)
        else if name = iterator then some item else none) ∧
      (input.registry.NeverPanics →
        ∃ text after,
          (renderNode input (.loop extent iterator iterable body)).exec state = (.ok text, after)) ∧
      ∀ text after,
        (renderNode input (.loop extent iterator iterable body)).exec state = (.ok text, after) →
          (Starts.ofBody input extent iterator iterable body state).map scope = scopes ∧
            (∃ pieces, alone.map Prod.fst = pieces.map .ok ∧ text = String.join pieces) ∧
            after.errors.toList = middle.errors.toList ++ alone.flatMap Prod.snd ∧
            after.frames = state.frames ∧ after.globals = state.globals := by
  intro scopes alone
  refine ⟨fun item index name => find?_loopFrame iterator name item index _, ?_, ?_⟩
  · intro proper
    have raised := renderNode_raises input (.loop extent iterator iterable body) state
    generalize nodeProblems input (.loop extent iterator iterable body) state = problems at raised
    generalize (renderNode input (.loop extent iterator iterable body)).exec state = outcome
      at raised goesOn ⊢
    cases raised with
    | goesOn => exact ⟨_, _, rfl⟩
    | thrown _ throws =>
        rw [collects] at throws
        cases throws
    | halted => exact absurd rfl (goesOn _)
    | panicked _ _ _ givesUp =>
        rcases givesUp with ⟨name, value, args, panicked⟩
        exact absurd panicked (proper name value args _)
  · intro text after rendered
    rcases exec_loop_of_array room evaluated with ⟨same, looped, starts⟩
    have left := renderNode_loop_sameBindings input extent iterator iterable body state
    rw [rendered] at left
    rw [looped] at rendered
    have each := renderAlone_of_iterate same rendered
    simp only [iterationScopes, Nat.zero_add, String.empty_append] at each
    rcases each with ⟨texts, problems, begins⟩
    exact ⟨by rw [starts, begins], texts, problems, left.frames, left.globals⟩

/-- A body that binds a name again, which it has shown before, and shows it once more in a loop. -/
def rebinding : List Node :=
  let extent : Extent := ⟨Span.empty, none⟩
  let seen : Expr := .access extent "seen" []
  [.output extent seen, .assignment extent "seen" (.access extent "x" []),
    .loop extent "y" (.array extent [.literal extent .null])
      [.output extent seen, .assignment extent "seen" (.literal extent .null)]]

/-- Every iteration shows first what the name is bound to outside of the loop. -/
theorem loop_iterations_independent_rebinding :
    let input : RenderInput := ⟨.object [], Registry.empty, {}⟩
    let extent : Extent := ⟨Span.empty, none⟩
    let pair : Expr := .array extent [.literal extent (.bool true), .literal extent (.bool false)]
    let state : RenderState := { globals := [("seen", .string "none ")] }
    let node : Node := .loop extent "x" pair rebinding
    let alone := [(state.enter (loopFrame "x" (.bool true) 0 2)).scope,
      (state.enter (loopFrame "x" (.bool false) 1 2)).scope].map (renderAlone input rebinding)
    input.options.throwOnError = false ∧ state.depth < input.options.maxDepth ∧
      ∃ middle after pieces,
        (evaluate input pair).exec (state.begun input node) =
            (.ok (.array [.bool true, .bool false]), middle) ∧
          (renderNode input node).exec state = (.ok "none truenone false", after) ∧
          alone.map Prod.fst = pieces.map .ok ∧ "none truenone false" = String.join pieces ∧
          after.errors.toList = middle.errors.toList ++ alone.flatMap Prod.snd ∧
          after.globals = [("seen", .string "none ")] := by
  intro input extent pair state node alone
  have room : state.depth < input.options.maxDepth := by decide
  have rendered : ∃ after, (renderNode input node).exec state = (.ok "none truenone false", after) :=
    ⟨_, rfl⟩
  rcases rendered with ⟨after, rendered⟩
  have goesOn : ∀ error, ((renderNode input node).exec state).1 ≠ .error (.halted error) := by
    intro error halted
    rw [rendered] at halted
    cases halted
  have independent := loop_iterations_independent input rfl extent "x" pair rebinding room rfl goesOn
  rcases independent.2.2 _ _ rendered with ⟨_, ⟨pieces, texts, joined⟩, problems, _, globals⟩
  exact ⟨rfl, room, _, after, pieces, rfl, rendered, texts, joined, problems, globals⟩

/-- A loop at the cap on depth shows nothing of what its body shows alone, and the problems of what is
looped over are not among those of its body. -/
theorem loop_omitted_or_failing_before :
    let extent : Extent := ⟨Span.empty, none⟩
    let body : List Node := [.text extent "a"]
    let alone (input : RenderInput) (item : Value) :=
      renderAlone input body (RenderState.enter {} (loopFrame "x" item 0 1))
    (let input : RenderInput := ⟨.object [], Registry.empty, { maxDepth := 0 }⟩
      let iterable : Expr := .array extent [.literal extent .null]
      ((evaluate input iterable).exec {}).1 = .ok (.array [.null]) ∧
        alone input .null = (.ok "a", []) ∧
        ((renderNode input (.loop extent "x" iterable body)).exec {}).1 = .ok "") ∧
      let input : RenderInput := ⟨.object [], Registry.empty, {}⟩
      let iterable : Expr := .array extent [.access extent "missing" []]
      ((evaluate input iterable).exec {}).1 = .ok (.array [.undefined]) ∧
        alone input .undefined = (.ok "a", []) ∧
        ((renderNode input (.loop extent "x" iterable body)).exec {}).1 = .ok "a" ∧
        ((renderNode input (.loop extent "x" iterable body)).exec {}).2.errors.toList =
          [(RenderError.undefinedVariable "missing").located Span.empty] :=
  ⟨⟨rfl, rfl, rfl⟩, rfl, rfl, rfl, rfl⟩

end Stencil
