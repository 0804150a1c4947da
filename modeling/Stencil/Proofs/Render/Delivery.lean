import Stencil.Proofs.Render.Problems
import Stencil.Template.Parser
/-!
# Delivery of problems

A context can be used for one render after the other. Each render delivers the problems that it
raises, and with them those that were recorded before it: in its output, or as the one problem that
it hands back. What it hands back has been thrown, and is not recorded. The exception is a problem
that ends every render: it is recorded, and where problems are thrown it is handed back as well, so
it is delivered twice, the second time by a later render.
-/

namespace Stencil

open Render

/-- What a render on a context has come to. -/
structure Call where
  /-- The problems raised, in order. -/
  raised : List RenderError
  /-- Whether a problem has ended the render that ends every render. -/
  aborted : Bool
  result : Except RenderError RenderOutput

/-- The problems that reach the caller. -/
def Call.delivered (call : Call) : List RenderError :=
  match call.result with
  | .ok output => output.errors
  | .error error => [error]

/-- The problem that a panic raises at the end of a render. -/
def panicProblems : Except Interruption String → List RenderError
  | .error (.panicked message) => [panicError message]
  | _ => []

/-- Whether a walk over nodes has ended in a way that ends every render. -/
def isAborted : Except Interruption String → Bool
  | .error (.halted _) | .error (.panicked _) => true
  | _ => false

/-- A render on a context. -/
def callFrom (input : RenderInput) (template : Template) (state : RenderState) :
    Call × RenderState :=
  let ended := ((renderNodes input template.children).exec state).1
  let (result, after) := renderFrom input template state
  ({ raised := nodesProblems input template.children state ++ panicProblems ended
     aborted := isAborted ended
     result := result }, after)

/-- Renders on a context, one after the other. -/
def callsFrom (input : RenderInput) : List Template → RenderState → List Call × RenderState
  | [], state => ([], state)
  | template :: rest, state =>
    let (call, after) := callFrom input template state
    let (calls, last) := callsFrom input rest after
    (call :: calls, last)

/-- How a render delivers what it raises, and what it leaves recorded. -/
inductive Delivers (input : RenderInput) (before : RenderState) (call : Call)
    (after : RenderState) : Prop where
  /-- Everything recorded is delivered, with what was recorded before. -/
  | taken (delivered : call.delivered = before.errors.toList ++ call.raised)
      (nothing : after.errors.toList = [])
      (goesOn : input.options.throwOnError = true → call.aborted = false)
  /-- A problem is thrown. -/
  | thrown {error : RenderError} (raised : call.raised = [error])
      (delivered : call.delivered = [error]) (same : after.errors.toList = before.errors.toList)
      (goesOn : call.aborted = false)
  /-- A problem that ends every render is handed back and stays recorded. -/
  | kept {error : RenderError} (raised : call.raised = [error])
      (delivered : call.delivered = [error])
      (recorded : after.errors.toList = before.errors.toList ++ [error])
      (throws : input.options.throwOnError = true) (aborted : call.aborted = true)

/-- A render that ends with a recorded problem delivers it in its output, or hands it back. -/
theorem delivers_endEarly {input : RenderInput} {before last : RenderState}
    {problems : List RenderError} {error : RenderError}
    (recorded : last.errors.toList = before.errors.toList ++ (problems ++ [error]))
    (collects : input.options.throwOnError = true → problems = []) :
    Delivers input before ⟨problems ++ [error], true, (endEarly input error last).1⟩
      (endEarly input error last).2 := by
  cases throws : input.options.throwOnError with
  | false =>
      have ended : endEarly input error last =
          (.ok ⟨"", last.errors.toList, false⟩, last.takeErrors.2) := by
        simp [endEarly, throws, RenderState.takeErrors]
      rw [ended]
      refine .taken recorded rfl ?_
      intro throwing
      rw [throws] at throwing
      cases throwing
  | true =>
      have ended : endEarly input error last = (.error error, last) := by
        simp [endEarly, throws]
      have none := collects throws
      rw [none, List.nil_append] at recorded ⊢
      rw [ended]
      exact .kept rfl rfl recorded throws rfl

theorem callFrom_delivers (input : RenderInput) (template : Template) (state : RenderState) :
    Delivers input state (callFrom input template state).1 (callFrom input template state).2 := by
  have raised := renderNodes_raises input template.children state
  unfold callFrom
  rw [renderFrom_eq_conclude]
  generalize nodesProblems input template.children state = problems at raised ⊢
  generalize (renderNodes input template.children).exec state = outcome at raised ⊢
  cases raised with
  | goesOn recorded collects budget =>
      refine .taken ?_ rfl fun _ => rfl
      simp only [panicProblems, List.append_nil]
      exact recorded
  | thrown recorded throws =>
      have ended (error : RenderError) (last : RenderState) :
          endEarly input error last = (.error error, last) := by
        simp [endEarly, throws]
      simp only [conclude, ended, panicProblems, List.append_nil]
      exact .thrown rfl rfl recorded rfl
  | halted recorded collects kind exceeded =>
      simp only [panicProblems, List.append_nil]
      exact delivers_endEarly recorded collects
  | @panicked problems message after recorded collects budget givesUp =>
      refine delivers_endEarly ?_ collects
      change (after.errors.push (panicError message)).toList = _
      rw [Array.toList_push, recorded, List.append_assoc]

namespace Delivers

variable {input : RenderInput} {before after : RenderState} {call : Call}

theorem suffix (delivers : Delivers input before call after) : call.raised <:+ call.delivered := by
  cases delivers with
  | taken delivered nothing goesOn =>
      rw [delivered]
      exact List.suffix_append _ _
  | thrown raised delivered same goesOn => exact ⟨[], raised.trans delivered.symm⟩
  | kept raised delivered recorded throws aborted => exact ⟨[], raised.trans delivered.symm⟩

/-- Nothing is delivered twice, and nothing is lost, unless a problem is handed back and kept. -/
theorem perm (delivers : Delivers input before call after)
    (goesOn : input.options.throwOnError = true → call.aborted = false) :
    (call.delivered ++ after.errors.toList).Perm (before.errors.toList ++ call.raised) := by
  cases delivers with
  | taken delivered nothing _ =>
      rw [delivered, nothing, List.append_nil]
  | thrown raised delivered same _ =>
      rw [raised, delivered, same]
      exact List.perm_append_comm
  | kept raised delivered recorded throws aborted =>
      rw [goesOn throws] at aborted
      cases aborted

theorem length_le (delivers : Delivers input before call after) :
    before.errors.toList.length + call.raised.length ≤
      call.delivered.length + after.errors.toList.length := by
  cases delivers with
  | taken delivered nothing _ => simp [delivered]
  | thrown raised delivered same _ =>
      apply Nat.le_of_eq
      rw [raised, delivered, same, Nat.add_comm]
  | kept raised delivered recorded throws aborted =>
      simp only [raised, delivered, recorded, List.length_append, List.length_singleton]
      omega

/-- A problem that is handed back and kept is one more than there should be. -/
theorem length_lt (delivers : Delivers input before call after)
    (throws : input.options.throwOnError = true) (aborted : call.aborted = true) :
    before.errors.toList.length + call.raised.length <
      call.delivered.length + after.errors.toList.length := by
  cases delivers with
  | taken delivered nothing goesOn =>
      rw [goesOn throws] at aborted
      cases aborted
  | thrown raised delivered same goesOn =>
      rw [goesOn] at aborted
      cases aborted
  | kept raised delivered recorded _ _ =>
      simp only [raised, delivered, recorded, List.length_append, List.length_singleton]
      omega

end Delivers

section Calls

variable (input : RenderInput) (templates : List Template) (state : RenderState)

theorem raised_suffix_delivered :
    ∀ call ∈ (callsFrom input templates state).1, call.raised <:+ call.delivered := by
  induction templates generalizing state with
  | nil =>
      intro call member
      cases member
  | cons template rest ih =>
      intro call member
      rcases List.mem_cons.mp member with same | later
      · rw [same]
        exact (callFrom_delivers input template state).suffix
      · exact ih _ call later

theorem perm_delivered (goesOn : input.options.throwOnError = true →
    ∀ call ∈ (callsFrom input templates state).1, call.aborted = false) :
    ((callsFrom input templates state).1.flatMap Call.delivered ++
        (callsFrom input templates state).2.errors.toList).Perm
      (state.errors.toList ++ (callsFrom input templates state).1.flatMap Call.raised) := by
  induction templates generalizing state with
  | nil =>
      simp only [callsFrom, List.flatMap_nil, List.nil_append, List.append_nil]
      exact .refl _
  | cons template rest ih =>
      have here := (callFrom_delivers input template state).perm fun throws =>
        goesOn throws _ List.mem_cons_self
      have later := ih (callFrom input template state).2 fun throws call member =>
        goesOn throws call (List.mem_cons_of_mem _ member)
      -- What the first call leaves recorded is what the others begin with.
      simp only [callsFrom, List.flatMap_cons, List.append_assoc]
      refine (later.append_left _).trans ?_
      rw [← List.append_assoc, ← List.append_assoc]
      exact here.append_right _

theorem length_delivered :
    state.errors.toList.length +
        ((callsFrom input templates state).1.flatMap Call.raised).length ≤
      ((callsFrom input templates state).1.flatMap Call.delivered).length +
        (callsFrom input templates state).2.errors.toList.length := by
  induction templates generalizing state with
  | nil => simp [callsFrom]
  | cons template rest ih =>
      have here := (callFrom_delivers input template state).length_le
      have later := ih (callFrom input template state).2
      simp only [callsFrom, List.flatMap_cons, List.length_append]
      omega

theorem length_delivered_of_aborted (throws : input.options.throwOnError = true)
    (aborted : ∃ call ∈ (callsFrom input templates state).1, call.aborted = true) :
    state.errors.toList.length +
        ((callsFrom input templates state).1.flatMap Call.raised).length <
      ((callsFrom input templates state).1.flatMap Call.delivered).length +
        (callsFrom input templates state).2.errors.toList.length := by
  induction templates generalizing state with
  | nil =>
      rcases aborted with ⟨call, member, _⟩
      cases member
  | cons template rest ih =>
      have delivers := callFrom_delivers input template state
      have later := length_delivered input rest (callFrom input template state).2
      have laterAborted := ih (callFrom input template state).2
      simp only [callsFrom, List.flatMap_cons, List.length_append]
      rcases aborted with ⟨call, member, ended⟩
      rcases List.mem_cons.mp member with same | among
      · rw [same] at ended
        have more := delivers.length_lt throws ended
        omega
      · have here := delivers.length_le
        have more := laterAborted ⟨call, among, ended⟩
        omega

end Calls

/-- Every problem that a render raises is delivered by that render. It is delivered once, and none
is left over, exactly if no render is ended in a way that ends every render, or problems are
collected. -/
theorem problems_delivered_once_iff (input : RenderInput) (templates : List Template)
    (state : RenderState) :
    (∀ call ∈ (callsFrom input templates state).1, call.raised <:+ call.delivered) ∧
      (((callsFrom input templates state).1.flatMap Call.delivered ++
            (callsFrom input templates state).2.errors.toList).Perm
          (state.errors.toList ++ (callsFrom input templates state).1.flatMap Call.raised) ↔
        (input.options.throwOnError = true →
          ∀ call ∈ (callsFrom input templates state).1, call.aborted = false)) := by
  refine ⟨raised_suffix_delivered input templates state, ?_, perm_delivered input templates state⟩
  intro once throws call member
  rw [Bool.eq_false_iff]
  intro aborted
  -- A render that was ended has delivered one problem too many, and no later one makes up for it.
  have more := length_delivered_of_aborted input templates state throws ⟨call, member, aborted⟩
  have same := once.length_eq
  simp only [List.length_append] at same
  omega

/-- A loop over two elements. -/
def twoIterations : Template :=
  ⟨[.loop ⟨⟨⟨1, 0⟩, ⟨1, 45⟩⟩, some "\x7b% for x in [null, null] %\x7d"⟩ "x"
    (.array ⟨⟨⟨1, 12⟩, ⟨1, 24⟩⟩, some "[null, null]"⟩
      [.literal ⟨⟨⟨1, 13⟩, ⟨1, 17⟩⟩, some "null"⟩ .null,
        .literal ⟨⟨⟨1, 19⟩, ⟨1, 23⟩⟩, some "null"⟩ .null])
    [.text ⟨⟨⟨1, 27⟩, ⟨1, 33⟩⟩, some "a line"⟩ "a line"]], ⟨⟨1, 0⟩, ⟨1, 45⟩⟩⟩

def plainText : Template := ⟨[.text ⟨⟨⟨1, 0⟩, ⟨1, 2⟩⟩, some "ok"⟩ "ok"], ⟨⟨1, 0⟩, ⟨1, 2⟩⟩⟩

/-- Problems are thrown, and one iteration is allowed. -/
def oneIterationInput : RenderInput where
  data := .object []
  registry := Registry.empty
  options := { throwOnError := true, maxIterations := some 1 }

def budgetProblem : RenderError :=
  (RenderError.runtime "render exceeded the budget of 1 loop iterations" "[null, null]").located
    ⟨⟨1, 0⟩, ⟨1, 45⟩⟩

/-- What the first render hands back is in the output of the second, which has raised nothing. -/
theorem budget_problem_delivered_twice :
    let calls := callsFrom oneIterationInput [twoIterations, plainText] {}
    calls.1.map Call.raised = [[budgetProblem], []] ∧
      calls.1.map Call.result =
        [.error budgetProblem, .ok { text := "ok", errors := [budgetProblem], success := false }] ∧
      ¬(calls.1.flatMap Call.delivered ++ calls.2.errors.toList).Perm
        (calls.1.flatMap Call.raised) := by
  refine ⟨rfl, rfl, ?_⟩
  intro once
  cases once.length_eq

end Stencil
