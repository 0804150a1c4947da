import Stencil.Proofs.Template.Filling
import Stencil.Proofs.Tree.Ways
/-!
# How deep constructs nest

A construct is opened only where fewer than the limit are open, and whatever is finished while it is
open lies inside of it. So at every token, a finished node has no more levels of constructs than
there is room for where it stands. This holds of all tokens, also where constructs are never closed,
closed at the end of the text, or passed over.
-/

namespace Stencil

namespace Node

/-- Whether a node is one of the constructs whose nesting is limited. -/
def isConstruct : Node → Bool
  | choice _ _ _ _ | loop _ _ _ _ | block _ _ _ => true
  | text _ _ | assignment _ _ _ | output _ _ | malformed _ _ => false

mutual

/-- The most constructs on a way from a node to a leaf. -/
def levels : Node → Nat
  | choice _ _ body none => levelsAll body + 1
  | choice _ _ body (some otherwise) => max (levelsAll body) (levelsAll otherwise) + 1
  | loop _ _ _ body | block _ _ body => levelsAll body + 1
  | text _ _ | assignment _ _ _ | output _ _ | malformed _ _ => 0

def levelsAll : List Node → Nat
  | [] => 0
  | node :: rest => max node.levels (levelsAll rest)

end

theorem levelsAll_eq (nodes : List Node) : levelsAll nodes = highest levels nodes := by
  induction nodes with
  | nil => rfl
  | cons node rest ih => rw [levelsAll, ih, highest]

theorem isHeight_levels : IsHeight inner isConstruct levels := by
  refine .of_highest fun node => ?_
  cases node with
  | choice extent condition body otherwise =>
      cases otherwise <;>
        simp [levels, inner, isConstruct, levelsAll_eq, highest_append]
  | _ => simp [levels, inner, isConstruct, levelsAll_eq, highest]

end Node

namespace Template.Parser

variable {state : State} {head : Statement} {token : Token} {frame : Frame} {outer : List Frame}
  {node : Node}

/-- That there is room for nodes where some number of constructs are open around them. -/
def Fit (depth : Nat) (nodes : List Node) : Prop :=
  ∀ node ∈ nodes, node.levels + depth ≤ maxDepth

/-- That there was room for each open construct, and is for what is finished inside of it. -/
inductive Low : List Frame → Prop where
  | nothing : Low []
  | within {frame : Frame} {outer : List Frame} (room : outer.length < maxDepth)
      (inside : Fit (outer.length + 1) frame.nodes) (around : Low outer) : Low (frame :: outer)

/-- That there is room for all that is finished and open. -/
structure Shallow (state : State) : Prop where
  finished : Fit 0 state.children
  stack : Low state.stack

theorem Low.length_le {stack : List Frame} (low : Low stack) : stack.length ≤ maxDepth := by
  cases low with
  | nothing => exact Nat.zero_le _
  | within room _ _ => exact room

theorem Fit.concat {depth : Nat} {nodes : List Node} (fit : Fit depth nodes)
    (room : node.levels + depth ≤ maxDepth) : Fit depth (nodes ++ [node]) :=
  List.forall_mem_append.mpr ⟨fit, List.forall_mem_singleton.mpr room⟩

/-- A construct takes one level more than what is inside of it. -/
theorem Fit.closed {depth : Nat} (fit : Fit (depth + 1) node.inner) (room : depth < maxDepth) :
    node.levels + depth ≤ maxDepth := by
  have lower : ∀ deeper ∈ node.inner, deeper.levels < maxDepth - depth := by
    intro deeper inside
    have below := fit deeper inside
    omega
  have here := Node.isHeight_levels.lt_of_inner (Nat.sub_pos_of_lt room) lower
  have one := node.isConstruct.toNat_le
  omega

/-- A finished node goes where there is room for it. -/
theorem fit_attachTo {children : List Node} {stack : List Frame} (finished : Fit 0 children)
    (low : Low stack) (room : node.levels + stack.length ≤ maxDepth) :
    Fit 0 (State.attachTo children node stack).1 ∧ Low (State.attachTo children node stack).2 := by
  induction low generalizing node with
  | nothing => exact ⟨finished.concat room, .nothing⟩
  | @within frame outer space inside around ih =>
      have grown := inside.concat room
      cases frame with
      | continued head condition body =>
          -- The choice that the node continues is finished with it.
          exact ih (Fit.closed grown space)
      | otherwise head condition body others =>
          refine ⟨finished, .within space ?_ around⟩
          rwa [Frame.nodes, List.append_assoc] at grown
      | _ => exact ⟨finished, .within space grown around⟩

namespace Shallow

theorem attach (shallow : Shallow state) {made : Noticing Node}
    (room : made.1.levels + state.stack.length ≤ maxDepth) : Shallow (state.attach made) := by
  rcases fit_attachTo shallow.finished shallow.stack room with ⟨finished, stack⟩
  exact ⟨finished, stack⟩

/-- There is room for a node without constructs everywhere. -/
theorem attach_flat (shallow : Shallow state) {made : Noticing Node} (flat : made.1.levels = 0) :
    Shallow (state.attach made) := by
  refine shallow.attach ?_
  rw [flat, Nat.zero_add]
  exact shallow.stack.length_le

theorem push (shallow : Shallow state) (frame : Frame) (room : state.stack.length < maxDepth)
    (nothing : frame.nodes = []) : Shallow (state.push frame) := by
  refine ⟨shallow.finished, .within room ?_ shallow.stack⟩
  rw [nothing]
  exact fun node member => nomatch member

theorem openSkip (shallow : Shallow state) : Shallow (state.openSkip head) :=
  ⟨shallow.finished, shallow.stack⟩

theorem openChoice (shallow : Shallow state) (room : state.stack.length < maxDepth) :
    Shallow (state.openChoice head) := by
  rcases shallow.push (.choice head (requiredExpression head head.rest).1 []) room rfl with
    ⟨finished, stack⟩
  exact ⟨finished, stack⟩

theorem closeSkip (shallow : Shallow state) (skip : Skip) : Shallow (state.closeSkip skip) := by
  have freed : Shallow { state with skip := none } := ⟨shallow.finished, shallow.stack⟩
  exact freed.attach_flat rfl

theorem levels_loopNode {depth : Nat} {body : List Node} (fit : Fit (depth + 1) body)
    (room : depth < maxDepth) (stop : Position) :
    (loopNode head body stop).1.levels + depth ≤ maxDepth := by
  unfold loopNode
  split
  · exact Nat.le_of_lt (by simpa [malformedNode, Node.levels] using room)
  · exact Fit.closed fit room

theorem levels_blockNode {depth : Nat} {body : List Node} (fit : Fit (depth + 1) body)
    (room : depth < maxDepth) (names : List String) (stop : Position) :
    (blockNode names head body stop).1.levels + depth ≤ maxDepth := by
  unfold blockNode
  split
  · exact Nat.le_of_lt (by simpa [malformedNode, Node.levels] using room)
  · exact Fit.closed fit room

theorem close (shallow : Shallow state) (closing : Option Statement) (stop : Position) :
    Shallow (state.close closing stop) := by
  rcases state with ⟨children, stack, skip, errors, names⟩
  rcases shallow with ⟨finished, low⟩
  unfold State.close
  cases low with
  | nothing => exact ⟨finished, .nothing⟩
  | @within frame outer space inside around =>
      have left : Shallow ⟨children, outer, skip, errors, names⟩ := ⟨finished, around⟩
      have noticed (problems : List ParseError) :
          Shallow (State.notice ⟨children, outer, skip, errors, names⟩ problems) :=
        ⟨finished, around⟩
      cases frame with
      | choice head condition body =>
          refine (noticed _).attach (Fit.closed ?_ space)
          rwa [Node.inner, Option.getD_none, List.append_nil]
      | otherwise head condition body others => exact (noticed _).attach (Fit.closed inside space)
      | continued head condition body =>
          refine left.attach (Fit.closed ?_ space)
          rwa [Node.inner, Option.getD_none, List.append_nil]
      | loop head body => exact (noticed _).attach (levels_loopNode inside space stop)
      | block head body =>
          rcases (noticed (mismatchErrors head.blockName? closing ++
            closingErrors head closing "endblock")).attach
              (levels_blockNode inside space names stop) with ⟨finished, stack⟩
          exact ⟨finished, stack⟩

/-- The branches of a choice are told apart by how the construct goes on only. -/
theorem become (shallow : Shallow state) (stack : state.stack = frame :: outer) (other : Frame)
    (nodes : other.nodes = frame.nodes) : Shallow { state with stack := other :: outer } := by
  rcases shallow with ⟨finished, low⟩
  rw [stack] at low
  cases low with
  | within room inside around =>
      rw [← nodes] at inside
      exact ⟨finished, .within room inside around⟩

theorem continued (shallow : Shallow state) {condition : Expr} {body : List Node}
    (stack : state.stack = .choice head condition body :: outer) :
    Shallow { state with stack := .continued head condition body :: outer } :=
  shallow.become stack (.continued head condition body) rfl

theorem takeElse (shallow : Shallow state) {condition : Expr} {body : List Node}
    (stack : state.stack = .choice head condition body :: outer) (middle : Statement) :
    Shallow (state.takeElse middle head condition body outer) := by
  rcases shallow.become stack (.otherwise head condition body []) (List.append_nil _) with
    ⟨finished, low⟩
  exact ⟨finished, low⟩

end Shallow

/-- A token that is a node of its own has no nodes inside of it. -/
theorem Single.levels_eq {made : Noticing Node} (single : Single token made) :
    made.1.levels = 0 := by
  cases single with
  | text plain => rfl
  | output tag =>
      unfold outputNode
      dsimp only
      split <;> rfl
  | assignment opens =>
      unfold assignmentNode
      split <;> rfl
  | malformed tag problem => rfl

theorem Step.shallow {after : State} (step : Step token state after) (shallow : Shallow state) :
    Shallow after := by
  cases step with
  | passing _ _ => exact ⟨shallow.finished, shallow.stack⟩
  | passed _ _ => exact shallow.closeSkip _
  | comment _ _ => exact shallow
  | single _ single => exact shallow.attach_flat single.levels_eq
  | choice _ _ room => exact shallow.openChoice room
  | loop _ _ room | block _ _ room => exact shallow.push _ room rfl
  | tooDeep _ _ _ _ => exact shallow.openSkip
  | further _ _ stack room =>
      rw [stack] at room
      exact (shallow.continued stack).openChoice room
  | furtherTooDeep _ _ stack _ => exact (shallow.continued stack).openSkip
  | middle _ _ stack => exact shallow.takeElse stack _
  | closes _ _ _ _ => exact shallow.close _ _

namespace Shallow

theorem foldl (shallow : Shallow state) (tokens : List Token) :
    Shallow (tokens.foldl State.take state) := by
  induction tokens generalizing state with
  | nil => exact shallow
  | cons token rest ih => exact ih ((step_take state token).shallow shallow)

theorem finishSkip (shallow : Shallow state) : Shallow state.finishSkip := by
  unfold State.finishSkip
  split
  · exact shallow.closeSkip _
  · exact shallow

theorem finish (shallow : Shallow state) (stop : Position) (fuel : Nat) :
    Shallow (State.finish stop fuel state) := by
  induction fuel generalizing state with
  | zero => exact shallow
  | succ fuel ih =>
      rw [State.finish]
      split
      · exact shallow
      · exact ih (shallow.close _ _)

end Shallow

/-- No node of a template has more levels of constructs than the limit. -/
theorem fit_parse (tokens : List Token) : Fit 0 (parse tokens).template.children := by
  have start : Shallow {} := ⟨(fun _ member => nomatch member), .nothing⟩
  exact (((start.foldl tokens).finishSkip).finish _ _).finished

end Template.Parser

end Stencil
