import Stencil.Proofs.Template.Capping
/-!
# Comments in templates

A comment leaves no trace but one: where it is the last of what a node covers, the node ends there.
So two readings of a template, one with its comments and one without them, are compared after the
ends of all regions have been forgotten, as `Node.unended` does. What a token does to a state does
not depend on what is forgotten, and so what is read does not, token by token.
-/

namespace Stencil

/-- A region of which only the beginning is known. -/
def Span.unended (span : Span) : Span := ⟨span.start, span.start⟩

def Extent.unended (extent : Extent) : Extent := ⟨extent.span.unended, extent.raw⟩

namespace Node

mutual

/-- A node without the ends of its own region and those of the nodes inside of it. -/
def unended : Node → Node
  | text extent content => text extent.unended content
  | choice extent condition body none => choice extent.unended condition (unendedAll body) none
  | choice extent condition body (some otherwise) =>
    choice extent.unended condition (unendedAll body) (some (unendedAll otherwise))
  | loop extent iterator iterable body =>
    loop extent.unended iterator iterable (unendedAll body)
  | assignment extent name value => assignment extent.unended name value
  | block extent name body => block extent.unended name (unendedAll body)
  | output extent value => output extent.unended value
  | malformed extent message => malformed extent.unended message

def unendedAll : List Node → List Node
  | [] => []
  | node :: rest => unended node :: unendedAll rest

end

theorem unendedAll_concat (nodes : List Node) (node : Node) :
    unendedAll (nodes ++ [node]) = unendedAll nodes ++ [node.unended] := by
  induction nodes with
  | nil => rfl
  | cons first rest ih => rw [List.cons_append, unendedAll, unendedAll, ih, List.cons_append]

mutual

/-- There is nothing left to forget. -/
@[simp]
theorem unended_unended : (node : Node) → node.unended.unended = node.unended
  | text _ _ | assignment _ _ _ | output _ _ | malformed _ _ => rfl
  | choice _ _ body none => by simp only [unended, unendedAll_unendedAll body]; rfl
  | choice _ _ body (some otherwise) => by
    simp only [unended, unendedAll_unendedAll body, unendedAll_unendedAll otherwise]
    rfl
  | loop _ _ _ body | block _ _ body => by simp only [unended, unendedAll_unendedAll body]; rfl

@[simp]
theorem unendedAll_unendedAll : (nodes : List Node) →
    unendedAll (unendedAll nodes) = unendedAll nodes
  | [] => rfl
  | node :: rest => by simp only [unendedAll, unended_unended node, unendedAll_unendedAll rest]

end

end Node

namespace Template.Parser

open Node

/-- A block that is being passed over, without where it ends. -/
def Skip.unended (skip : Skip) : Skip := { skip with stop := skip.head.token.start }

/-- An open construct without the ends of the nodes inside of it. -/
def Frame.unended (frame : Frame) : Frame := frame.mapped unendedAll

@[simp]
theorem Frame.unended_unended (frame : Frame) : frame.unended.unended = frame.unended := by
  cases frame <;> simp [Frame.unended, Frame.mapped]

@[simp]
theorem map_unended_unended (stack : List Frame) :
    (stack.map Frame.unended).map Frame.unended = stack.map Frame.unended := by
  simp [List.map_map, Function.comp_def]

namespace State

/-- A state without the ends of regions. -/
def unended (state : State) : State :=
  { state with
    children := unendedAll state.children
    stack := state.stack.map Frame.unended
    skip := state.skip.map Skip.unended }

variable {state : State} {head : Statement}

/-- What is open and finished after a node has been added is the same after the ends have been
forgotten, whether they are forgotten before or not. -/
theorem attachTo_unended (children : List Node) {node node' : Node}
    (same : node.unended = node'.unended) (stack : List Frame) :
    unendedAll (attachTo children node stack).1 =
        unendedAll (attachTo (unendedAll children) node' (stack.map Frame.unended)).1 ∧
      (attachTo children node stack).2.map Frame.unended =
        (attachTo (unendedAll children) node' (stack.map Frame.unended)).2.map Frame.unended := by
  induction stack generalizing node node' with
  | nil => simp [attachTo, unendedAll_concat, same]
  | cons frame outer ih =>
      rw [List.map_cons]
      cases frame with
      | continued head condition body =>
          refine ih ?_
          simp only [Node.unended, unendedAll, unendedAll_unendedAll, same]
          rfl
      | _ =>
          refine ⟨(unendedAll_unendedAll children).symm, ?_⟩
          refine congrArg₂ List.cons ?_ (map_unended_unended outer).symm
          simp [Frame.unended, Frame.mapped, unendedAll_concat, same]

@[simp]
theorem unended_unended (state : State) : state.unended.unended = state.unended := by
  rcases state with ⟨children, stack, skip, errors, names⟩
  cases skip <;> simp [unended, Skip.unended]

theorem attach_unended (state : State) {made made' : Noticing Node}
    (same : made.1.unended = made'.1.unended) (problems : made.2 = made'.2) :
    (state.attach made).unended = (state.unended.attach made').unended := by
  rcases attachTo_unended state.children same state.stack with ⟨children, stack⟩
  rcases state with ⟨finished, opened, skip, errors, names⟩
  simp only [unended, attach] at children stack ⊢
  rw [children, stack, problems]
  cases skip <;> simp [Skip.unended]

theorem openSkip_unended (state : State) (head : Statement) :
    (state.openSkip head).unended = (state.unended.openSkip head).unended := by
  simp [openSkip, notice, unended]

theorem push_unended (state : State) (frame : Frame) :
    (state.push frame).unended = (state.unended.push frame).unended := by
  rcases state with ⟨children, stack, skip, errors, names⟩
  cases skip <;> simp [push, unended, Skip.unended]

theorem notice_unended (state : State) (problems : List ParseError) :
    (state.notice problems).unended = state.unended.notice problems := rfl

theorem openChoice_unended (state : State) (head : Statement) :
    (state.openChoice head).unended = (state.unended.openChoice head).unended := by
  simp only [openChoice, notice_unended]
  rw [push_unended]

theorem closeSkip_unended (state : State) {skip skip' : Skip} (same : skip.head = skip'.head) :
    (state.closeSkip skip).unended = (state.unended.closeSkip skip').unended := by
  refine attach_unended { state with skip := none } ?_ rfl
  simp only [Node.unended, same]
  rfl

theorem takeOther_unended (state : State) (head : Statement) :
    (state.takeOther head).unended = (state.unended.takeOther head).unended := by
  have deep : state.unended.stack.length = state.stack.length := List.length_map _
  simp only [takeOther, deep]
  split
  · split
    · exact openSkip_unended state head
    · exact openChoice_unended state head
  · split
    · split
      · exact openSkip_unended state head
      · exact push_unended state _
    · split
      · split
        · exact openSkip_unended state head
        · exact push_unended state _
      · split
        · exact attach_unended state rfl rfl
        · split
          · exact attach_unended state rfl rfl
          · split
            · exact attach_unended state rfl rfl
            · exact attach_unended state rfl rfl

end State

/-- A loop is closed with the same problems wherever it is, and only its end differs. -/
theorem loopNode_unended (head : Statement) (body : List Node) (stop stop' : Position) :
    (loopNode head body stop).1.unended = (loopNode head (unendedAll body) stop').1.unended ∧
      (loopNode head body stop).2 = (loopNode head (unendedAll body) stop').2 := by
  unfold loopNode
  split
  · exact ⟨rfl, rfl⟩
  · refine ⟨?_, rfl⟩
    simp only [Node.unended, unendedAll_unendedAll]
    rfl

theorem blockNode_unended (names : List String) (head : Statement) (body : List Node)
    (stop stop' : Position) :
    (blockNode names head body stop).1.unended =
        (blockNode names head (unendedAll body) stop').1.unended ∧
      (blockNode names head body stop).2 = (blockNode names head (unendedAll body) stop').2 := by
  unfold blockNode
  split
  · exact ⟨rfl, rfl⟩
  · refine ⟨?_, rfl⟩
    simp only [Node.unended, unendedAll_unendedAll]
    rfl

namespace State

/-- Closing a construct elsewhere makes no difference but for the end of it. -/
theorem close_unended (state : State) (closing : Option Statement) (stop stop' : Position) :
    (state.close closing stop).unended = (state.unended.close closing stop').unended := by
  rcases state with ⟨children, stack, skip, errors, names⟩
  cases stack with
  | nil => exact (unended_unended _).symm
  | cons frame outer =>
      let left : State := ⟨children, outer, skip, errors, names⟩
      cases frame with
      | choice head condition body =>
          refine attach_unended (left.notice _) ?_ rfl
          simp only [Node.unended, unendedAll_unendedAll]
          rfl
      | otherwise head condition body others =>
          refine attach_unended (left.notice _) ?_ rfl
          simp only [Node.unended, unendedAll_unendedAll]
          rfl
      | continued head condition body =>
          refine attach_unended left ?_ rfl
          simp only [Node.unended, unendedAll_unendedAll]
          rfl
      | loop head body =>
          rcases loopNode_unended head body stop stop' with ⟨same, problems⟩
          exact attach_unended (left.notice _) same problems
      | block head body =>
          rcases blockNode_unended names head body stop stop' with ⟨same, problems⟩
          have attached := attach_unended (left.notice (mismatchErrors head.blockName? closing ++
            closingErrors head closing "endblock")) same problems
          exact congrArg (fun state : State => { state with
            blockNames := head.blockName?.toList ++ names }) attached

section Branches

variable (state : State) (statement head : Statement) (condition : Expr) (body : List Node)
  (outer : List Frame)

theorem takeElif_unended :
    (state.takeElif statement head condition body outer).unended =
      (state.unended.takeElif statement head condition (unendedAll body)
        (outer.map Frame.unended)).unended := by
  have deep : state.unended.stack.length = state.stack.length := List.length_map _
  simp only [takeElif, deep]
  split
  · exact openSkip_unended { state with stack := .continued head condition body :: outer } statement
  · exact openChoice_unended { state with stack := .continued head condition body :: outer }
      statement

theorem takeElse_unended :
    (state.takeElse statement head condition body outer).unended =
      (state.unended.takeElse statement head condition (unendedAll body)
        (outer.map Frame.unended)).unended := by
  let opened : State := { state with stack := .otherwise head condition body [] :: outer }
  have forgotten : opened.unended = opened.unended.unended := (unended_unended opened).symm
  simp only [takeElse, notice_unended]
  exact congrArg (·.notice (bareErrors statement)) forgotten

end Branches

theorem takeStatement_unended (state : State) (head : Statement) :
    (state.takeStatement head).unended = (state.unended.takeStatement head).unended := by
  have other := takeOther_unended state head
  have closed := close_unended state (some head) head.token.stop head.token.stop
  have closing (keyword : String) :
      (if head.keyword = keyword then state.close (some head) head.token.stop
        else state.takeOther head).unended =
      (if head.keyword = keyword then state.unended.close (some head) head.token.stop
        else state.unended.takeOther head).unended := by
    split
    · exact closed
    · exact other
  have opened : state.unended.stack = state.stack.map Frame.unended := rfl
  rw [takeStatement_eq_match, takeStatement_eq_match, opened]
  rcases state.stack with _ | ⟨frame, outer⟩
  · exact other
  · rw [List.map_cons]
    cases frame with
    | choice first condition body =>
        dsimp only [Frame.unended, Frame.mapped]
        split
        · exact takeElif_unended state head first condition body outer
        · split
          · exact takeElse_unended state head first condition body outer
          · exact closing "endif"
    | continued first condition body => exact other
    | otherwise first condition body others => exact closing "endif"
    | loop first body => exact closing "endfor"
    | block first body => exact closing "endblock"

/-- What a token does to a state does not depend on the ends of regions. -/
theorem take_unended (state : State) (token : Token) :
    (state.take token).unended = (state.unended.take token).unended := by
  cases skipping : state.skip with
  | some skip =>
      have forgotten : state.unended.skip = some skip.unended := by
        rw [unended, skipping]
        rfl
      have depth : skip.unended.depth = skip.depth := rfl
      rw [take_skipping skipping, take_skipping forgotten, depth]
      split
      · exact closeSkip_unended state rfl
      · simp [unended, Skip.unended]
  | none =>
      have forgotten : state.unended.skip = none := by
        rw [unended, skipping]
        rfl
      unfold take
      rw [skipping, forgotten]
      dsimp only
      split
      · exact attach_unended state rfl rfl
      · exact (unended_unended state).symm
      · exact attach_unended state rfl rfl
      · exact takeStatement_unended state _

variable {state : State}

/-- That a block is passed over only as long as it is open. -/
def Skips (state : State) : Prop := ∀ skip ∈ state.skip, 0 < skip.depth

theorem Skips.of_none (reading : state.skip = none) : state.Skips := by
  intro skip member
  rw [reading] at member
  cases member

theorem Skips.openSkip (state : State) (head : Statement) : (state.openSkip head).Skips := by
  intro skip member
  cases member
  exact Nat.one_pos

theorem Skips.closeSkip (state : State) (skip : Skip) : (state.closeSkip skip).Skips := of_none rfl

end State

/-- A block is passed over from a tag on that opens it, until it is closed. -/
theorem Step.skips {state after : State} {token : Token} (step : Step token state after) :
    after.Skips := by
  cases step with
  | passing _ still =>
      intro skip member
      cases member
      exact Nat.pos_of_ne_zero still
  | passed _ _ => exact .closeSkip _ _
  | tooDeep _ _ _ _ | furtherTooDeep _ _ _ _ => exact .openSkip _ _
  | comment reading _ | single reading _ | choice reading _ _ | loop reading _ _
  | block reading _ _ | further reading _ _ _ | middle reading _ _ => exact .of_none reading
  | closes reading _ _ _ => exact .of_none ((skip_close _ _).trans reading)

namespace State

variable {state : State}

/-- A comment changes nothing but where a block that is passed over ends. -/
theorem take_comment_unended (skips : state.Skips) {token : Token}
    (comment : token.tag? = some .comment) : (state.take token).unended = state.unended := by
  cases skipping : state.skip with
  | some skip =>
      have plain : token.tag? ≠ some .statement := by
        rw [comment]
        decide
      have open_ := Nat.pos_iff_ne_zero.mp (skips skip skipping)
      rw [take_skipping skipping, skipDepth_plain plain, if_neg open_]
      simp [unended, skipping, Skip.unended]
  | none => rw [take_comment skipping comment]

theorem skips_start : ({} : State).Skips := .of_none rfl

end State

/-- The tokens of a list that are no comments. -/
def withoutComments (tokens : List Token) : List Token :=
  tokens.filter fun token => token.tag? ≠ some .comment

namespace State

/-- Comments make no difference to what tokens one after the other do. -/
theorem foldl_unended (tokens : List Token) {state state' : State}
    (same : state.unended = state'.unended) (skips : state.Skips) :
    (tokens.foldl take state).unended = ((withoutComments tokens).foldl take state').unended := by
  induction tokens generalizing state state' with
  | nil => exact same
  | cons token rest ih =>
      by_cases comment : token.tag? = some .comment
      · have dropped : withoutComments (token :: rest) = withoutComments rest := by
          simp [withoutComments, comment]
        rw [dropped, List.foldl_cons]
        exact ih ((take_comment_unended skips comment).trans same) (step_take state token).skips
      · have kept : withoutComments (token :: rest) = token :: withoutComments rest := by
          simp [withoutComments, comment]
        rw [kept, List.foldl_cons, List.foldl_cons]
        refine ih ?_ (step_take state token).skips
        rw [take_unended, same, ← take_unended]

theorem finishSkip_unended {state state' : State} (same : state.unended = state'.unended) :
    state.finishSkip.unended = state'.finishSkip.unended := by
  have skips := congrArg State.skip same
  rcases state with ⟨children, stack, skip, errors, names⟩
  rcases state' with ⟨children', stack', skip', errors', names'⟩
  cases skip with
  | none =>
      cases skip' with
      | none => exact same
      | some skip' => cases skips
  | some skip =>
      cases skip' with
      | none => cases skips
      | some skip' =>
          have heads : skip.head = skip'.head := by
            cases skip
            cases skip'
            simp only [unended, Option.map_some, Option.some.injEq, Skip.unended,
              Skip.mk.injEq] at skips
            exact skips.1
          simp only [finishSkip]
          rw [closeSkip_unended _ heads, same, ← closeSkip_unended _ rfl]

/-- What is open at the end of the text is closed there, wherever that is. -/
theorem finish_unended (stop stop' : Position) (fuel : Nat) {state state' : State}
    (same : state.unended = state'.unended) :
    (finish stop fuel state).unended = (finish stop' fuel state').unended := by
  induction fuel generalizing state state' with
  | zero => exact same
  | succ fuel ih =>
      have frames : state.stack.map Frame.unended = state'.stack.map Frame.unended :=
        congrArg State.stack same
      have empty : state.stack.isEmpty = state'.stack.isEmpty := by
        rw [← List.isEmpty_map (f := Frame.unended), frames, List.isEmpty_map]
      rw [finish, finish, empty]
      split
      · exact same
      · refine ih ?_
        rw [close_unended state none stop stop, same, ← close_unended state' none stop' stop]

end State

/-- Comments make no difference to what is read, but for the ends of regions. -/
theorem parse_unended (tokens : List Token) :
    unendedAll (parse tokens).template.children =
        unendedAll (parse (withoutComments tokens)).template.children ∧
      (parse tokens).errors = (parse (withoutComments tokens)).errors := by
  have read := State.finishSkip_unended (State.foldl_unended tokens rfl State.skips_start)
  have frames := congrArg (fun state : State => state.stack.length) read
  simp only [State.unended, List.length_map] at frames
  have finished := State.finish_unended (spanOf tokens).stop
    (spanOf (withoutComments tokens)).stop
    (tokens.foldl State.take {}).finishSkip.stack.length read
  simp only [parse]
  rw [← frames]
  exact ⟨(congrArg State.children finished :), (congrArg State.errors finished :)⟩

end Template.Parser

end Stencil
