import Stencil.Proofs.Render.Holes
import Stencil.Proofs.Template.Leaves
import Stencil.Proofs.Template.Recovery
/-!
# What a leaf can damage

Two readings of tokens that differ in a leaf go the same way: at every token what is finished and
what is open is the same but for the node of the leaf, as `SameButFor` says, and the same is
noticed. A construct that is closed takes the node along, or drops it in both readings: whether it
is malformed depends on its own tag alone.
-/

namespace Stencil

/-- That nodes are the same in two lists but for one of them, somewhere in one list and another in
its place in the other. -/
def Node.Swapped (one other : Node) (nodes nodes' : List Node) : Prop :=
  ∃ hole : NodeHole, nodes = hole.fill [one] ∧ nodes' = hole.fill [other]

namespace Node.Swapped

variable {one other : Node} {nodes nodes' : List Node}

theorem alone : Swapped one other [one] [other] := ⟨.here, rfl, rfl⟩

theorem under (layer : NodeLayer) (swapped : Swapped one other nodes nodes') :
    Swapped one other (layer.fill nodes) (layer.fill nodes') := by
  rcases swapped with ⟨hole, rfl, rfl⟩
  exact ⟨.under layer hole, rfl, rfl⟩

theorem looped (extent : Extent) (iterator : String) (iterable : Expr)
    (swapped : Swapped one other nodes nodes') :
    Swapped one other [.loop extent iterator iterable nodes]
      [.loop extent iterator iterable nodes'] := by
  rcases swapped with ⟨hole, rfl, rfl⟩
  exact ⟨.iterated extent iterator iterable hole, rfl, rfl⟩

theorem concat (swapped : Swapped one other nodes nodes') (node : Node) :
    Swapped one other (nodes ++ [node]) (nodes' ++ [node]) :=
  swapped.under (.among [] [node])

theorem behind (swapped : Swapped one other nodes nodes') (before : List Node) :
    Swapped one other (before ++ nodes) (before ++ nodes') := by
  have whole := swapped.under (.among before [])
  simpa [NodeLayer.fill] using whole

end Node.Swapped

namespace Template.Parser

open Node (Swapped)

/-- That a construct is open in two readings with the same nodes but for one of them. -/
inductive Frame.Swapped (one other : Node) : Frame → Frame → Prop where
  | choice {head : Statement} {condition : Expr} {body body' : List Node}
      (inside : Node.Swapped one other body body') :
      Swapped one other (.choice head condition body) (.choice head condition body')
  | first {head : Statement} {condition : Expr} {body body' others : List Node}
      (inside : Node.Swapped one other body body') :
      Swapped one other (.otherwise head condition body others)
        (.otherwise head condition body' others)
  | second {head : Statement} {condition : Expr} {body others others' : List Node}
      (inside : Node.Swapped one other others others') :
      Swapped one other (.otherwise head condition body others)
        (.otherwise head condition body others')
  | continued {head : Statement} {condition : Expr} {body body' : List Node}
      (inside : Node.Swapped one other body body') :
      Swapped one other (.continued head condition body) (.continued head condition body')
  | loop {head : Statement} {body body' : List Node}
      (inside : Node.Swapped one other body body') :
      Swapped one other (.loop head body) (.loop head body')
  | block {head : Statement} {body body' : List Node}
      (inside : Node.Swapped one other body body') :
      Swapped one other (.block head body) (.block head body')

/-- That what is finished and what is open is the same in two readings but for one node, or
altogether. -/
inductive SameButFor (one other : Node) (children : List Node) :
    List Frame → List Node → List Frame → Prop where
  | nothing : SameButFor one other children [] children []
  | finished {children' : List Node} (swapped : Node.Swapped one other children children') :
      SameButFor one other children [] children' []
  | innermost {frame frame' : Frame} {outer : List Frame}
      (swapped : frame.Swapped one other frame') :
      SameButFor one other children (frame :: outer) children (frame' :: outer)
  | outside {children' : List Node} {outer outer' : List Frame} (frame : Frame)
      (around : SameButFor one other children outer children' outer') :
      SameButFor one other children (frame :: outer) children' (frame :: outer')

section Attaching

variable {one other node node' : Node} {children children' : List Node}
  {stack stack' : List Frame}

theorem SameButFor.refl (children : List Node) (stack : List Frame) :
    SameButFor one other children stack children stack := by
  induction stack with
  | nil => exact .nothing
  | cons frame outer ih => exact .outside frame ih

theorem SameButFor.length_eq (same : SameButFor one other children stack children' stack') :
    stack.length = stack'.length := by
  induction same with
  | nothing | finished _ => rfl
  | innermost _ => rfl
  | outside frame _ ih => rw [List.length_cons, List.length_cons, ih]

theorem SameButFor.isEmpty_eq (same : SameButFor one other children stack children' stack') :
    stack.isEmpty = stack'.isEmpty := by
  cases same <;> rfl

/-- What is finished has the node swapped, or is the same. -/
theorem SameButFor.eq_or_swapped (same : SameButFor one other children stack children' stack') :
    children = children' ∨ Swapped one other children children' := by
  induction same with
  | nothing | innermost _ => exact .inl rfl
  | finished swapped => exact .inr swapped
  | outside _ _ ih => exact ih

/-- One reading adds a node, and the other one the same with another node inside. -/
theorem sameButFor_attachTo (children : List Node) (stack : List Frame)
    (swapped : Swapped one other [node] [node']) (ends : node.span.stop = node'.span.stop) :
    SameButFor one other
      (State.attachTo children node stack).1 (State.attachTo children node stack).2
      (State.attachTo children node' stack).1 (State.attachTo children node' stack).2 := by
  induction stack generalizing node node' with
  | nil => exact .finished (swapped.behind children)
  | cons frame outer ih =>
      cases frame with
      | choice head condition body => exact .innermost (.choice (swapped.behind body))
      | otherwise head condition body others =>
          exact .innermost (.second (swapped.behind others))
      | continued head condition body =>
          have extent : head.extentTo node.span.stop = head.extentTo node'.span.stop := by
            rw [ends]
          have around := swapped.under (.otherwise (head.extentTo node'.span.stop) condition body)
          rw [State.attachTo, State.attachTo, extent]
          exact ih around rfl
      | loop head body => exact .innermost (.loop (swapped.behind body))
      | block head body => exact .innermost (.block (swapped.behind body))

/-- Both readings add the same node. -/
theorem SameButFor.attachTo (same : SameButFor one other children stack children' stack')
    (node : Node) :
    SameButFor one other
      (State.attachTo children node stack).1 (State.attachTo children node stack).2
      (State.attachTo children' node stack').1 (State.attachTo children' node stack').2 := by
  induction same generalizing node with
  | nothing => exact .nothing
  | finished swapped => exact .finished (swapped.concat node)
  | @innermost _ _ outer swapped =>
      cases swapped with
      | choice inside => exact .innermost (.choice (inside.concat node))
      | first inside => exact .innermost (.first inside)
      | second inside => exact .innermost (.second (inside.concat node))
      | @continued head condition _ _ inside =>
          exact sameButFor_attachTo children outer
            (inside.under (.body (head.extentTo node.span.stop) condition (some [node]))) rfl
      | loop inside => exact .innermost (.loop (inside.concat node))
      | block inside => exact .innermost (.block (inside.concat node))
  | outside frame around ih =>
      cases frame with
      | continued head condition body => exact ih _
      | _ => exact .outside _ around

end Attaching

section Closing

variable {one other : Node} {frame frame' : Frame} {outer : List Frame} {state : State}

/-- The node of a construct that is closed at a place, with what is noticed in it then. -/
def Frame.closedNode (names : List String) (stop : Position) : Frame → Noticing Node
  | .choice head condition body => (.choice (head.extentTo stop) condition body none, [])
  | .otherwise head condition body others =>
    (.choice (head.extentTo stop) condition body (some others), [])
  | .continued head condition body => (.choice (head.extentTo stop) condition body none, [])
  | .loop head body => loopNode head body stop
  | .block head body => blockNode names head body stop

/-- All constructs are closed alike: what is wrong with the place is noticed, then what is wrong
with the construct, and its name is recorded. -/
theorem close_cons (stack : state.stack = frame :: outer) (closing : Option Statement)
    (stop : Position) :
    state.close closing stop =
      { ({ state with stack := outer }.notice (frame.closingProblems closing)).attach
          (frame.closedNode state.blockNames stop) with
        blockNames := frame.recorded.toList ++ state.blockNames } := by
  rcases state with ⟨children, _, skip, errors, names⟩
  subst stack
  cases frame with
  | continued head condition body =>
      simp [State.close, State.attach, State.notice, Frame.closingProblems, Frame.closedNode,
        Frame.recorded]
  | _ => rfl

namespace Frame.Swapped

theorem closingProblems_eq (swapped : frame.Swapped one other frame') (closing : Option Statement) :
    frame.closingProblems closing = frame'.closingProblems closing := by
  cases swapped <;> rfl

theorem recorded_eq (swapped : frame.Swapped one other frame') :
    frame.recorded = frame'.recorded := by
  cases swapped <;> rfl

/-- A construct is closed with the same problems, and takes the node along or drops it. -/
theorem closedNode (swapped : frame.Swapped one other frame') (names : List String)
    (stop : Position) :
    (frame.closedNode names stop).2 = (frame'.closedNode names stop).2 ∧
      ((frame.closedNode names stop).1 = (frame'.closedNode names stop).1 ∨
        Node.Swapped one other [(frame.closedNode names stop).1]
            [(frame'.closedNode names stop).1] ∧
          (frame.closedNode names stop).1.span.stop =
            (frame'.closedNode names stop).1.span.stop) := by
  cases swapped with
  | @choice head condition _ _ inside =>
      exact ⟨rfl, .inr ⟨inside.under (.body (head.extentTo stop) condition none), rfl⟩⟩
  | @first head condition _ _ others inside =>
      exact ⟨rfl, .inr ⟨inside.under (.body (head.extentTo stop) condition (some others)), rfl⟩⟩
  | @second head condition body _ _ inside =>
      exact ⟨rfl, .inr ⟨inside.under (.otherwise (head.extentTo stop) condition body), rfl⟩⟩
  | @continued head condition _ _ inside =>
      exact ⟨rfl, .inr ⟨inside.under (.body (head.extentTo stop) condition none), rfl⟩⟩
  | @loop head _ _ inside =>
      simp only [Frame.closedNode, loopNode]
      split
      · exact ⟨rfl, .inl rfl⟩
      · exact ⟨rfl, .inr ⟨inside.looped _ _ _, rfl⟩⟩
  | @block head _ _ inside =>
      simp only [Frame.closedNode, blockNode]
      split
      · exact ⟨rfl, .inl rfl⟩
      · exact ⟨rfl, .inr ⟨inside.under (.block _ _), rfl⟩⟩

end Frame.Swapped

end Closing

/-- That two readings are the same but for what was made of one token and noticed in it. -/
structure State.SameButFor (made made' : Noticing Node) (state state' : State) : Prop where
  reading : Parser.SameButFor made.1 made'.1 state.children state.stack state'.children state'.stack
  skip : state.skip = state'.skip
  names : state.blockNames = state'.blockNames
  errors : ∃ early late, state.errors = early ++ (made.2 ++ late) ∧
    state'.errors = early ++ (made'.2 ++ late)

namespace State.SameButFor

variable {made made' : Noticing Node} {state state' : State}

/-- What the readings do alike they do alike with less or more open. -/
theorem reopened (same : state.SameButFor made made' state') {stack stack' : List Frame}
    (reading : Parser.SameButFor made.1 made'.1 state.children stack state'.children stack') :
    SameButFor made made' { state with stack := stack } { state' with stack := stack' } :=
  ⟨reading, same.skip, same.names, same.errors⟩

theorem notice (same : state.SameButFor made made' state') (problems : List ParseError) :
    (state.notice problems).SameButFor made made' (state'.notice problems) := by
  rcases same with ⟨reading, skip, names, early, late, errors, errors'⟩
  refine ⟨reading, skip, names, early, late ++ problems, ?_, ?_⟩
  · simp only [State.notice, errors, List.append_assoc]
  · simp only [State.notice, errors', List.append_assoc]

theorem attach (same : state.SameButFor made made' state') (node : Noticing Node) :
    (state.attach node).SameButFor made made' (state'.attach node) := by
  have noticed := same.notice node.2
  exact ⟨same.reading.attachTo node.1, noticed.skip, noticed.names, noticed.errors⟩

/-- One reading adds a node, and the other one the same with another node inside. -/
theorem attach_swapped (same : state.SameButFor made made' state')
    (children : state.children = state'.children) (stack : state.stack = state'.stack)
    {node node' : Noticing Node} (problems : node.2 = node'.2)
    (swapped : Swapped made.1 made'.1 [node.1] [node'.1])
    (ends : node.1.span.stop = node'.1.span.stop) :
    (state.attach node).SameButFor made made' (state'.attach node') := by
  have noticed := same.notice node.2
  have reading := sameButFor_attachTo state.children state.stack swapped ends
  refine ⟨?_, noticed.skip, noticed.names, ?_⟩
  · simp only [State.attach, ← children, ← stack]
    exact reading
  · simp only [State.attach, ← problems]
    exact noticed.errors

theorem recorded (same : state.SameButFor made made' state') (names : List String) :
    SameButFor made made' { state with blockNames := names }
      { state' with blockNames := names } :=
  ⟨same.reading, same.skip, rfl, same.errors⟩

theorem push (same : state.SameButFor made made' state') (frame : Frame) :
    (state.push frame).SameButFor made made' (state'.push frame) :=
  same.reopened (.outside frame same.reading)

theorem openChoice (same : state.SameButFor made made' state') (head : Statement) :
    (state.openChoice head).SameButFor made made' (state'.openChoice head) :=
  (same.push _).notice _

theorem openSkip (same : state.SameButFor made made' state') (head : Statement) :
    (state.openSkip head).SameButFor made made' (state'.openSkip head) := by
  have noticed := same.notice [⟨.blocksTooDeep maxDepth, head.span⟩]
  exact ⟨noticed.reading, rfl, noticed.names, noticed.errors⟩

theorem closeSkip (same : state.SameButFor made made' state') (skip : Skip) :
    (state.closeSkip skip).SameButFor made made' (state'.closeSkip skip) := by
  have left : SameButFor made made' { state with skip := none } { state' with skip := none } :=
    ⟨same.reading, rfl, same.names, same.errors⟩
  exact left.attach _

/-- Where the innermost construct is closed the node may be dropped with it. -/
theorem close (same : state.SameButFor made made' state') (closing : Option Statement)
    (stop : Position) :
    (state.close closing stop).SameButFor made made' (state'.close closing stop) := by
  rcases state with ⟨children, stack, skip, errors, names⟩
  rcases state' with ⟨children', stack', skip', errors', names'⟩
  rcases same with ⟨reading, skips, recorded, noticed⟩
  dsimp only at reading skips recorded noticed
  subst skips recorded
  cases reading with
  | nothing => exact ⟨.nothing, rfl, rfl, noticed⟩
  | finished swapped => exact ⟨.finished swapped, rfl, rfl, noticed⟩
  | @innermost frame frame' outer swapped =>
      have left : SameButFor made made' ⟨children, outer, skip, errors, names⟩
          ⟨children, outer, skip, errors', names⟩ := ⟨.refl children outer, rfl, rfl, noticed⟩
      have closes := left.notice (frame.closingProblems closing)
      rw [close_cons rfl, close_cons rfl, ← swapped.closingProblems_eq, ← swapped.recorded_eq]
      refine recorded ?_ _
      rcases swapped.closedNode names stop with ⟨problems, dropped | ⟨inside, ends⟩⟩
      · rw [← Prod.ext dropped problems]
        exact closes.attach _
      · exact closes.attach_swapped rfl rfl problems inside ends
  | @outside _ outer outer' frame around =>
      have left : SameButFor made made' ⟨children, outer, skip, errors, names⟩
          ⟨children', outer', skip, errors', names⟩ := ⟨around, rfl, rfl, noticed⟩
      rw [close_cons rfl, close_cons rfl]
      exact ((left.notice (frame.closingProblems closing)).attach _).recorded _

theorem takeOther (same : state.SameButFor made made' state') (head : Statement) :
    (state.takeOther head).SameButFor made made' (state'.takeOther head) := by
  have opening {opened opened' : State} (opens : opened.SameButFor made made' opened') :
      (if maxDepth ≤ state.stack.length then state.openSkip head else opened).SameButFor made made'
        (if maxDepth ≤ state.stack.length then state'.openSkip head else opened') := by
    split
    · exact same.openSkip head
    · exact opens
  simp only [State.takeOther, ← same.reading.length_eq]
  split
  · exact opening (same.openChoice head)
  · split
    · exact opening (same.push _)
    · split
      · exact opening (same.push _)
      · split
        · exact same.attach _
        · split
          · exact same.attach _
          · split <;> exact same.attach _

section Branches

variable (same : state.SameButFor made made' state') {first : Statement} {condition : Expr}
  {body body' : List Node} {outer outer' : List Frame} (head : Statement)

include same

/-- A further condition opens one more construct, and the choice waits for it. -/
theorem takeElif (waiting : Parser.SameButFor made.1 made'.1
      state.children (.continued first condition body :: outer)
      state'.children (.continued first condition body' :: outer')) :
    (state.takeElif head first condition body outer).SameButFor made made'
      (state'.takeElif head first condition body' outer') := by
  have continued := same.reopened waiting
  simp only [State.takeElif, ← same.reading.length_eq]
  split
  · exact continued.openSkip head
  · exact continued.openChoice head

theorem takeElse (turned : Parser.SameButFor made.1 made'.1
      state.children (.otherwise first condition body [] :: outer)
      state'.children (.otherwise first condition body' [] :: outer')) :
    (state.takeElse head first condition body outer).SameButFor made made'
      (state'.takeElse head first condition body' outer') :=
  (same.reopened turned).notice _

/-- What a tag does where one keyword alone is different from all others. -/
theorem closing (keyword : String) :
    SameButFor made made'
      (if head.keyword = keyword then state.close (some head) head.token.stop
        else state.takeOther head)
      (if head.keyword = keyword then state'.close (some head) head.token.stop
        else state'.takeOther head) := by
  split
  · exact same.close _ _
  · exact same.takeOther head

/-- What a tag does where the first branch of a choice is being read. -/
theorem choosing (waiting : Parser.SameButFor made.1 made'.1
      state.children (.continued first condition body :: outer)
      state'.children (.continued first condition body' :: outer'))
    (turned : Parser.SameButFor made.1 made'.1
      state.children (.otherwise first condition body [] :: outer)
      state'.children (.otherwise first condition body' [] :: outer')) :
    SameButFor made made'
      (if head.keyword = "elif" then state.takeElif head first condition body outer
        else if head.keyword = "else" then state.takeElse head first condition body outer
        else if head.keyword = "endif" then state.close (some head) head.token.stop
        else state.takeOther head)
      (if head.keyword = "elif" then state'.takeElif head first condition body' outer'
        else if head.keyword = "else" then state'.takeElse head first condition body' outer'
        else if head.keyword = "endif" then state'.close (some head) head.token.stop
        else state'.takeOther head) := by
  split
  · exact same.takeElif head waiting
  · split
    · exact same.takeElse head turned
    · exact same.closing head "endif"

end Branches

theorem takeStatement (same : state.SameButFor made made' state') (head : Statement) :
    (state.takeStatement head).SameButFor made made' (state'.takeStatement head) := by
  have reading := same.reading
  rcases state with ⟨children, stack, skip, errors, names⟩
  rcases state' with ⟨children', stack', skip', errors', names'⟩
  dsimp only at reading
  rw [takeStatement_eq_match, takeStatement_eq_match]
  cases reading with
  | nothing | finished _ => exact same.takeOther head
  | innermost swapped =>
      cases swapped with
      | choice inside =>
          exact same.choosing head (.innermost (.continued inside)) (.innermost (.first inside))
      | first _ | second _ => exact same.closing head "endif"
      | continued _ => exact same.takeOther head
      | loop _ => exact same.closing head "endfor"
      | block _ => exact same.closing head "endblock"
  | outside frame around =>
      cases frame with
      | choice first condition body =>
          exact same.choosing head (.outside _ around) (.outside _ around)
      | otherwise _ _ _ _ => exact same.closing head "endif"
      | continued _ _ _ => exact same.takeOther head
      | loop _ _ => exact same.closing head "endfor"
      | block _ _ => exact same.closing head "endblock"

/-- A token does the same in both readings. -/
theorem take (same : state.SameButFor made made' state') (token : Token) :
    (state.take token).SameButFor made made' (state'.take token) := by
  cases skipping : state.skip with
  | some skip =>
      rw [take_skipping skipping, take_skipping (same.skip ▸ skipping)]
      split
      · exact same.closeSkip _
      · exact ⟨same.reading, rfl, same.names, same.errors⟩
  | none =>
      have reading : state'.skip = none := same.skip ▸ skipping
      unfold State.take
      rw [skipping, reading]
      dsimp only
      split
      · exact same.attach _
      · exact same
      · exact same.attach _
      · exact same.takeStatement _

theorem foldl (same : state.SameButFor made made' state') (tokens : List Token) :
    (tokens.foldl State.take state).SameButFor made made' (tokens.foldl State.take state') := by
  induction tokens generalizing state state' with
  | nil => exact same
  | cons token rest ih => exact ih (same.take token)

theorem finishSkip (same : state.SameButFor made made' state') :
    state.finishSkip.SameButFor made made' state'.finishSkip := by
  unfold State.finishSkip
  rw [← same.skip]
  split
  · exact same.closeSkip _
  · exact same

theorem finish (same : state.SameButFor made made' state') (stop : Position) (fuel : Nat) :
    (State.finish stop fuel state).SameButFor made made' (State.finish stop fuel state') := by
  induction fuel generalizing state state' with
  | zero => exact same
  | succ fuel ih =>
      rw [State.finish, State.finish, ← same.reading.isEmpty_eq]
      split
      · exact same
      · exact ih (same.close none stop)

end State.SameButFor

section Leaf

variable {token other : Token} {state : State}

/-- Two leaves at the same place do the same where they are passed over; otherwise each adds its
node and its problems. -/
theorem take_leaves (leaf : token.isLeaf = true) (otherLeaf : other.isLeaf = true)
    (region : token.span = other.span) (state : State) :
    state.take token = state.take other ∨
      (state.take token).SameButFor (leafNode token) (leafNode other) (state.take other) := by
  have ends : token.stop = other.stop := congrArg Span.stop region
  cases skipping : state.skip with
  | some skip =>
      rw [take_skipping skipping, take_skipping skipping, skipDepth_of_isLeaf leaf,
        skipDepth_of_isLeaf otherLeaf, ends]
      exact .inl rfl
  | none =>
      rw [take_of_isLeaf leaf skipping, take_of_isLeaf otherLeaf skipping]
      have stops : (leafNode token).1.span.stop = (leafNode other).1.span.stop := by
        rw [span_leafNode, span_leafNode, region]
      refine .inr ⟨sameButFor_attachTo state.children state.stack .alone stops, rfl, rfl,
        state.errors, [], ?_, ?_⟩
      · rw [List.append_nil]
        rfl
      · rw [List.append_nil]
        rfl

/-- The region of tokens depends on their regions alone. -/
theorem spanOf_congr {tokens tokens' : List Token}
    (regions : tokens.map Token.span = tokens'.map Token.span) :
    spanOf tokens = spanOf tokens' := by
  have ends (tokens : List Token) : spanOf tokens =
      ((tokens.map Token.span).head?.bind fun first =>
        (tokens.map Token.span).getLast?.map fun last =>
          Span.mk first.start last.stop).getD Span.empty := by
    rw [List.head?_map, List.getLast?_map, spanOf]
    cases tokens.head? <;> cases tokens.getLast? <;> rfl
  rw [ends, ends, regions]

/-- Two readings of tokens that differ in a leaf are the same altogether or but for the leaf. -/
theorem parse_leaves (leaf : token.isLeaf = true) (otherLeaf : other.isLeaf = true)
    (region : token.span = other.span) (before behind : List Token) :
    parse (before ++ token :: behind) = parse (before ++ other :: behind) ∨
      ∃ state state' : State, state.SameButFor (leafNode token) (leafNode other) state' ∧
        parse (before ++ token :: behind) =
          ⟨⟨state.children, spanOf (before ++ token :: behind)⟩, state.errors⟩ ∧
        parse (before ++ other :: behind) =
          ⟨⟨state'.children, spanOf (before ++ token :: behind)⟩, state'.errors⟩ := by
  have spans : spanOf (before ++ other :: behind) = spanOf (before ++ token :: behind) :=
    spanOf_congr (by simp only [List.map_append, List.map_cons, region])
  unfold parse
  rw [spans, List.foldl_append, List.foldl_append, List.foldl_cons, List.foldl_cons]
  rcases take_leaves leaf otherLeaf region (before.foldl State.take {}) with same | apart
  · rw [same]
    exact .inl rfl
  · have read := (apart.foldl behind).finishSkip
    dsimp only
    rw [← read.reading.length_eq]
    exact .inr ⟨_, _, read.finish _ _, rfl, rfl⟩

end Leaf

end Template.Parser

open Template.Parser

/-- A leaf damages only itself. Where tokens differ in a leaf alone, the trees are the same but for
the node of the leaf, or altogether where a construct around it is passed over or drops its nodes.
The same problems are noticed before the leaf and behind it. So if the bodies of both lie in their
region, as those of the tokens of a text do, the problems are the same that do not lie there. -/
theorem leaf_tags_contained {token other : Token} (leaf : token.isLeaf = true)
    (otherLeaf : other.isLeaf = true) (region : token.span = other.span)
    (before behind : List Token) :
    let one := parse (before ++ token :: behind)
    let two := parse (before ++ other :: behind)
    (one = two ∨
      one.template.span = two.template.span ∧
        (one.template.children = two.template.children ∨
          Node.Swapped (leafNode token).1 (leafNode other).1
            one.template.children two.template.children) ∧
        ∃ early late, one.errors = early ++ ((leafNode token).2 ++ late) ∧
          two.errors = early ++ ((leafNode other).2 ++ late)) ∧
    (token.HoldsBody → other.HoldsBody →
      one.errors.filter (fun error => ¬error.span.Within token.span) =
        two.errors.filter fun error => ¬error.span.Within token.span) := by
  intro one two
  rcases parse_leaves leaf otherLeaf region before behind with same | ⟨_, _, apart, read, read'⟩
  · have equal : one = two := same
    rw [equal]
    exact ⟨.inl rfl, fun _ _ => rfl⟩
  · have first : one = _ := read
    have second : two = _ := read'
    rcases apart.errors with ⟨early, late, errors, errors'⟩
    rw [first, second]
    refine ⟨.inr ⟨rfl, apart.reading.eq_or_swapped, early, late, errors, errors'⟩, ?_⟩
    intro holds otherHolds
    have own : (leafNode token).2.filter (fun error => ¬error.span.Within token.span) = [] := by
      rw [List.filter_eq_nil_iff]
      intro error member
      simpa using within_leafNode holds error member
    have others : (leafNode other).2.filter (fun error => ¬error.span.Within token.span) = [] := by
      rw [List.filter_eq_nil_iff, region]
      intro error member
      simpa using within_leafNode otherHolds error member
    dsimp only
    rw [errors, errors', List.filter_append, List.filter_append, List.filter_append,
      List.filter_append, own, others]

/-- The beginning of a choice. -/
def openTag : Token :=
  ⟨some .statement, "\x7b% if a %\x7d", " if a ", 0, ⟨1, 2⟩, ⟨1, 0⟩, ⟨1, 10⟩⟩

/-- An expression inside of it. -/
def soundTag : Token :=
  ⟨some .expression, "\x7b\x7b b \x7d\x7d", " b ", 10, ⟨1, 12⟩, ⟨1, 10⟩, ⟨1, 17⟩⟩

/-- None in its place. -/
def brokenTag : Token :=
  ⟨some .expression, "\x7b\x7b * \x7d\x7d", " * ", 10, ⟨1, 12⟩, ⟨1, 10⟩, ⟨1, 17⟩⟩

/-- In a choice that is never closed a broken expression adds one problem of its own. -/
theorem leaf_tags_contained_unclosed :
    tokenize {} "\x7b% if a %\x7d\x7b\x7b b \x7d\x7d" = .ok [openTag, soundTag] ∧
      tokenize {} "\x7b% if a %\x7d\x7b\x7b * \x7d\x7d" = .ok [openTag, brokenTag] ∧
      (parse [openTag, brokenTag]).errors.length = 2 ∧
      (parse [openTag, soundTag]).errors.filter
          (fun error => ¬error.span.Within soundTag.span) =
        (parse [openTag, brokenTag]).errors.filter
          fun error => ¬error.span.Within soundTag.span := by
  have sound : tokenize {} "\x7b% if a %\x7d\x7b\x7b b \x7d\x7d" = .ok [openTag, soundTag] := by
    decide +kernel
  have broken : tokenize {} "\x7b% if a %\x7d\x7b\x7b * \x7d\x7d" = .ok [openTag, brokenTag] := by
    decide +kernel
  have contained := leaf_tags_contained (by decide +kernel : soundTag.isLeaf = true)
    (by decide +kernel : brokenTag.isLeaf = true) rfl [openTag] []
  refine ⟨sound, broken, by decide +kernel, contained.2 ?_ ?_⟩
  · exact holdsBody_of_tokenize sound soundTag (by simp)
  · exact holdsBody_of_tokenize broken brokenTag (by simp)

end Stencil
