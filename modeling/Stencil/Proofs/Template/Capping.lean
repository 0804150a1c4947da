import Stencil.Proofs.Template.Levels
import Stencil.Proofs.Template.Moves
/-!
# Constructs that nest too deeply are cut off

Where tokens would be a template without problems if constructs might nest without limit, the
template with the limit is that template with every construct cut off that reaches below the limit
first. To see so, the tokens are taken twice, without the limit and with it. `Capped` relates the
two: as long as no more constructs are open than there may be, what is open and finished with the
limit is what is without it, cut off; below, it is so for the outermost constructs, and the tag that
is remembered is the one that opened the next. What is counted while a block is passed over is how
many constructs will be closed by tags of their own: a choice with further conditions is one.
-/

namespace Stencil

namespace Node

/-- What stands for a construct that is passed over. -/
def passedOver (extent : Extent) : Node :=
  .malformed extent (Problem.blocksTooDeep Template.maxDepth).message

mutual

/-- A node with every construct passed over that has some number of others around it inside of the
node. -/
def cut : Nat → Node → Node
  | 0, choice extent _ _ _ | 0, loop extent _ _ _ | 0, block extent _ _ => passedOver extent
  | room + 1, choice extent condition body none => choice extent condition (cutAll room body) none
  | room + 1, choice extent condition body (some otherwise) =>
    choice extent condition (cutAll room body) (some (cutAll room otherwise))
  | room + 1, loop extent iterator iterable body =>
    loop extent iterator iterable (cutAll room body)
  | room + 1, block extent name body => block extent name (cutAll room body)
  | _, text extent content => text extent content
  | _, assignment extent name value => assignment extent name value
  | _, output extent value => output extent value
  | _, malformed extent message => malformed extent message

def cutAll : Nat → List Node → List Node
  | _, [] => []
  | room, node :: rest => cut room node :: cutAll room rest

end

mutual

/-- The constructs that are passed over then, in source order. -/
def tooDeep : Nat → Node → List Node
  | 0, choice extent condition body otherwise => [choice extent condition body otherwise]
  | 0, loop extent iterator iterable body => [loop extent iterator iterable body]
  | 0, block extent name body => [block extent name body]
  | room + 1, choice _ _ body none => tooDeepAll room body
  | room + 1, choice _ _ body (some otherwise) =>
    tooDeepAll room body ++ tooDeepAll room otherwise
  | room + 1, loop _ _ _ body | room + 1, block _ _ body => tooDeepAll room body
  | _, text _ _ | _, assignment _ _ _ | _, output _ _ | _, malformed _ _ => []

def tooDeepAll : Nat → List Node → List Node
  | _, [] => []
  | room, node :: rest => tooDeep room node ++ tooDeepAll room rest

end

variable {room : Nat} {node : Node} {nodes more : List Node}

theorem cutAll_append (room : Nat) (nodes more : List Node) :
    cutAll room (nodes ++ more) = cutAll room nodes ++ cutAll room more := by
  induction nodes with
  | nil => rfl
  | cons node rest ih => rw [List.cons_append, cutAll, cutAll, ih, List.cons_append]

theorem tooDeepAll_append (room : Nat) (nodes more : List Node) :
    tooDeepAll room (nodes ++ more) = tooDeepAll room nodes ++ tooDeepAll room more := by
  induction nodes with
  | nil => rfl
  | cons node rest ih => rw [List.cons_append, tooDeepAll, tooDeepAll, ih, List.append_assoc]

theorem cutAll_concat (room : Nat) (nodes : List Node) (node : Node) :
    cutAll room (nodes ++ [node]) = cutAll room nodes ++ [cut room node] :=
  cutAll_append room nodes [node]

theorem tooDeepAll_concat (room : Nat) (nodes : List Node) (node : Node) :
    tooDeepAll room (nodes ++ [node]) = tooDeepAll room nodes ++ tooDeep room node := by
  rw [tooDeepAll_append, tooDeepAll, tooDeepAll, List.append_nil]

/-- A node that is cut stands where it stood. -/
theorem extent_cut (room : Nat) (node : Node) : (node.cut room).extent = node.extent := by
  cases node with
  | choice extent condition body otherwise => cases otherwise <;> cases room <;> rfl
  | _ => cases room <;> rfl

theorem cut_of_flat (flat : node.isConstruct = false) : node.cut room = node := by
  cases node with
  | choice | loop | block => cases flat
  | _ => cases room <;> rfl

theorem tooDeep_of_flat (flat : node.isConstruct = false) : node.tooDeep room = [] := by
  cases node with
  | choice | loop | block => cases flat
  | _ => cases room <;> rfl

theorem cut_zero (construct : node.isConstruct = true) : node.cut 0 = passedOver node.extent := by
  cases node with
  | choice extent condition body otherwise => cases otherwise <;> rfl
  | loop | block => rfl
  | _ => cases construct

theorem tooDeep_zero (construct : node.isConstruct = true) : node.tooDeep 0 = [node] := by
  cases node with
  | choice extent condition body otherwise => cases otherwise <;> rfl
  | loop | block => rfl
  | _ => cases construct

end Node

namespace Template.Parser

open Node

variable {whole state after : State} {token : Token} {head : Statement} {frame : Frame}
  {outer upper kept : List Frame} {node : Node} {stop : Position}

/-- Open constructs, cut off where they are as deep as they stand. -/
def cutStack : List Frame → List Frame
  | [] => []
  | frame :: outer => frame.mapped (cutAll (maxDepth - (outer.length + 1))) :: cutStack outer

/-- The constructs that are passed over then, in source order. -/
def tooDeepStack : List Frame → List Node
  | [] => []
  | frame :: outer =>
    tooDeepStack outer ++ tooDeepAll (maxDepth - (outer.length + 1)) frame.nodes

theorem length_cutStack (stack : List Frame) : (cutStack stack).length = stack.length := by
  induction stack with
  | nil => rfl
  | cons frame outer ih => rw [cutStack, List.length_cons, List.length_cons, ih]

theorem room_succ (room : outer.length < maxDepth) :
    maxDepth - outer.length = (maxDepth - (outer.length + 1)) + 1 := by
  omega

/-- Whether a node is cut off before or after it is added makes no difference. -/
theorem attachTo_cut (children : List Node) (node : Node) {stack : List Frame}
    (fits : stack.length ≤ maxDepth) :
    State.attachTo (cutAll maxDepth children) (node.cut (maxDepth - stack.length))
        (cutStack stack) =
      (cutAll maxDepth (State.attachTo children node stack).1,
        cutStack (State.attachTo children node stack).2) := by
  induction stack generalizing node with
  | nil => simp [State.attachTo, cutStack, cutAll_concat]
  | cons frame outer ih =>
      rw [List.length_cons] at fits ⊢
      cases frame with
      | continued head condition body =>
          have whole := ih (.choice (head.extentTo node.span.stop) condition body (some [node]))
            (Nat.le_of_succ_le fits)
          rw [room_succ fits] at whole
          simpa only [cutStack, Frame.mapped, State.attachTo, Node.cut, cutAll, Node.span,
            extent_cut] using whole
      | _ => simp [State.attachTo, cutStack, Frame.mapped, cutAll_concat]

/-- The constructs that are passed over in a node come last when it is added. -/
theorem tooDeep_attachTo (children : List Node) (node : Node) {stack : List Frame}
    (fits : stack.length ≤ maxDepth) :
    tooDeepAll maxDepth (State.attachTo children node stack).1 ++
        tooDeepStack (State.attachTo children node stack).2 =
      tooDeepAll maxDepth children ++
        (tooDeepStack stack ++ node.tooDeep (maxDepth - stack.length)) := by
  induction stack generalizing node with
  | nil => simp [State.attachTo, tooDeepStack, tooDeepAll_concat]
  | cons frame outer ih =>
      rw [List.length_cons] at fits ⊢
      cases frame with
      | continued head condition body =>
          have whole := ih (.choice (head.extentTo node.span.stop) condition body (some [node]))
            (Nat.le_of_succ_le fits)
          rw [room_succ fits] at whole
          simpa [tooDeepStack, State.attachTo, Node.tooDeep, tooDeepAll, Frame.nodes] using whole
      | otherwise head condition body others =>
          simp [State.attachTo, tooDeepStack, Frame.nodes, tooDeepAll_append, tooDeepAll]
      | _ => simp [State.attachTo, tooDeepStack, Frame.nodes, tooDeepAll_concat]

section Upper

/-! What is open deeper than is kept. Each construct that is no continued choice there is closed by
a tag of its own. -/

/-- How many constructs will be closed by tags of their own. -/
def active (stack : List Frame) : Nat := stack.countP fun frame => !frame.isContinued

theorem active_cons_of_active {frame : Frame} (own : frame.isContinued = false)
    (stack : List Frame) : active (frame :: stack) = active stack + 1 := by
  simp [active, own]

/-- As long as one is left, a finished node stays inside of what is open deeper. -/
theorem attachTo_active (children : List Node) (node : Node) (kept : List Frame)
    (some : 0 < active upper) : ∃ grown,
      State.attachTo children node (upper ++ kept) = (children, grown ++ kept) ∧
        active grown = active upper ∧
          (grown.map Frame.opening).getLast? = (upper.map Frame.opening).getLast? := by
  induction upper generalizing node with
  | nil => cases some
  | cons frame rest ih =>
      cases frame with
      | continued head condition body =>
          have left : active (.continued head condition body :: rest) = active rest := rfl
          rw [left] at some ⊢
          rcases ih (.choice (head.extentTo node.span.stop) condition body (Option.some [node]))
            some with ⟨grown, added, same, last⟩
          refine ⟨grown, added, same, ?_⟩
          cases rest with
          | nil => cases some
          | cons next others =>
              rw [last]
              rfl
      | _ => exact ⟨_ :: rest, rfl, rfl, rfl⟩

/-- The last of them to be closed finishes all choices that it continues. What is added to what is
kept begins with the tag that opened the first of them. -/
theorem attachTo_continued (children : List Node) (kept : List Frame) {first : Statement}
    (none : active upper = 0) (construct : node.isConstruct = true)
    (extent : node.extent = head.extentTo stop)
    (last : (head :: upper.map Frame.opening).getLast? = some first) :
    ∃ around, State.attachTo children node (upper ++ kept) = State.attachTo children around kept ∧
      around.isConstruct = true ∧ around.extent = first.extentTo stop := by
  induction upper generalizing head node with
  | nil =>
      cases last
      exact ⟨node, rfl, construct, extent⟩
  | cons frame rest ih =>
      cases frame with
      | continued opened condition body =>
          have left : active rest = 0 := none
          have ends : node.span.stop = stop := by
            rw [Node.span, extent]
            rfl
          rw [List.map_cons, List.getLast?_cons_cons] at last
          have around : (Node.choice (opened.extentTo node.span.stop) condition body
              (some [node])).extent = opened.extentTo stop := congrArg opened.extentTo ends
          exact ih left rfl around last
      | _ =>
          rw [active_cons_of_active rfl] at none
          cases none

end Upper

section Skipping

variable {skip : Skip} {keyword : String} {depth : Nat}

theorem skipDepth_opening (opens : (Statement.ofToken token).Says keyword)
    (opening : keyword ∈ ["if", "for", "block"]) : skipDepth depth token = depth + 1 := by
  have tag : token.tag? = some .statement := opens.tag
  rw [skipDepth, if_neg (not_not_intro tag), opens.word, if_pos (List.contains_iff_mem.mpr opening)]

theorem skipDepth_closing (closes : (Statement.ofToken token).Says keyword)
    (closing : keyword ∈ ["endif", "endfor", "endblock"]) : skipDepth depth token = depth - 1 := by
  have tag : token.tag? = some .statement := closes.tag
  have apart : ∀ word ∈ ["endif", "endfor", "endblock"],
      ¬["if", "for", "block"].contains word = true := by decide
  rw [skipDepth, if_neg (not_not_intro tag), closes.word, if_neg (apart keyword closing),
    if_pos (List.contains_iff_mem.mpr closing)]

theorem skipDepth_inside (inside : (Statement.ofToken token).Says keyword)
    (other : keyword ∈ ["elif", "else", "set"]) : skipDepth depth token = depth := by
  have tag : token.tag? = some .statement := inside.tag
  have apart : ∀ word ∈ ["elif", "else", "set"], ¬["if", "for", "block"].contains word = true ∧
      ¬["endif", "endfor", "endblock"].contains word = true := by decide
  rw [skipDepth, if_neg (not_not_intro tag), inside.word, if_neg (apart keyword other).1,
    if_neg (apart keyword other).2]

theorem skipDepth_plain (plain : token.tag? ≠ some .statement) : skipDepth depth token = depth := by
  rw [skipDepth, if_pos plain]

theorem skipDepth_leaf (leaf : Leaf token node) : skipDepth depth token = depth := by
  rcases leaf.plain_or_set with plain | opens
  · exact skipDepth_plain plain
  · exact skipDepth_inside opens (by decide)

theorem skipDepth_opens (opening : Opening (Statement.ofToken token) frame) :
    skipDepth depth token = depth + 1 := by
  rcases opening.says with ⟨keyword, member, opens⟩
  exact skipDepth_opening opens member

end Skipping

/-- What a problem says, and where the construct begins that it is about. -/
def told (error : ParseError) : Problem × Position := (error.problem, error.span.start)

/-- What is to be told of a construct that is passed over. -/
def reported (node : Node) : Problem × Position := (.blocksTooDeep maxDepth, node.span.start)

/-- That a state is what is finished and open without the limit, cut off: what is told of it is what
is to be told of the constructs that are passed over, and perhaps more. -/
structure CutTo (children : List Node) (kept : List Frame) (names : List String)
    (more : List (Problem × Position)) (state : State) : Prop where
  finished : state.children = cutAll maxDepth children
  stack : state.stack = cutStack kept
  names : state.blockNames ⊆ names
  errors : state.errors.map told =
    (tooDeepAll maxDepth children ++ tooDeepStack kept).map reported ++ more

/-- How a run with the limit goes along with a run without it. -/
inductive Capped (whole state : State) : Prop where
  | within (fits : whole.stack.length ≤ maxDepth) (noSkip : state.skip = none)
      (cut : CutTo whole.children whole.stack whole.blockNames [] state)
  | beyond {kept : List Frame} {first : Statement} (upper : List Frame) (stop : Position)
      (split : whole.stack = upper ++ kept) (full : kept.length = maxDepth)
      (deepest : (upper.map Frame.opening).getLast? = some first) (left : 0 < active upper)
      (skipping : state.skip = some ⟨first, active upper, stop⟩)
      (cut : CutTo whole.children kept whole.blockNames
        [(.blocksTooDeep maxDepth, first.token.start)] state)

namespace Frame

theorem Finishes.cut {room : Nat} {name? : Option String}
    (finishes : frame.Finishes stop node name?) :
    (frame.mapped (cutAll room)).Finishes stop (node.cut (room + 1)) name? := by
  cases finishes with
  | choice => exact .choice
  | otherwise => exact .otherwise
  | loop read free reads => exact .loop read free reads
  | block read => exact .block read

theorem Finishes.tooDeep {room : Nat} {name? : Option String}
    (finishes : frame.Finishes stop node name?) :
    node.tooDeep (room + 1) = tooDeepAll room frame.nodes := by
  cases finishes with
  | otherwise => rw [Node.tooDeep, Frame.nodes, tooDeepAll_append]
  | _ => rfl

theorem Finishes.construct {name? : Option String} (finishes : frame.Finishes stop node name?) :
    node.isConstruct = true ∧ node.extent = frame.opening.extentTo stop := by
  cases finishes <;> exact ⟨rfl, rfl⟩

theorem cut_of_empty {room : Nat} (nothing : frame.nodes = []) :
    frame.mapped (cutAll room) = frame := by
  cases frame with
  | otherwise head condition body others =>
      rcases List.append_eq_nil_iff.mp nothing with ⟨rfl, rfl⟩
      rfl
  | _ =>
      cases nothing
      rfl

end Frame

namespace Opening

theorem nodes (opening : Opening head frame) : frame.nodes = [] := by
  cases opening <;> rfl

theorem head_eq (opening : Opening head frame) : frame.opening = head := by
  cases opening <;> rfl

end Opening

namespace CutTo

variable {children : List Node} {names : List String} {more : List (Problem × Position)}

/-- A finished node is cut off where it is added, and told of. -/
theorem attach (cut : CutTo children kept names
      ((node.tooDeep (maxDepth - kept.length)).map reported) state)
    (fits : kept.length ≤ maxDepth) :
    CutTo (State.attachTo children node kept).1 (State.attachTo children node kept).2 names []
      (state.attach (node.cut (maxDepth - kept.length), [])) := by
  have added := attachTo_cut children node fits
  have deeper := tooDeep_attachTo children node fits
  refine ⟨?_, ?_, cut.names, ?_⟩
  · rw [State.attach, cut.finished, cut.stack, added]
  · rw [State.attach, cut.finished, cut.stack, added]
  · rw [List.append_nil, deeper, ← List.append_assoc, List.map_append, ← cut.errors]
    simp [State.attach]

/-- A node without constructs is added as it is. -/
theorem attach_flat (cut : CutTo children kept names [] state) (flat : node.isConstruct = false)
    (fits : kept.length ≤ maxDepth) :
    CutTo (State.attachTo children node kept).1 (State.attachTo children node kept).2 names []
      (state.attach (node, [])) := by
  have nothing : (node.tooDeep (maxDepth - kept.length)).map reported = [] := by
    rw [tooDeep_of_flat flat, List.map_nil]
  rw [← nothing] at cut
  have added := cut.attach fits
  rwa [cut_of_flat flat] at added

/-- The names of named parts that are passed over are not recorded. -/
theorem unnamed (cut : CutTo children kept names more state) (name? : Option String) :
    CutTo children kept (name?.toList ++ names) more state :=
  ⟨cut.finished, cut.stack, List.subset_append_of_subset_right _ cut.names, cut.errors⟩

theorem named (cut : CutTo children kept names more state) (name? : Option String) :
    CutTo children kept (name?.toList ++ names) more
      { state with blockNames := name?.toList ++ state.blockNames } :=
  ⟨cut.finished, cut.stack,
    List.append_subset.mpr ⟨List.subset_append_left _ _, (cut.unnamed name?).names⟩, cut.errors⟩

/-- What has been told inside of a construct is told of its node when it is closed. -/
theorem pop (cut : CutTo children (frame :: outer) names [] state) :
    CutTo children outer names
      ((tooDeepAll (maxDepth - (outer.length + 1)) frame.nodes).map reported)
      { state with stack := cutStack outer } := by
  refine ⟨cut.finished, rfl, cut.names, ?_⟩
  have errors := cut.errors
  rw [tooDeepStack, List.append_nil, ← List.append_assoc, List.map_append] at errors
  exact errors

theorem push (cut : CutTo children kept names [] state) (nothing : frame.nodes = []) :
    CutTo children (frame :: kept) names [] (state.push frame) := by
  refine ⟨cut.finished, ?_, cut.names, ?_⟩
  · rw [State.push, cut.stack, cutStack, Frame.cut_of_empty nothing]
  · rw [tooDeepStack, nothing, tooDeepAll, List.append_nil (tooDeepStack kept)]
    exact cut.errors

/-- A branch of a choice that is read goes on as another. -/
theorem become (cut : CutTo children (frame :: outer) names [] state) (other : Frame)
    (nodes : other.nodes = frame.nodes) :
    CutTo children (other :: outer) names []
      { state with stack := cutStack (other :: outer) } := by
  refine ⟨cut.finished, rfl, cut.names, ?_⟩
  rw [tooDeepStack, nodes]
  exact cut.errors

theorem openSkip (cut : CutTo children kept names [] state) :
    CutTo children kept names [(.blocksTooDeep maxDepth, head.token.start)]
      (state.openSkip head) := by
  refine ⟨cut.finished, cut.stack, cut.names, ?_⟩
  have errors := cut.errors
  rw [List.append_nil] at errors
  rw [← errors, State.openSkip, State.notice, List.map_append]
  rfl

end CutTo

section Steps

variable {name? : Option String}

theorem capped_leaf (capped : Capped whole state) (leaf : Leaf token node) :
    Capped (whole.attach (node, [])) (state.take token) := by
  have flat : node.isConstruct = false := by
    cases leaf <;> rfl
  cases capped with
  | within fits noSkip cut =>
      rw [take_leaf noSkip leaf]
      have shorter := length_attachTo whole.children node whole.stack
      exact .within (Nat.le_trans shorter fits) noSkip (cut.attach_flat flat fits)
  | @beyond kept first upper stop split full deepest left skipping cut =>
      rcases attachTo_active whole.children node kept left with ⟨grown, added, same, last⟩
      rw [take_skipping skipping, skipDepth_leaf leaf, if_neg (Nat.ne_of_gt left)]
      rw [← split] at added
      rw [← same] at left ⊢
      refine .beyond grown _ ?_ full (last.trans deepest) left rfl ?_
      · rw [State.attach, added]
      · rw [State.attach, added]
        exact ⟨cut.finished, cut.stack, cut.names, cut.errors⟩

/-- A construct is opened in both runs, or it is the first to be passed over. -/
theorem capped_push (whole state : State) (frame : Frame)
    (fits : whole.stack.length ≤ maxDepth) (noSkip : state.skip = none)
    (cut : CutTo whole.children whole.stack whole.blockNames [] state) (nothing : frame.nodes = [])
    (own : frame.isContinued = false) :
    Capped (whole.push frame)
      (if maxDepth ≤ state.stack.length then state.openSkip frame.opening
        else state.push frame) := by
  rw [cut.stack, length_cutStack]
  split
  · rename_i full
    have one : active [frame] = 1 := active_cons_of_active own []
    refine .beyond [frame] frame.opening.token.stop rfl
      (Nat.le_antisymm fits full) rfl ?_ ?_ cut.openSkip
    · rw [one]
      exact Nat.one_pos
    · rw [one]
      rfl
  · rename_i room
    exact .within (Nat.not_le.mp room) noSkip (cut.push nothing)

theorem capped_opens (capped : Capped whole state)
    (opening : Opening (Statement.ofToken token) frame) :
    Capped (whole.push frame) (state.take token) := by
  cases capped with
  | within fits noSkip cut =>
      rw [take_opens noSkip opening, ← opening.head_eq]
      exact capped_push whole state frame fits noSkip cut opening.nodes opening.own
  | @beyond kept first upper stop split full deepest left skipping cut =>
      have more : active (frame :: upper) = active upper + 1 :=
        active_cons_of_active opening.own upper
      rw [take_skipping skipping, skipDepth_opens opening, if_neg (Nat.succ_ne_zero _), ← more]
      refine .beyond (frame :: upper) _ ?_ full ?_ ?_ rfl
        ⟨cut.finished, cut.stack, cut.names, cut.errors⟩
      · rw [State.push, split, List.cons_append]
      · rw [List.map_cons, List.getLast?_cons, deepest]
        rfl
      · rw [more]
        exact Nat.succ_pos _

/-- What is open deeper than is kept has the innermost construct first. -/
theorem split_upper {top : Frame} (split : whole.stack = upper ++ kept)
    (stack : whole.stack = top :: outer) (left : 0 < active upper) :
    ∃ rest, upper = top :: rest ∧ outer = rest ++ kept := by
  cases upper with
  | nil => cases left
  | cons frame rest =>
      rw [stack, List.cons_append] at split
      rcases List.cons.inj split with ⟨rfl, same⟩
      exact ⟨rest, rfl, same⟩

variable {condition next : Expr} {body : List Node}

theorem capped_further (capped : Capped whole state)
    (continues : (Statement.ofToken token).Says "elif")
    (stack : whole.stack = .choice head condition body :: outer)
    (reads : requiredExpression (Statement.ofToken token) (Statement.ofToken token).rest =
      (next, [])) :
    Capped ({ whole with stack := .continued head condition body :: outer }.push
      (.choice (Statement.ofToken token) next [])) (state.take token) := by
  cases capped with
  | within fits noSkip cut =>
      rw [stack] at cut fits
      have top : state.stack = .choice head condition
          (cutAll (maxDepth - (outer.length + 1)) body) :: cutStack outer := cut.stack
      have waiting := cut.become (.continued head condition body) rfl
      rw [take_further noSkip continues top reads, top]
      exact capped_push { whole with stack := .continued head condition body :: outer }
        { state with stack := cutStack (.continued head condition body :: outer) }
        (.choice (Statement.ofToken token) next []) fits noSkip waiting rfl rfl
  | @beyond kept first upper stop split full deepest left skipping cut =>
      rcases split_upper split stack left with ⟨rest, rfl, rfl⟩
      rw [take_skipping skipping, skipDepth_inside continues (by decide),
        if_neg (Nat.ne_of_gt left)]
      -- The choice that goes on takes the place of the one that waits for it.
      refine .beyond (.choice (Statement.ofToken token) next [] ::
        .continued head condition body :: rest) _ rfl full ?_ left rfl
          ⟨cut.finished, cut.stack, cut.names, cut.errors⟩
      rw [List.map_cons, List.map_cons, List.getLast?_cons_cons]
      exact deepest

theorem capped_middle (capped : Capped whole state)
    (continues : (Statement.ofToken token).Says "else") (bare : (Statement.ofToken token).Bare)
    (stack : whole.stack = .choice head condition body :: outer) :
    Capped { whole with stack := .otherwise head condition body [] :: outer }
      (state.take token) := by
  cases capped with
  | within fits noSkip cut =>
      rw [stack] at cut fits
      have top : state.stack = .choice head condition
          (cutAll (maxDepth - (outer.length + 1)) body) :: cutStack outer := cut.stack
      rw [take_middle noSkip continues bare top]
      exact .within fits noSkip
        (cut.become (.otherwise head condition body []) (List.append_nil body))
  | @beyond kept first upper stop split full deepest left skipping cut =>
      rcases split_upper split stack left with ⟨rest, rfl, rfl⟩
      rw [take_skipping skipping, skipDepth_inside continues (by decide),
        if_neg (Nat.ne_of_gt left)]
      refine .beyond (.otherwise head condition body [] :: rest) _ rfl full deepest left rfl
        ⟨cut.finished, cut.stack, cut.names, cut.errors⟩

/-- A construct is closed in both runs. -/
theorem capped_finished (fits : (frame :: outer).length ≤ maxDepth) (noSkip : state.skip = none)
    (cut : CutTo whole.children (frame :: outer) whole.blockNames [] state)
    (finishes : frame.Finishes stop node name?) :
    Capped (whole.finished outer node name? [])
      (state.finished (cutStack outer) (node.cut (maxDepth - (outer.length + 1) + 1)) name?
        []) := by
  have shorter := length_attachTo whole.children node outer
  have room : outer.length ≤ maxDepth := Nat.le_of_succ_le fits
  have told := cut.pop
  rw [← finishes.tooDeep, ← room_succ fits] at told
  rw [← room_succ fits]
  have closed := (told.attach room).named name?
  rw [State.finished, State.finished, State.notice_nil, State.notice_nil]
  exact .within (Nat.le_trans shorter room) noSkip closed

/-- A construct is closed in both runs, or it is passed over further, or it is the last of what is
passed over. -/
theorem capped_closes (capped : Capped whole state) (stack : whole.stack = frame :: outer)
    (tag : (Statement.ofToken token).Says frame.closer)
    (finishes : frame.Finishes token.stop node name?)
    (quiet : frame.closingProblems (some (Statement.ofToken token)) = [])
    (new : ∀ name ∈ name?, name ∉ whole.blockNames) :
    Capped (whole.finished outer node name? []) (state.take token) := by
  cases capped with
  | within fits noSkip cut =>
      rw [stack] at cut fits
      have newer : ∀ name ∈ name?, name ∉ state.blockNames := fun name member known =>
        new name member (cut.names known)
      have top := cut.stack
      rw [cutStack] at top
      have closed := close_of_finishes top finishes.cut newer (some (Statement.ofToken token))
      rw [take_closing noSkip top finishes.cut.active (by rwa [Frame.closer_mapped]), closed,
        Frame.closingProblems_mapped, quiet]
      exact capped_finished fits noSkip cut finishes
  | @beyond kept first upper stop split full deepest left skipping cut =>
      rcases split_upper split stack left with ⟨rest, rfl, rfl⟩
      have count : active (frame :: rest) = active rest + 1 :=
        active_cons_of_active finishes.active rest
      rw [take_skipping skipping, skipDepth_closing tag frame.closer_mem, count,
        Nat.add_sub_cancel]
      split
      · rename_i none
        rcases attachTo_continued whole.children kept none finishes.construct.1
          finishes.construct.2 deepest with ⟨around, added, construct, extent⟩
        have shorter := length_attachTo whole.children around kept
        have replaced : around.cut (maxDepth - kept.length) =
            passedOver (first.extentTo token.stop) := by
          rw [full, Nat.sub_self, cut_zero construct, extent]
        have told : (around.tooDeep (maxDepth - kept.length)).map reported =
            [(.blocksTooDeep maxDepth, first.token.start)] := by
          rw [full, Nat.sub_self, tooDeep_zero construct, List.map_singleton, reported, Node.span,
            extent]
          rfl
        rw [← told] at cut
        have freed : CutTo whole.children kept whole.blockNames
            ((around.tooDeep (maxDepth - kept.length)).map reported)
            { state with skip := Option.none } := ⟨cut.finished, cut.stack, cut.names, cut.errors⟩
        have closed := (freed.attach (Nat.le_of_eq full)).unnamed name?
        rw [replaced] at closed
        rw [State.finished, State.notice_nil, State.attach, added]
        exact .within (Nat.le_trans shorter (Nat.le_of_eq full)) rfl closed
      · rename_i more
        have some := Nat.pos_of_ne_zero more
        rcases attachTo_active whole.children node kept some with ⟨grown, added, same, last⟩
        have still : (rest.map Frame.opening).getLast? = Option.some first := by
          cases rest with
          | nil => cases some
          | cons next others =>
              rwa [List.map_cons, List.map_cons, List.getLast?_cons_cons] at deepest
        rw [State.finished, State.notice_nil, State.attach, added, ← same]
        rw [← same] at some
        exact .beyond grown _ rfl full (last.trans still) some rfl
          ⟨cut.finished, cut.stack, (cut.unnamed name?).names, cut.errors⟩

/-- The two runs keep together from one token to the next. -/
theorem capped_take (capped : Capped whole state) (move : Moves token whole after) :
    Capped after (state.take token) := by
  cases move with
  | comment tag =>
      cases capped with
      | within fits noSkip cut =>
          rw [take_comment noSkip tag]
          exact .within fits noSkip cut
      | beyond upper stop split full deepest left skipping cut =>
          have plain : token.tag? ≠ some .statement := by
            rw [tag]
            decide
          rw [take_skipping skipping, skipDepth_plain plain, if_neg (Nat.ne_of_gt left)]
          exact .beyond upper _ split full deepest left rfl
            ⟨cut.finished, cut.stack, cut.names, cut.errors⟩
  | leaf leaf => exact capped_leaf capped leaf
  | opens opening => exact capped_opens capped opening
  | further continues stack reads => exact capped_further capped continues stack reads
  | middle continues bare stack => exact capped_middle capped continues bare stack
  | closes stack tag finishes quiet new => exact capped_closes capped stack tag finishes quiet new

theorem capped_foldl {tokens : List Token} (run : Run tokens whole after)
    (capped : Capped whole state) : Capped after (tokens.foldl State.take state) := by
  induction run generalizing state with
  | nil => exact capped
  | cons move _ ih => exact ih (capped_take capped move)

end Steps

end Template.Parser

open Template Template.Parser

/-- No way through a template meets more constructs than the limit. Where the tokens would be a
template without problems if constructs might nest without limit, the template is that one with the
constructs cut off that reach below the limit first, and the problems are one for each of them, in
source order. -/
theorem parse_cuts_off (tokens : List Token) :
    (∀ node ∈ (parse tokens).template.children, ∀ way, Way Node.inner node way →
      way.countP Node.isConstruct ≤ maxDepth) ∧
    ((parseUnlimited tokens).errors = [] →
      let whole := (parseUnlimited tokens).template.children
      (parse tokens).template.children = Node.cutAll maxDepth whole ∧
        (parse tokens).errors.map (fun error => (error.problem, error.span.start)) =
          (Node.tooDeepAll maxDepth whole).map fun node =>
            (.blocksTooDeep maxDepth, node.span.start)) := by
  refine ⟨?_, ?_⟩
  · intro node member way isWay
    have count := Node.isHeight_levels.countP_le isWay
    have fit := fit_parse tokens node member
    omega
  · intro clean
    rcases run_of_parseUnlimited clean with ⟨last, run, nothing, children⟩
    have start : Capped {} {} :=
      .within (Nat.zero_le _) rfl ⟨rfl, rfl, List.Subset.refl _, rfl⟩
    have ended := capped_foldl run start
    rw [children]
    cases ended with
    | within fits noSkip cut =>
        have empty : (tokens.foldl State.take {}).stack = [] := by
          rw [cut.stack, nothing, cutStack]
        have errors := cut.errors
        rw [nothing, tooDeepStack, List.append_nil, List.append_nil] at errors
        simp only [parse, State.finishSkip, noSkip, empty, List.length_nil, State.finish]
        exact ⟨cut.finished, errors⟩
    | beyond upper stop split full deepest left skipping cut =>
        rw [nothing] at split
        rw [(List.append_eq_nil_iff.mp split.symm).1] at left
        cases left

/-- A choice with two further conditions inside of as many choices as may be around it. -/
def choiceTower : List Token :=
  List.replicate 64 (placelessTag " if a ") ++
    [placelessTag "elif b", placelessTag "elif c"] ++ List.replicate 64 (placelessTag "endif")

theorem parse_cuts_off_tower : (parseUnlimited choiceTower).errors = [] ∧
    (parse choiceTower).errors.length = 1 ∧
      (parse choiceTower).template.children =
        Node.cutAll maxDepth (parseUnlimited choiceTower).template.children := by
  have clean : (parseUnlimited choiceTower).errors = [] := by decide +kernel
  have one : (parse choiceTower).errors.length = 1 := by decide +kernel
  exact ⟨clean, one, ((parse_cuts_off choiceTower).2 clean).1⟩

end Stencil
