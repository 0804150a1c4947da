import Stencil.Proofs.Template.Headers
/-!
# Well-formed templates are built

The machine takes tokens that form nodes without noticing a problem, and adds these nodes to the
construct that is open innermost. The tokens of a whole construct open it, fill it and close it
again, so what is open around it stays as it is; when the last branch of a choice is closed, all the
choices are finished that it continues.

The names of the named parts that are finished are recorded in the order in which they end. No
problem is noticed as long as each is new.
-/

namespace Stencil.Template.Parser

open Text

/-- That no choice is open innermost whose other branch is still to come as a whole. -/
def Settled : List Frame → Prop
  | .continued _ _ _ :: _ => False
  | _ => True

namespace Frame

/-- A construct with more nodes in the branch that is being read. -/
def extended (nodes : List Node) : Frame → Frame
  | choice head condition body => choice head condition (body ++ nodes)
  | otherwise head condition body others => otherwise head condition body (others ++ nodes)
  | continued head condition body => continued head condition body
  | loop head body => loop head (body ++ nodes)
  | block head body => block head (body ++ nodes)

theorem extended_nil (frame : Frame) : frame.extended [] = frame := by
  cases frame <;> simp [extended]

theorem extended_extended (frame : Frame) (nodes more : List Node) :
    (frame.extended nodes).extended more = frame.extended (nodes ++ more) := by
  cases frame <;> simp [extended]

theorem settled_extended {frame : Frame} {nodes : List Node} {outer : List Frame}
    (settled : Settled (frame :: outer)) : Settled (frame.extended nodes :: outer) := by
  cases frame <;> trivial

end Frame

namespace State

/-- A state with more nodes in what is open innermost. -/
def grown (state : State) (nodes : List Node) : State :=
  let named := { state with
    blockNames := (Node.blockNamesAll nodes).reverse ++ state.blockNames }
  match state.stack with
  | [] => { named with children := state.children ++ nodes }
  | frame :: outer => { named with stack := frame.extended nodes :: outer }

/-- A state after a node has been finished inside of some constructs. -/
def completed (state : State) (outer : List Frame) (node : Node) : State :=
  let attached := attachTo state.children node outer
  { state with
    children := attached.1
    stack := attached.2
    blockNames := node.blockNames.reverse ++ state.blockNames }

variable {state : State} {nodes more : List Node}

theorem blockNamesAll_append (nodes more : List Node) :
    Node.blockNamesAll (nodes ++ more) =
      Node.blockNamesAll nodes ++ Node.blockNamesAll more := by
  induction nodes with
  | nil => rfl
  | cons node rest ih => simp only [List.cons_append, Node.blockNamesAll, ih, List.append_assoc]

theorem grown_nil (state : State) : state.grown [] = state := by
  unfold grown
  split
  · rename_i empty
    simp [Node.blockNamesAll]
  · rename_i frame outer stack
    simp [Node.blockNamesAll, frame.extended_nil, ← stack]

theorem grown_grown (state : State) (nodes more : List Node) :
    (state.grown nodes).grown more = state.grown (nodes ++ more) := by
  rcases state with ⟨children, stack, skip, errors, names⟩
  cases stack with
  | nil => simp [grown, blockNamesAll_append]
  | cons frame outer => simp [grown, blockNamesAll_append, Frame.extended_extended]

/-- A node that is finished goes to what is open innermost, unless it continues a choice. -/
theorem completed_eq_grown (settled : Settled state.stack) (node : Node) :
    state.completed state.stack node = state.grown [node] := by
  rcases state with ⟨children, stack, skip, errors, names⟩
  cases stack with
  | nil => simp [completed, grown, attachTo, Node.blockNamesAll]
  | cons frame outer =>
      cases frame with
      | continued head condition body => exact absurd settled id
      | _ => simp [completed, grown, attachTo, Frame.extended, Node.blockNamesAll]

theorem attach_eq_grown (settled : Settled state.stack) {node : Node}
    (unnamed : node.blockNames = []) : state.attach (node, []) = state.grown [node] := by
  rw [← completed_eq_grown settled]
  simp [attach, completed, unnamed]

theorem notice_nil (state : State) : state.notice [] = state := by
  simp [notice]

end State

/-- That some number of constructs are open and the next token is taken as it is. -/
structure Ready (state : State) (depth : Nat) : Prop where
  skip : state.skip = none
  depth : state.stack.length = depth
  settled : Settled state.stack

theorem Ready.grown {state : State} {depth : Nat} (ready : Ready state depth) (nodes : List Node) :
    Ready (state.grown nodes) depth := by
  rcases state with ⟨children, stack, skip, errors, names⟩
  rcases ready with ⟨noSkip, size, settled⟩
  cases stack with
  | nil => exact ⟨noSkip, size, settled⟩
  | cons frame outer => exact ⟨noSkip, size, Frame.settled_extended settled⟩

/-- That the names of nodes are new to a state and differ from each other. -/
def Fresh (state : State) (names : List String) : Prop :=
  (names.reverse ++ state.blockNames).Nodup

/-- That the machine makes nodes of tokens wherever some number of constructs are open. -/
def Runs (depth : Nat) (tokens : List Token) (nodes : List Node) : Prop :=
  ∀ state, Ready state depth → Fresh state (Node.blockNamesAll nodes) →
    tokens.foldl State.take state = state.grown nodes

theorem blockNames_grown (state : State) (nodes : List Node) :
    (state.grown nodes).blockNames = (Node.blockNamesAll nodes).reverse ++ state.blockNames := by
  rcases state with ⟨children, stack, skip, errors, names⟩
  cases stack <;> rfl

theorem Runs.append {depth : Nat} {tokens later : List Token} {nodes more : List Node}
    (first : Runs depth tokens nodes) (second : Runs depth later more) :
    Runs depth (tokens ++ later) (nodes ++ more) := by
  intro state ready fresh
  rw [Fresh, State.blockNamesAll_append, List.reverse_append, List.append_assoc] at fresh
  have freshFirst : Fresh state (Node.blockNamesAll nodes) := (List.nodup_append.mp fresh).2.1
  have freshSecond : Fresh (state.grown nodes) (Node.blockNamesAll more) := by
    rwa [Fresh, blockNames_grown]
  rw [List.foldl_append, first state ready freshFirst,
    second _ (ready.grown nodes) freshSecond, State.grown_grown]

section Tags

variable {state : State} {head : Statement} {condition : Expr} {body others : List Node}
  {outer : List Frame}

/-- A tag with a keyword is taken as the statement that it says. -/
theorem take_of_keyword {keyword : String} (noSkip : state.skip = none) (opens : head.Says keyword)
    (known : keyword ∈ keywords) : state.take head.token = state.takeStatement head := by
  simp only [State.take, noSkip, opens.tag, opens.ofToken known]

/-- What a statement does depends on the innermost construct first: each has few keywords of its
own. -/
theorem takeStatement_eq_match (state : State) (head : Statement) :
    state.takeStatement head =
      match state.stack with
      | .choice first condition body :: outer =>
        if head.keyword = "elif" then state.takeElif head first condition body outer
        else if head.keyword = "else" then state.takeElse head first condition body outer
        else if head.keyword = "endif" then state.close (some head) head.token.stop
        else state.takeOther head
      | .otherwise _ _ _ _ :: _ =>
        if head.keyword = "endif" then state.close (some head) head.token.stop
        else state.takeOther head
      | .loop _ _ :: _ =>
        if head.keyword = "endfor" then state.close (some head) head.token.stop
        else state.takeOther head
      | .block _ _ :: _ =>
        if head.keyword = "endblock" then state.close (some head) head.token.stop
        else state.takeOther head
      | _ => state.takeOther head := by
  unfold State.takeStatement
  dsimp only
  generalize state.stack = stack, head.keyword = keyword
  split
  · rfl
  · rfl
  · rfl
  · rfl
  · rfl
  · rfl
  · rename_i noElif noElse noEndif noClosing noEndfor noEndblock
    split
    · rw [if_neg fun same => noElif _ _ _ _ same rfl, if_neg fun same => noElse _ _ _ _ same rfl,
        if_neg fun same => noEndif _ _ _ _ same rfl]
    · rw [if_neg fun same => noClosing _ _ _ _ _ same rfl]
    · rw [if_neg fun same => noEndfor _ _ _ same rfl]
    · rw [if_neg fun same => noEndblock _ _ _ same rfl]
    · rfl

/-- Tags that neither continue nor close a construct are taken alike everywhere. -/
theorem takeStatement_of_notMem
    (apart : head.keyword ∉ ["elif", "else", "endif", "endfor", "endblock"]) :
    state.takeStatement head = state.takeOther head := by
  simp only [List.mem_cons, List.not_mem_nil, or_false, not_or] at apart
  rcases apart with ⟨noElif, noElse, noEndif, noEndfor, noEndblock⟩
  rw [takeStatement_eq_match]
  split
  · rw [if_neg noElif, if_neg noElse, if_neg noEndif]
  · rw [if_neg noEndif]
  · rw [if_neg noEndfor]
  · rw [if_neg noEndblock]
  · rfl

/-- Keywords that open a construct or bind a name are taken alike everywhere. -/
theorem takeStatement_other (opens : head.keyword ∈ ["if", "for", "block", "set"]) :
    state.takeStatement head = state.takeOther head := by
  have apart : ∀ word ∈ ["if", "for", "block", "set"],
      word ∉ ["elif", "else", "endif", "endfor", "endblock"] := by decide
  exact takeStatement_of_notMem (apart _ opens)

theorem takeStatement_elif (word : head.keyword = "elif") {first : Statement}
    (stack : state.stack = .choice first condition body :: outer) :
    state.takeStatement head = state.takeElif head first condition body outer := by
  simp [takeStatement_eq_match, word, stack]

theorem takeStatement_else (word : head.keyword = "else") {first : Statement}
    (stack : state.stack = .choice first condition body :: outer) :
    state.takeStatement head = state.takeElse head first condition body outer := by
  simp [takeStatement_eq_match, word, stack]

theorem takeStatement_endif (word : head.keyword = "endif") {first : Statement}
    (stack : state.stack = .choice first condition body :: outer) :
    state.takeStatement head = state.close (some head) head.token.stop := by
  simp [takeStatement_eq_match, word, stack]

theorem takeStatement_endif_otherwise (word : head.keyword = "endif") {first : Statement}
    (stack : state.stack = .otherwise first condition body others :: outer) :
    state.takeStatement head = state.close (some head) head.token.stop := by
  simp [takeStatement_eq_match, word, stack]

theorem takeStatement_endfor (word : head.keyword = "endfor") {first : Statement}
    (stack : state.stack = .loop first body :: outer) :
    state.takeStatement head = state.close (some head) head.token.stop := by
  simp [takeStatement_eq_match, word, stack]

theorem takeStatement_endblock (word : head.keyword = "endblock") {first : Statement}
    (stack : state.stack = .block first body :: outer) :
    state.takeStatement head = state.close (some head) head.token.stop := by
  simp [takeStatement_eq_match, word, stack]

theorem take_opening {keyword : String} (noSkip : state.skip = none) (opens : head.Says keyword)
    (opening : keyword ∈ ["if", "for", "block", "set"]) :
    state.take head.token = state.takeOther head := by
  have known : ∀ word ∈ ["if", "for", "block", "set"], word ∈ keywords := by decide
  rw [take_of_keyword noSkip opens (known keyword opening), takeStatement_other]
  rwa [opens.word]

end Tags

section Leaves

variable {depth : Nat} {token : Token} {head : Statement}

theorem runs_nil : Runs depth [] [] := by
  intro state _ _
  rw [State.grown_nil, List.foldl_nil]

theorem runs_text (plain : token.tag? = none) :
    Runs depth [token] [.text ⟨token.span, some token.content⟩ token.content] := by
  intro state ready _
  rw [← State.attach_eq_grown ready.settled rfl]
  simp only [List.foldl_cons, List.foldl_nil, State.take, ready.skip, plain]

theorem runs_comment (tag : token.tag? = some .comment) : Runs depth [token] [] := by
  intro state ready _
  rw [State.grown_nil]
  simp only [List.foldl_cons, List.foldl_nil, State.take, ready.skip, tag]

theorem runs_output {value : Expr} (tag : token.tag? = some .expression)
    (reads : parseExpression token.body token.bodyStart = .ok value) :
    Runs depth [token] [.output ⟨token.span, some token.content⟩ value] := by
  intro state ready _
  rw [parseExpression] at reads
  rw [← State.attach_eq_grown ready.settled rfl]
  simp only [List.foldl_cons, List.foldl_nil, State.take, ready.skip, tag, outputNode, reads]

theorem runs_assignment {name : Identifier} {source : List Char} {value : Expr}
    (opens : head.Says "set") (header : Statement.AssignmentHeader head.rest name source)
    (free : name.name ∉ reservedNames) (reads : head.Reads source value) :
    Runs depth [head.token] [.assignment (head.extentTo head.token.stop) name.name value] := by
  intro state ready _
  have read : head.assignmentHead? = some (name.name, source) :=
    Statement.assignmentHead?_eq_some_iff.mpr ⟨name, rfl, header⟩
  have node : assignmentNode head =
      (.assignment (head.extentTo head.token.stop) name.name value, []) := by
    simp only [assignmentNode, read, requiredExpression_of_reads reads,
      bindingErrors_eq_nil_iff.mpr free, List.append_nil]
  rw [← State.attach_eq_grown ready.settled rfl, List.foldl_cons, List.foldl_nil,
    take_opening ready.skip opens (by decide), ← node]
  simp [State.takeOther, opens.word]

end Leaves

section Constructs

variable {depth : Nat} {head close : Statement} {inside : List Token} {body : List Node}

theorem closingErrors_of_bare (bare : close.Bare) (keyword : String) :
    closingErrors head (some close) keyword = [] := by
  simp only [closingErrors, bareErrors_eq_nil_iff.mpr bare, ite_self]

theorem Ready.push {state : State} {frame : Frame} (ready : Ready state depth)
    (settled : Settled (frame :: state.stack)) : Ready (state.push frame) (depth + 1) :=
  ⟨ready.skip, congrArg (· + 1) ready.depth, settled⟩

theorem Ready.fits {state : State} (ready : Ready state depth) (room : depth < maxDepth) :
    ¬maxDepth ≤ state.stack.length := by
  rw [ready.depth]
  omega

/-- A loop is opened, filled and closed. -/
theorem runs_loop {name : Identifier} {source : List Char} {iterable : Expr}
    (opens : head.Says "for") (room : depth < maxDepth)
    (header : Statement.LoopHeader head.rest name source) (free : name.name ∉ reservedNames)
    (reads : head.Reads source iterable) (fills : Runs (depth + 1) inside body)
    (closes : close.Says "endfor") (bare : close.Bare) :
    Runs depth (head.token :: (inside ++ [close.token]))
      [.loop (head.extentTo close.token.stop) name.name iterable body] := by
  intro state ready fresh
  rw [Node.blockNamesAll, Node.blockNamesAll, List.append_nil, Node.blockNames] at fresh
  have opened : state.take head.token = state.push (.loop head []) := by
    rw [take_opening ready.skip opens (by decide)]
    simp [State.takeOther, opens.word, ready.fits room]
  have inner : Ready (state.push (.loop head [])) (depth + 1) := ready.push trivial
  have filled := fills _ inner fresh
  have read : head.loopHead? = some (name.name, source) :=
    Statement.loopHead?_eq_some_iff.mpr ⟨name, rfl, header⟩
  have node : loopNode head body close.token.stop =
      (.loop (head.extentTo close.token.stop) name.name iterable body, []) := by
    simp only [loopNode, read, requiredExpression_of_reads reads,
      bindingErrors_eq_nil_iff.mpr free, List.append_nil]
  have stack : ((state.push (.loop head [])).grown body).stack =
      .loop head body :: state.stack := rfl
  rw [List.foldl_cons, List.foldl_append, opened, filled, List.foldl_cons, List.foldl_nil,
    take_of_keyword (inner.grown body).skip closes (by decide),
    takeStatement_endfor closes.word stack, State.close, stack]
  simp only [closingErrors_of_bare bare, node, State.notice_nil]
  rw [← State.completed_eq_grown ready.settled]
  simp [State.attach, State.completed, State.grown, State.push, Node.blockNames]

/-- A named part is opened, filled and closed, and its name is recorded. -/
theorem runs_block {name : Identifier} (opens : head.Says "block") (room : depth < maxDepth)
    (header : Statement.BlockHeader head.rest name) (fills : Runs (depth + 1) inside body)
    (closes : close.Says "endblock")
    (matching : close.Bare ∨ Statement.BlockHeader close.rest name) :
    Runs depth (head.token :: (inside ++ [close.token]))
      [.block (head.extentTo close.token.stop) name.name body] := by
  intro state ready fresh
  have opened : state.take head.token = state.push (.block head []) := by
    rw [take_opening ready.skip opens (by decide)]
    simp [State.takeOther, opens.word, ready.fits room]
  have freshName :
      ((name.name :: (Node.blockNamesAll body).reverse) ++ state.blockNames).Nodup := by
    simpa [Fresh, Node.blockNamesAll, Node.blockNames] using fresh
  have freshBody : Fresh (state.push (.block head [])) (Node.blockNamesAll body) :=
    (List.nodup_cons.mp freshName).2
  have inner : Ready (state.push (.block head [])) (depth + 1) := ready.push trivial
  have filled := fills _ inner freshBody
  have read : head.blockName? = some name.name :=
    Statement.blockName?_eq_some_iff.mpr ⟨name, rfl, header⟩
  have new : name.name ∉ ((state.push (.block head [])).grown body).blockNames :=
    (List.nodup_cons.mp freshName).1
  have node : blockNode ((state.push (.block head [])).grown body).blockNames head body
      close.token.stop = (.block (head.extentTo close.token.stop) name.name body, []) := by
    simp [blockNode, read, new]
  have closing : closingErrors head (some close) "endblock" = [] := by
    simp [closingErrors, closes.word]
  have stack : ((state.push (.block head [])).grown body).stack =
      .block head body :: state.stack := rfl
  rw [List.foldl_cons, List.foldl_append, opened, filled, List.foldl_cons, List.foldl_nil,
    take_of_keyword (inner.grown body).skip closes (by decide),
    takeStatement_endblock closes.word stack, State.close, stack]
  simp only [closing, node, read, mismatchErrors_eq_nil_iff.mpr matching, List.append_nil,
    State.notice_nil]
  rw [← State.completed_eq_grown ready.settled]
  simp [State.attach, State.completed, State.grown, State.push, Node.blockNames]

/-- That tokens finish a choice whose head has been taken, and with it what it continues. -/
def Finishes (depth : Nat) (head : Statement) (condition : Expr) (tokens : List Token)
    (node : Node) : Prop :=
  ∀ (state : State) (outer : List Frame), state.skip = none →
    state.stack = .choice head condition [] :: outer → outer.length + 1 = depth →
      Fresh state node.blockNames → tokens.foldl State.take state = state.completed outer node

variable {condition : Expr}

theorem finishes_single (fills : Runs depth inside body) (closes : close.Says "endif")
    (bare : close.Bare) :
    Finishes depth head condition (inside ++ [close.token])
      (.choice (head.extentTo close.token.stop) condition body none) := by
  rintro ⟨children, stack, skip, errors, names⟩ outer noSkip top size fresh
  subst top
  have inner : Ready ⟨children, .choice head condition [] :: outer, skip, errors, names⟩ depth :=
    ⟨noSkip, size, trivial⟩
  rw [List.foldl_append, fills _ inner fresh, List.foldl_cons, List.foldl_nil,
    take_of_keyword (inner.grown body).skip closes (by decide), takeStatement_endif closes.word rfl]
  simp [State.close, State.grown, Frame.extended, closingErrors_of_bare bare, State.notice,
    State.attach, State.completed, Node.blockNames]

theorem finishes_otherwise {middle : Statement} {others : List Token} {otherBody : List Node}
    (fills : Runs depth inside body) (continues : middle.Says "else") (bareMiddle : middle.Bare)
    (fillsOther : Runs depth others otherBody) (closes : close.Says "endif") (bare : close.Bare) :
    Finishes depth head condition (inside ++ middle.token :: (others ++ [close.token]))
      (.choice (head.extentTo close.token.stop) condition body (some otherBody)) := by
  rintro ⟨children, stack, skip, errors, names⟩ outer noSkip top size fresh
  subst top
  rw [Fresh, Node.blockNames, List.reverse_append, List.append_assoc] at fresh
  have inner : Ready ⟨children, .choice head condition [] :: outer, skip, errors, names⟩ depth :=
    ⟨noSkip, size, trivial⟩
  have innerOther : Ready ⟨children, .otherwise head condition body [] :: outer, skip, errors,
      (Node.blockNamesAll body).reverse ++ names⟩ depth := ⟨noSkip, size, trivial⟩
  have changed : (State.grown ⟨children, .choice head condition [] :: outer, skip, errors, names⟩
      body).take middle.token = ⟨children, .otherwise head condition body [] :: outer, skip, errors,
        (Node.blockNamesAll body).reverse ++ names⟩ := by
    rw [take_of_keyword (inner.grown body).skip continues (by decide),
      takeStatement_else continues.word rfl, State.takeElse, bareErrors_eq_nil_iff.mpr bareMiddle,
      State.notice_nil]
    rfl
  rw [List.foldl_append, fills _ inner (List.nodup_append.mp fresh).2.1, List.foldl_cons, changed,
    List.foldl_append, fillsOther _ innerOther fresh, List.foldl_cons, List.foldl_nil,
    take_of_keyword (innerOther.grown otherBody).skip closes (by decide),
    takeStatement_endif_otherwise closes.word rfl]
  simp [State.close, State.grown, Frame.extended, closingErrors_of_bare bare, State.notice,
    State.attach, State.completed, Node.blockNames]

/-- A further condition is finished first, and then the choice that it continues. -/
theorem finishes_further {next : Statement} {nextCondition : Expr} {others : List Token}
    {node : Node} (fills : Runs depth inside body) (continues : next.Says "elif")
    (room : depth < maxDepth) (reads : next.Reads next.rest nextCondition)
    (finishes : Finishes (depth + 1) next nextCondition others node) :
    Finishes depth head condition (inside ++ next.token :: others)
      (.choice (head.extentTo node.span.stop) condition body (some [node])) := by
  rintro ⟨children, stack, skip, errors, names⟩ outer noSkip top size fresh
  subst top
  simp only [Fresh, Node.blockNames, Node.blockNamesAll, List.append_nil, List.reverse_append,
    List.append_assoc] at fresh
  have inner : Ready ⟨children, .choice head condition [] :: outer, skip, errors, names⟩ depth :=
    ⟨noSkip, size, trivial⟩
  have changed : (State.grown ⟨children, .choice head condition [] :: outer, skip, errors, names⟩
      body).take next.token = ⟨children, .choice next nextCondition [] ::
        .continued head condition body :: outer, skip, errors,
          (Node.blockNamesAll body).reverse ++ names⟩ := by
    have fits := (inner.grown body).fits room
    rw [take_of_keyword (inner.grown body).skip continues (by decide),
      takeStatement_elif continues.word rfl, State.takeElif, if_neg fits, State.openChoice,
      requiredExpression_of_reads reads]
    simp only [State.notice_nil]
    rfl
  -- The choice waits below the one that continues it, and is closed when that is finished.
  have deeper : (Frame.continued head condition body :: outer).length + 1 = depth + 1 := by
    rw [List.length_cons, size]
  have finished := finishes ⟨children, .choice next nextCondition [] ::
    .continued head condition body :: outer, skip, errors,
      (Node.blockNamesAll body).reverse ++ names⟩ _ noSkip rfl deeper fresh
  rw [List.foldl_append, fills _ inner (List.nodup_append.mp fresh).2.1, List.foldl_cons, changed,
    finished]
  simp [State.completed, State.attachTo, Node.blockNames, Node.blockNamesAll]

theorem runs_choice {node : Node} (opens : head.Says "if") (room : depth < maxDepth)
    (reads : head.Reads head.rest condition)
    (finishes : Finishes (depth + 1) head condition inside node) :
    Runs depth (head.token :: inside) [node] := by
  intro state ready fresh
  rw [Node.blockNamesAll, Node.blockNamesAll, List.append_nil] at fresh
  have opened : state.take head.token = state.push (.choice head condition []) := by
    rw [take_opening ready.skip opens (by decide)]
    simp [State.takeOther, opens.word, ready.fits room, State.openChoice,
      requiredExpression_of_reads reads, State.notice_nil]
  have deeper : state.stack.length + 1 = depth + 1 := by
    rw [ready.depth]
  rw [List.foldl_cons, opened,
    finishes (state.push (.choice head condition [])) state.stack ready.skip rfl deeper fresh,
    ← State.completed_eq_grown ready.settled]
  rfl

end Constructs

mutual

/-- Tokens that form nodes make them. -/
theorem runs_of_forms : ∀ {depth : Nat} {tokens : List Token} {nodes : List Node},
    Forms depth tokens nodes → Runs depth tokens nodes
  | _, _, _, .nil => runs_nil
  | _, _, _, .text plain later => (runs_text plain).append (runs_of_forms later)
  | _, _, _, .comment tag later => (runs_comment tag).append (runs_of_forms later)
  | _, _, _, .output tag reads later => (runs_output tag reads).append (runs_of_forms later)
  | _, _, _, .assignment opens header free reads later =>
    (runs_assignment opens header free reads).append (runs_of_forms later)
  | _, _, _, .choice opens room reads branches later =>
    (runs_choice opens room reads (finishes_of_branches branches)).append (runs_of_forms later)
  | _, _, _, .loop opens room header free reads inside closes bare later => by
    have whole := (runs_loop opens room header free reads (runs_of_forms inside) closes bare).append
      (runs_of_forms later)
    simpa using whole
  | _, _, _, .block opens room header inside closes matching later => by
    have whole := (runs_block opens room header (runs_of_forms inside) closes matching).append
      (runs_of_forms later)
    simpa using whole

theorem finishes_of_branches : ∀ {depth : Nat} {head : Statement} {condition : Expr}
    {tokens : List Token} {node : Node}, Branches depth head condition tokens node →
      Finishes depth head condition tokens node
  | _, _, _, _, _, .single forms closes bare => finishes_single (runs_of_forms forms) closes bare
  | _, _, _, _, _, .otherwise forms continues bareMiddle formsOther closes bare =>
    finishes_otherwise (runs_of_forms forms) continues bareMiddle (runs_of_forms formsOther) closes
      bare
  | _, _, _, _, _, .further forms continues room reads branches =>
    finishes_further (runs_of_forms forms) continues room reads (finishes_of_branches branches)

end

/-- A template of tokens that form nodes with names of their own has these nodes and no problem. -/
theorem parse_of_forms {tokens : List Token} {nodes : List Node} (forms : Forms 0 tokens nodes)
    (distinct : (Node.blockNamesAll nodes).Nodup) :
    (parse tokens).errors = [] ∧ (parse tokens).template.children = nodes := by
  have fresh : Fresh {} (Node.blockNamesAll nodes) := by
    rw [Fresh, List.append_nil]
    exact List.pairwise_reverse.mpr (distinct.imp Ne.symm)
  have run := runs_of_forms forms {} ⟨rfl, rfl, trivial⟩ fresh
  simp [parse, run, State.grown, State.finishSkip, State.finish]

end Stencil.Template.Parser
