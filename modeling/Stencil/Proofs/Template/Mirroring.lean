import Stencil.Proofs.Template.Accepting
import Stencil.Proofs.Template.Filling
/-!
# Trees mirror the tokens of their text

The nodes directly inside of a node lie in its region, one behind the other, and every node begins
with a token. A walk meets these tokens in the order in which they stand in the text, each at most
once: what is finished and what is open has, at every token, a part of the tokens so far, and
whatever a tag opens, closes or drops, it never puts one in front of another.

Where nothing is wrong with a template no token is dropped, so a walk meets all tokens that are no
comment and no tag that ends a construct or a branch of it.
-/

namespace Stencil

open Text Reference

/-- That a region goes forward inside of another. -/
structure Span.Within (span around : Span) : Prop where
  start : around.start ≤ span.start
  forward : span.start ≤ span.stop
  stop : span.stop ≤ around.stop

/-- What a token or a node begins with: a source, and the place where it stands. -/
abbrev Beginning := Option String × Position

def Token.beginning (token : Token) : Beginning := (some token.content, token.start)

/-- The keywords of tags that end a construct or a branch of it. -/
def Statement.endings : List String := ["else", "endif", "endfor", "endblock"]

/-- Whether a token begins a node where nothing is wrong: comments do not, nor do tags that end
something. -/
def Token.opensNode (token : Token) : Bool :=
  match token.tag? with
  | some .comment => false
  | some .statement => !Statement.endings.contains (Statement.ofToken token).keyword
  | some .expression | none => true

namespace Node

def beginning (node : Node) : Beginning := (node.extent.raw, node.span.start)

/-- That nodes lie in a region, each behind the one before it. -/
structure Ordered (around : Span) (nodes : List Node) : Prop where
  inside : ∀ node ∈ nodes, node.span.Within around
  apart : nodes.Pairwise fun one two => one.span.stop ≤ two.span.start

variable {text : List Char} {first last : Nat} {node : Node} {nodes : List Node}

theorem Stands.span (here : node.Stands text first last) :
    node.span = ⟨place text first, place text last⟩ := by
  cases here with
  | node heads _ => exact heads.span

theorem Stands.within (here : node.Stands text first last) {start stop : Nat}
    (ahead : start ≤ first) (behind : last ≤ stop) :
    node.span.Within ⟨place text start, place text stop⟩ := by
  rw [here.span]
  exact ⟨place_le ahead, place_le here.ordered.1, place_le behind⟩

/-- Nodes that stand in a text between two indices are in order there. -/
theorem StandAll.inOrder (all : StandAll text first nodes last) :
    Ordered ⟨place text first, place text last⟩ nodes where
  inside := by
    intro node member
    rcases all.mem node member with ⟨start, stop, ahead, here, behind⟩
    exact here.within ahead behind
  apart := by
    induction nodes generalizing first with
    | nil => exact .nil
    | cons node others ih =>
        cases all with
        | cons ahead here behind =>
            refine .cons ?_ (ih behind)
            intro other member
            rcases behind.mem other member with ⟨start, stop, later, stands, _⟩
            rw [here.span, stands.span]
            exact place_le later

/-- The nodes inside of a node that stands in a text are in order in its region. -/
theorem Stands.inOrder (here : node.Stands text first last) : Ordered node.span node.inner := by
  cases here with
  | node heads inside =>
      rw [heads.span]
      exact (inside.before heads.ordered).inOrder

end Node

namespace Token

variable {delimiters : Delimiters} {text : List Char} {first last : Nat} {token : Token}
  {tokens : List Token}

theorem WellMade.content_ne (made : token.WellMade delimiters)
    (marked : ∀ tag, delimiters.opening tag ≠ []) : token.content ≠ "" := by
  unfold WellMade at made
  split at made
  · exact made.1
  · rename_i tag _
    intro empty
    have nothing := made.1
    rw [empty] at nothing
    have none := List.append_eq_nil_iff.mp nothing.symm
    exact marked tag none.1

theorem Stands.lt (here : token.Stands text first last) (some : token.content ≠ "") :
    first < last := by
  rcases Nat.lt_or_ge first last with ahead | empty
  · exact ahead
  · refine absurd ?_ some
    rw [here.content, List.extract_eq_take_drop, Nat.sub_eq_zero_of_le empty, List.take_zero]

/-- Each of the tiles begins at an index between the ends. -/
theorem Tiles.start_mem (tiling : Tiles text first tokens last) :
    ∀ token ∈ tokens, ∃ start, first ≤ start ∧ start ≤ text.length ∧
      token.start = place text start := by
  induction tiling with
  | nil => exact fun _ member => nomatch member
  | @cons first middle _ tile tiles here _ ih =>
      have ordered := here.ordered
      intro token member
      rcases List.mem_cons.mp member with rfl | among
      · exact ⟨first, Nat.le_refl _, by omega, here.start⟩
      · rcases ih token among with ⟨start, ahead, inside, same⟩
        exact ⟨start, by omega, inside, same⟩

/-- Tiles that are not empty begin at places behind one another. -/
theorem Tiles.pairwise_start (tiling : Tiles text first tokens last)
    (some : ∀ token ∈ tokens, token.content ≠ "") :
    tokens.Pairwise fun one two => one.start < two.start := by
  induction tiling with
  | nil => exact .nil
  | cons here behind ih =>
      rcases List.forall_mem_cons.mp some with ⟨tile, others⟩
      refine .cons ?_ (ih others)
      intro token member
      rcases behind.start_mem token member with ⟨start, later, inside, same⟩
      rw [here.start, same]
      exact place_lt inside (Nat.lt_of_lt_of_le (here.lt tile) later)

end Token

namespace Template.Parser

/-- The beginnings of nodes, in the order of a walk. -/
def walked (nodes : List Node) : List Beginning := (Node.walkAll nodes).map Node.beginning

theorem walked_append (nodes more : List Node) :
    walked (nodes ++ more) = walked nodes ++ walked more := by
  simp [walked, Node.walkAll_eq_flatMap]

/-- A node is walked before those inside of it. -/
theorem walked_singleton (node : Node) : walked [node] = node.beginning :: walked node.inner := by
  simp [walked, Node.walkAll, Node.walk_eq_cons node, Node.walkAll_eq_flatMap]

@[simp]
theorem walked_nil : walked [] = [] := rfl

/-- The beginnings of what is finished and of what is open, in the order of the text. -/
def beginnings (children : List Node) : List Frame → List Beginning
  | [] => walked children
  | frame :: outer =>
    beginnings children outer ++ frame.opening.token.beginning :: walked frame.nodes

/-- All that a state has of the tokens so far. A block that is passed over is the last. -/
def State.beginnings (state : State) : List Beginning :=
  Parser.beginnings state.children state.stack ++
    (state.skip.map fun skip => skip.head.token.beginning).toList

variable {state : State} {token : Token} {head : Statement} {node : Node} {frame : Frame}
  {children body : List Node} {stack outer : List Frame}

theorem State.beginnings_of_none (reading : state.skip = none) :
    state.beginnings = Parser.beginnings state.children state.stack := by
  rw [beginnings, reading]
  exact List.append_nil _

/-- A finished node is walked behind what is there, also if it finishes other nodes. -/
theorem beginnings_attachTo (children : List Node) (node : Node) (stack : List Frame) :
    beginnings (State.attachTo children node stack).1 (State.attachTo children node stack).2 =
      beginnings children stack ++ walked [node] := by
  induction stack generalizing node with
  | nil => exact walked_append children [node]
  | cons frame outer ih =>
      cases frame with
      | continued head condition body =>
          rw [State.attachTo, ih, walked_singleton]
          simp [beginnings, Node.inner, Node.beginning, Frame.nodes, Frame.opening, walked_append,
            Token.beginning, Statement.extentTo, Node.extent, Node.span]
      | _ => simp [State.attachTo, beginnings, Frame.nodes, Frame.opening, walked_append]

section Reading

variable (reading : state.skip = none)

include reading

theorem beginnings_attach (made : Noticing Node) :
    (state.attach made).beginnings = state.beginnings ++ walked [made.1] := by
  have stillReading : (state.attach made).skip = none := reading
  rw [State.beginnings_of_none reading, State.beginnings_of_none stillReading]
  exact beginnings_attachTo state.children made.1 state.stack

/-- A node that is one tag adds the tag. -/
theorem beginnings_attach_of_single {made : Noticing Node} (inner : made.1.inner = [])
    (begins : made.1.beginning = token.beginning) :
    (state.attach made).beginnings = state.beginnings ++ [token.beginning] := by
  rw [beginnings_attach reading, walked_singleton, inner, begins, walked_nil]

theorem beginnings_push (frame : Frame) (nothing : frame.nodes = []) :
    (state.push frame).beginnings = state.beginnings ++ [frame.opening.token.beginning] := by
  have stillReading : (state.push frame).skip = none := reading
  rw [State.beginnings_of_none reading, State.beginnings_of_none stillReading]
  simp [State.push, beginnings, nothing]

theorem beginnings_openSkip (head : Statement) :
    (state.openSkip head).beginnings = state.beginnings ++ [head.token.beginning] := by
  rw [State.beginnings_of_none reading]
  rfl

theorem beginnings_openChoice (head : Statement) :
    (state.openChoice head).beginnings = state.beginnings ++ [head.token.beginning] :=
  beginnings_push reading (.choice head _ []) rfl

end Reading

/-- A block that was passed over adds its first tag. -/
theorem beginnings_closeSkip (state : State) (skip : Skip) :
    (state.closeSkip skip).beginnings =
      Parser.beginnings state.children state.stack ++ [skip.head.token.beginning] := by
  have reading : { state with skip := none }.skip = none := rfl
  have before := State.beginnings_of_none reading
  exact (beginnings_attach_of_single reading rfl rfl).trans (congrArg (· ++ _) before)

/-- A block that is passed over is the last of what is there. -/
theorem beginnings_of_skipping {skip : Skip} (skipping : state.skip = some skip) :
    state.beginnings =
      Parser.beginnings state.children state.stack ++ [skip.head.token.beginning] := by
  rw [State.beginnings, skipping]
  rfl

/-- A construct that is closed stands where it was open, with what is left of its nodes. -/
theorem beginnings_closed (frame : Frame)
    (begins : node.beginning = frame.opening.token.beginning)
    (inner : (walked node.inner).Sublist (walked frame.nodes)) :
    (beginnings (State.attachTo children node outer).1
      (State.attachTo children node outer).2).Sublist (beginnings children (frame :: outer)) := by
  rw [beginnings_attachTo, walked_singleton, begins]
  exact (inner.cons_cons _).append_left _

/-- Closing a construct adds nothing. A malformed one drops the nodes inside of it. -/
theorem beginnings_close (reading : state.skip = none) (closing : Option Statement)
    (stop : Position) : (state.close closing stop).beginnings.Sublist state.beginnings := by
  have closed := (skip_close closing stop).trans reading
  rw [State.beginnings_of_none reading, State.beginnings_of_none closed]
  rcases state with ⟨children, stack, skip, errors, names⟩
  cases stack with
  | nil => exact List.Sublist.refl _
  | cons frame outer =>
      cases frame with
      | choice head condition body =>
          refine beginnings_closed (.choice head condition body) rfl ?_
          rw [Node.inner, Option.getD_none, List.append_nil]
          exact List.Sublist.refl _
      | otherwise head condition body others =>
          exact beginnings_closed (.otherwise head condition body others) rfl (List.Sublist.refl _)
      | continued head condition body =>
          refine beginnings_closed (.continued head condition body) rfl ?_
          rw [Node.inner, Option.getD_none, List.append_nil]
          exact List.Sublist.refl _
      | loop head body =>
          refine beginnings_closed (.loop head body) ?_ ?_
          · unfold loopNode
            split <;> rfl
          · unfold loopNode
            split
            · exact List.nil_sublist _
            · exact List.Sublist.refl _
      | block head body =>
          refine beginnings_closed (.block head body) ?_ ?_
          · unfold blockNode
            split <;> rfl
          · unfold blockNode
            split
            · exact List.nil_sublist _
            · exact List.Sublist.refl _

section Branches

variable {condition : Expr} (top : state.stack = .choice head condition body :: outer)

include top

/-- A choice that waits for the one that goes on with it stands where it stood. -/
theorem beginnings_continued :
    State.beginnings { state with stack := .continued head condition body :: outer } =
      state.beginnings := by
  unfold State.beginnings
  rw [top]
  rfl

theorem beginnings_takeElse (middle : Statement) :
    (state.takeElse middle head condition body outer).beginnings = state.beginnings := by
  unfold State.beginnings
  rw [top]
  simp [State.takeElse, State.notice, beginnings, Frame.nodes, Frame.opening]

end Branches

/-- A token that is a node of its own is what the node begins with, and all of it. -/
theorem Single.beginning {made : Noticing Node} (single : Single token made) :
    made.1.inner = [] ∧ made.1.beginning = token.beginning := by
  cases single with
  | text plain => exact ⟨rfl, rfl⟩
  | output tag =>
      unfold outputNode
      dsimp only
      split <;> exact ⟨rfl, rfl⟩
  | assignment opens =>
      unfold assignmentNode
      split <;> exact ⟨rfl, rfl⟩
  | malformed tag problem => exact ⟨rfl, rfl⟩

/-- One token more is at most one beginning more, behind the others. -/
theorem Step.beginnings {after : State} (step : Step token state after) :
    after.beginnings.Sublist (state.beginnings ++ [token.beginning]) := by
  have nothing : state.beginnings.Sublist (state.beginnings ++ [token.beginning]) :=
    List.sublist_append_left _ _
  have added (same : after.beginnings = state.beginnings ++ [token.beginning]) :
      after.beginnings.Sublist (state.beginnings ++ [token.beginning]) := by
    rw [same]
  cases step with
  | passing skipping _ =>
      rw [beginnings_of_skipping skipping] at nothing ⊢
      exact nothing
  | passed skipping _ =>
      rw [beginnings_closeSkip, ← beginnings_of_skipping skipping]
      exact nothing
  | comment _ _ => exact nothing
  | single reading single =>
      rcases single.beginning with ⟨inner, begins⟩
      exact added (beginnings_attach_of_single reading inner begins)
  | choice reading _ _ => exact added (beginnings_openChoice reading _)
  | loop reading _ _ | block reading _ _ => exact added (beginnings_push reading _ rfl)
  | tooDeep reading _ _ _ => exact added (beginnings_openSkip reading _)
  | @further head condition body outer reading _ stack _ =>
      let waiting : State := { state with stack := .continued head condition body :: outer }
      have still : waiting.skip = none := reading
      have opened := beginnings_openChoice still (Statement.ofToken token)
      rw [beginnings_continued stack] at opened
      exact added opened
  | @furtherTooDeep head condition body outer reading _ stack _ =>
      let waiting : State := { state with stack := .continued head condition body :: outer }
      have still : waiting.skip = none := reading
      have skipped := beginnings_openSkip still (Statement.ofToken token)
      rw [beginnings_continued stack] at skipped
      exact added skipped
  | middle _ _ stack =>
      rw [beginnings_takeElse stack]
      exact nothing
  | closes reading _ _ _ => exact (beginnings_close reading _ _).trans nothing

/-- What a state has of tokens are some of them, in their order. -/
theorem beginnings_foldl (tokens : List Token) (state : State) :
    (tokens.foldl State.take state).beginnings.Sublist
      (state.beginnings ++ tokens.map Token.beginning) := by
  induction tokens generalizing state with
  | nil =>
      rw [List.map_nil, List.append_nil]
      exact List.Sublist.refl _
  | cons token rest ih =>
      have next := (step_take state token).beginnings.append_right (rest.map Token.beginning)
      rw [List.append_assoc] at next
      exact (ih (state.take token)).trans next

theorem beginnings_finishSkip (state : State) : state.finishSkip.beginnings = state.beginnings := by
  unfold State.finishSkip
  split
  · rename_i skip skipping
    rw [beginnings_closeSkip, State.beginnings, skipping]
    rfl
  · rfl

theorem skip_finishSkip (state : State) : state.finishSkip.skip = none := by
  unfold State.finishSkip
  split
  · rfl
  · assumption

theorem beginnings_finish (reading : state.skip = none) (stop : Position) (fuel : Nat) :
    (State.finish stop fuel state).beginnings.Sublist state.beginnings := by
  induction fuel generalizing state with
  | zero => exact List.Sublist.refl _
  | succ fuel ih =>
      unfold State.finish
      split
      · exact List.Sublist.refl _
      · have closed := (skip_close Option.none stop).trans reading
        exact (ih closed).trans (beginnings_close reading Option.none stop)

/-- What is finished is a part of what a state has. -/
theorem walked_sublist_beginnings (children : List Node) (stack : List Frame) :
    (walked children).Sublist (beginnings children stack) := by
  induction stack with
  | nil => exact List.Sublist.refl _
  | cons frame outer ih => exact ih.trans (List.sublist_append_left _ _)

/-- The nodes of a template begin with some of the tokens, in their order. -/
theorem walked_sublist_parse (tokens : List Token) :
    (walked (parse tokens).template.children).Sublist (tokens.map Token.beginning) := by
  have read := beginnings_foldl tokens {}
  rw [← beginnings_finishSkip] at read
  have finished := (beginnings_finish (skip_finishSkip _) (spanOf tokens).stop
    (tokens.foldl State.take {}).finishSkip.stack.length).trans read
  exact (walked_sublist_beginnings _ _).trans ((List.sublist_append_left _ _).trans finished)

theorem opensNode_of_keyword {keyword : String} (opens : head.Says keyword)
    (known : keyword ∈ keywords) :
    head.token.opensNode = !Statement.endings.contains keyword := by
  unfold Token.opensNode
  rw [opens.tag, opens.ofToken known, opens.word]

/-- The beginnings of the tokens that begin nodes. -/
def opened (tokens : List Token) : List Beginning :=
  (tokens.filter Token.opensNode).map Token.beginning

theorem opened_append (tokens more : List Token) :
    opened (tokens ++ more) = opened tokens ++ opened more := by
  simp [opened]

theorem opened_cons_of_opens {token : Token} (opens : token.opensNode = true)
    (tokens : List Token) : opened (token :: tokens) = token.beginning :: opened tokens := by
  simp [opened, opens]

theorem opened_cons_of_not {token : Token} (ends : token.opensNode = false)
    (tokens : List Token) : opened (token :: tokens) = opened tokens := by
  simp [opened, ends]

theorem walked_cons (node : Node) (nodes : List Node) :
    walked (node :: nodes) = node.beginning :: (walked node.inner ++ walked nodes) := by
  rw [← List.singleton_append, walked_append, walked_singleton, List.cons_append]

mutual

/-- Tokens that form nodes are met by a walk, all that begin any. -/
theorem walked_of_forms : ∀ {depth : Nat} {tokens : List Token} {nodes : List Node},
    Forms depth tokens nodes → walked nodes = opened tokens
  | _, _, _, .nil => rfl
  | _, _, _, .text plain later => by
    rw [walked_cons, walked_of_forms later, opened_cons_of_opens (by simp [Token.opensNode, plain])]
    rfl
  | _, _, _, .comment tag later => by
    rw [walked_of_forms later, opened_cons_of_not (by simp [Token.opensNode, tag])]
  | _, _, _, .output tag reads later => by
    rw [walked_cons, walked_of_forms later, opened_cons_of_opens (by simp [Token.opensNode, tag])]
    rfl
  | _, _, _, .assignment opens header free reads later => by
    rw [walked_cons, walked_of_forms later,
      opened_cons_of_opens (opensNode_of_keyword opens (by decide))]
    rfl
  | _, _, _, .choice opens room reads branches later => by
    rcases walked_of_branches branches with ⟨begins, inner⟩
    rw [walked_cons, walked_of_forms later, begins, inner,
      opened_cons_of_opens (opensNode_of_keyword opens (by decide)), opened_append]
  | _, _, _, .loop opens room header free reads inside closes bare later => by
    rw [walked_cons, walked_of_forms later,
      opened_cons_of_opens (opensNode_of_keyword opens (by decide)), opened_append,
      opened_cons_of_not (opensNode_of_keyword closes (by decide)), ← walked_of_forms inside]
    rfl
  | _, _, _, .block opens room header inside closes matching later => by
    rw [walked_cons, walked_of_forms later,
      opened_cons_of_opens (opensNode_of_keyword opens (by decide)), opened_append,
      opened_cons_of_not (opensNode_of_keyword closes (by decide)), ← walked_of_forms inside]
    rfl

theorem walked_of_branches : ∀ {depth : Nat} {head : Statement} {condition : Expr}
    {tokens : List Token} {node : Node}, Branches depth head condition tokens node →
      node.beginning = head.token.beginning ∧ walked node.inner = opened tokens
  | _, _, _, _, _, .single forms closes bare => by
    refine ⟨rfl, ?_⟩
    rw [opened_append, opened_cons_of_not (opensNode_of_keyword closes (by decide)),
      ← walked_of_forms forms, Node.inner, Option.getD_none, walked_append]
    rfl
  | _, _, _, _, _, .otherwise forms continues bareMiddle formsOther closes bare => by
    refine ⟨rfl, ?_⟩
    rw [opened_append, opened_cons_of_not (opensNode_of_keyword continues (by decide)),
      opened_append, opened_cons_of_not (opensNode_of_keyword closes (by decide)),
      ← walked_of_forms forms, ← walked_of_forms formsOther, Node.inner, Option.getD_some,
      walked_append]
    exact congrArg _ (List.append_nil _).symm
  | _, _, _, _, _, .further forms continues room reads branches => by
    rcases walked_of_branches branches with ⟨begins, inner⟩
    refine ⟨rfl, ?_⟩
    rw [opened_append, opened_cons_of_opens (opensNode_of_keyword continues (by decide)),
      ← walked_of_forms forms, Node.inner, Option.getD_some, walked_append, walked_singleton,
      begins, inner]

end

/-- A walk uses tokens in their order, each at most once, and all that begin nodes if nothing is
wrong. -/
theorem walk_uses_tokens (tokens : List Token) :
    ∃ used : List Token, used.Sublist tokens ∧
      (parse tokens).template.walk.map Node.beginning = used.map Token.beginning ∧
      ((parse tokens).errors = [] → used = tokens.filter Token.opensNode) := by
  by_cases clean : (parse tokens).errors = []
  · have forms := (forms_of_parse clean).1
    exact ⟨_, List.filter_sublist, walked_of_forms forms, fun _ => rfl⟩
  · rcases List.sublist_map_iff.mp (walked_sublist_parse tokens) with ⟨used, sublist, same⟩
    exact ⟨used, sublist, same, fun none => absurd none clean⟩

end Template.Parser

/-- The tree of a text mirrors its tokens, whatever is wrong with it. The nodes directly inside of
the template or of a node lie in its region, one behind the other, and a walk goes through all nodes
in the order of the places where they begin. What they begin with are some of the tokens, each used
at most once and in their order; if nothing is wrong, they are all tokens but comments and the tags
that end a construct or a branch of it. -/
theorem parse_mirrors_tokens {delimiters : Delimiters} {text : String} {tokens : List Token}
    (read : tokenize delimiters text = .ok tokens) :
    let template := (parse tokens).template
    Node.Ordered template.span template.children ∧
      (∀ node ∈ template.walk,
        node.span.Within template.span ∧ Node.Ordered node.span node.inner) ∧
      (template.walk.Pairwise fun one two => one.span.start < two.span.start) ∧
      ∃ used : List Token, used.Sublist tokens ∧
        template.walk.map Node.beginning = used.map Token.beginning ∧
        ((parse tokens).errors = [] → used = tokens.filter Token.opensNode) := by
  intro template
  have tiled := tiled_of_tokenize read
  have all := Template.Parser.children_standAll tiled.tiles (Nat.le_refl _)
  have whole : template.span = ⟨place text.toList 0, place text.toList text.toList.length⟩ :=
    Template.Parser.spanOf_eq tiled.tiles
  have used := Template.Parser.walk_uses_tokens tokens
  refine ⟨?_, ?_, ?_, used⟩
  · rw [whole]
    exact all.inOrder
  · intro node member
    rcases all.parts node member with ⟨start, stop, ahead, here, behind⟩
    rw [whole]
    exact ⟨here.within ahead behind, here.inOrder⟩
  · rcases used with ⟨used, sublist, same, _⟩
    have marked (tag : Tag) := (marked_of_tokenize read tag).1
    have starts := tiled.tiles.pairwise_start fun token member =>
      (tiled.wellMade token member).content_ne marked
    have beginnings : (used.map Token.beginning).Pairwise fun one two => one.2 < two.2 :=
      List.pairwise_map.mpr (starts.sublist sublist)
    rw [← same] at beginnings
    have walked := List.pairwise_map.mp beginnings
    exact walked

/-- A loop without a name, a stray tag, and a choice that is never closed. -/
def brokenText : String :=
  "\x7b% for %\x7da\x7b% endfor %\x7d\n\x7b% endif %\x7d\x7b% if b %\x7d\x7b\x7b c \x7d\x7d"

/-- What is left of that text: the loop drops what is inside of it. -/
def brokenBeginnings : List Beginning :=
  [(some "\x7b% for %\x7d", ⟨1, 0⟩), (some "\n", ⟨1, 22⟩), (some "\x7b% endif %\x7d", ⟨2, 0⟩),
    (some "\x7b% if b %\x7d", ⟨2, 11⟩), (some "\x7b\x7b c \x7d\x7d", ⟨2, 21⟩)]

/-- A choice with a comment in its other branch. -/
def wholeText : String := "\x7b% if a %\x7db\x7b% else %\x7d\x7b# c #\x7d\x7b% endif %\x7d"

theorem parse_mirrors_tokens_broken :
    (∃ tokens, tokenize {} brokenText = .ok tokens ∧
      (parse tokens).template.walk.map Node.beginning = brokenBeginnings ∧
      ((parse tokens).template.walk.Pairwise fun one two => one.span.start < two.span.start) ∧
      ∃ used : List Token, used.Sublist tokens ∧
        (parse tokens).template.walk.map Node.beginning = used.map Token.beginning) ∧
    ∃ tokens, tokenize {} wholeText = .ok tokens ∧ (parse tokens).errors = [] ∧
      (parse tokens).template.walk.map Node.beginning =
        (tokens.filter Token.opensNode).map Token.beginning := by
  constructor
  · have walked : ∀ tokens ∈ (tokenize {} brokenText).toOption,
        (parse tokens).template.walk.map Node.beginning = brokenBeginnings := by decide +kernel
    rcases exists_tokens (show (tokenize {} brokenText).isOk = true by decide +kernel) with
      ⟨tokens, read⟩
    rw [read] at walked
    rcases parse_mirrors_tokens read with ⟨_, _, ahead, used, sublist, same, _⟩
    exact ⟨tokens, read, walked tokens rfl, ahead, used, sublist, same⟩
  · have clean : ∀ tokens ∈ (tokenize {} wholeText).toOption, (parse tokens).errors = [] := by
      decide +kernel
    rcases exists_tokens (show (tokenize {} wholeText).isOk = true by decide +kernel) with
      ⟨tokens, read⟩
    rw [read] at clean
    have none := clean tokens rfl
    rcases parse_mirrors_tokens read with ⟨_, _, _, used, _, same, all⟩
    rw [all none] at same
    exact ⟨tokens, read, none, same⟩

end Stencil
