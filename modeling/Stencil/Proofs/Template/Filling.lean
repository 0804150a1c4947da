import Stencil.Proofs.Template.Standing
import Stencil.Proofs.Template.Steps
/-!
# Templates fill their text

At every token, what has been finished and what is open fill the text in order up to the token,
every open construct from its own first tag on. Tags in the wrong place, constructs that are never
closed and blocks that are passed over make no difference. So every node of a template points at its
source in the text, and so does every expression in it.
-/

namespace Stencil

open Text Reference

namespace Template.Parser

namespace Frame

/-- The tag that an open construct begins with. -/
def opening : Frame → Statement
  | choice head _ _ | otherwise head _ _ _ | continued head _ _ | loop head _ | block head _ => head

/-- The expression of an open construct that has been read with its first tag. -/
def condition? : Frame → Option Expr
  | choice _ condition _ | otherwise _ condition _ _ | continued _ condition _ => some condition
  | loop _ _ | block _ _ => none

/-- The finished nodes of an open construct. -/
def nodes : Frame → List Node
  | choice _ _ body | continued _ _ body | loop _ body | block _ body => body
  | otherwise _ _ body others => body ++ others

end Frame

/-- That an open construct with what is finished inside of it stands in a text between two
indices. -/
inductive Frame.Stands (text : List Char) (first : Nat) (frame : Frame) (last : Nat) : Prop where
  | intro {headStop : Nat} (opening : frame.opening.Stands text first headStop)
      (own : ∀ expr ∈ frame.condition?, expr.Placed text first headStop)
      (inside : Node.StandAll text headStop frame.nodes last)

/-- That what is finished and what is open fill a text in order up to an index. -/
inductive Fills (text : List Char) (finished : List Node) : List Frame → Nat → Prop where
  | outside {last : Nat} (all : Node.StandAll text 0 finished last) : Fills text finished [] last
  | within {first last : Nat} {frame : Frame} {outer : List Frame}
      (around : Fills text finished outer first) (here : frame.Stands text first last) :
      Fills text finished (frame :: outer) last

variable {text : List Char} {first start stop last : Nat} {head : Statement} {node : Node}
  {frame : Frame} {body finished : List Node} {outer stack : List Frame} {state : State}
  {token : Token}

theorem Frame.Stands.concat (here : frame.Stands text first start) (ahead : start ≤ stop)
    (next : node.Stands text stop last) {grown : Frame} (opening : grown.opening = frame.opening)
    (condition : grown.condition? = frame.condition?)
    (nodes : grown.nodes = frame.nodes ++ [node]) : grown.Stands text first last := by
  cases here with
  | intro begins own inside =>
      have all := inside.concat ahead next
      rw [← opening] at begins
      rw [← condition] at own
      rw [← nodes] at all
      exact .intro begins own all

/-- The branches of a choice are told apart by how the construct goes on only. -/
theorem Frame.Stands.become (here : frame.Stands text first last) {other : Frame}
    (opening : other.opening = frame.opening) (condition : other.condition? = frame.condition?)
    (nodes : other.nodes = frame.nodes) : other.Stands text first last := by
  cases here with
  | intro begins own inside =>
      rw [← opening] at begins
      rw [← condition] at own
      rw [← nodes] at inside
      exact .intro begins own inside

/-- A construct that is closed becomes a node that stands where it stood. -/
theorem Frame.Stands.closed (here : frame.Stands text first last) (inside : last ≤ text.length)
    (extent : node.extent = frame.opening.extentTo (place text last))
    (own : node.expression? = frame.condition?) (inner : node.inner = frame.nodes) :
    node.Stands text first last := by
  cases here with
  | intro begins condition nodes =>
      rw [← own] at condition
      rw [← inner] at nodes
      exact begins.node extent condition nodes inside

theorem Fills.behind (fills : Fills text finished stack first) (later : first ≤ last) :
    Fills text finished stack last := by
  cases fills with
  | outside all => exact .outside (all.behind later)
  | within around here =>
      cases here with
      | intro opening own inside =>
          exact .within around (.intro opening own (inside.behind later))

/-- What is finished outside of all constructs stands in the text, whatever is open. -/
theorem Fills.standAll (fills : Fills text finished stack last) :
    Node.StandAll text 0 finished last := by
  induction fills with
  | outside all => exact all
  | within _ here ih =>
      cases here with
      | intro opening own inside =>
          exact ih.behind (Nat.le_trans opening.token.ordered.1 inside.ordered)

/-- A finished node is filled in behind what is there. -/
theorem fills_attachTo (fills : Fills text finished stack first) (ahead : first ≤ start)
    (here : node.Stands text start last) :
    Fills text (State.attachTo finished node stack).1 (State.attachTo finished node stack).2
      last := by
  induction fills generalizing node start last with
  | outside all => exact .outside (all.concat ahead here)
  | @within first' last' frame outer around standing ih =>
      cases frame with
      | continued head condition body =>
          -- The choice that the node continues is finished with it.
          have choice : Frame.Stands text _ (.otherwise head condition body [node]) last :=
            standing.concat ahead here rfl rfl rfl
          refine ih (Nat.le_refl _) (choice.closed here.ordered.2 ?_ rfl rfl)
          cases here with
          | node heads _ =>
              rw [heads.span]
              rfl
      | otherwise head condition body others =>
          refine .within around (standing.concat ahead here rfl rfl ?_)
          exact (List.append_assoc body others [node]).symm
      | _ => exact .within around (standing.concat ahead here rfl rfl rfl)

/-- How far a text has been taken. A block that is being passed over begins where what is finished
and open ends. -/
inductive Taken (text : List Char) (state : State) (last : Nat) : Prop where
  | reading (none : state.skip = none) (fills : Fills text state.children state.stack last)
  | skipping {skip : Skip} {first headStop : Nat} (some : state.skip = some skip)
      (fills : Fills text state.children state.stack first)
      (opening : skip.head.Stands text first headStop) (behind : headStop ≤ last)
      (stop : skip.stop = place text last)

/-- What is passed over begins where what is finished and open ends. -/
theorem Taken.skipped {skip : Skip} (taken : Taken text state last)
    (skipping : state.skip = some skip) :
    ∃ first headStop, Fills text state.children state.stack first ∧
      skip.head.Stands text first headStop ∧ headStop ≤ last := by
  cases taken with
  | reading none fills =>
      rw [none] at skipping
      cases skipping
  | skipping some fills opening behind stop =>
      rw [some] at skipping
      cases skipping
      exact ⟨_, _, fills, opening, behind⟩

theorem Taken.fills (taken : Taken text state last) (reading : state.skip = none) :
    Fills text state.children state.stack last := by
  cases taken with
  | reading none fills => exact fills
  | skipping some fills opening behind stop =>
      rw [some] at reading
      cases reading

/-- A token that is a node of its own stands where the token stands. -/
theorem Single.stands {made : Noticing Node} (single : Single token made)
    (here : token.Stands text first last) : made.1.Stands text first last := by
  cases single with
  | text plain => exact stands_token here rfl (fun _ member => nomatch member) rfl
  | output tag => exact stands_outputNode here
  | assignment opens => exact stands_assignmentNode ⟨here, rfl⟩
  | malformed tag problem =>
      have opening : (Statement.ofToken token).Stands text first last := ⟨here, rfl⟩
      rw [here.stop]
      exact stands_malformedNode opening (Nat.le_refl _) here.ordered.2 problem

theorem taken_attach {made : Noticing Node} (none : state.skip = none)
    (fills : Fills text state.children state.stack first)
    (here : made.1.Stands text first last) : Taken text (state.attach made) last :=
  .reading none (fills_attachTo fills (Nat.le_refl _) here)

/-- A construct that is opened begins behind what is there. -/
theorem Fills.push (fills : Fills text finished stack first) (opening : frame.opening = head)
    (here : head.Stands text first last)
    (own : ∀ expr ∈ frame.condition?, expr.Placed text first last) (nothing : frame.nodes = []) :
    Fills text finished (frame :: stack) last := by
  have none : Node.StandAll text last frame.nodes last := by
    rw [nothing]
    exact .nil (Nat.le_refl _)
  rw [← opening] at here
  exact .within fills (.intro here own none)

section Taking

variable (none : state.skip = none) (fills : Fills text state.children state.stack first)
  (here : head.Stands text first last)

include fills here

theorem taken_openSkip : Taken text (state.openSkip head) last :=
  .skipping rfl fills here (Nat.le_refl _) here.token.stop

include none

theorem taken_openChoice : Taken text (state.openChoice head) last := by
  have own := here.placed_requiredExpression (List.suffix_refl _)
  refine .reading none (fills.push rfl here ?_ rfl)
  intro expr member
  cases member
  exact own

theorem taken_push (opening : frame.opening = head) (nothing : frame.nodes = [])
    (bare : frame.condition? = Option.none) : Taken text (state.push frame) last := by
  refine .reading none (fills.push opening here ?_ nothing)
  intro expr member
  rw [bare] at member
  cases member

end Taking

theorem skip_close (closing : Option Statement) (stop : Position) :
    (state.close closing stop).skip = state.skip := by
  unfold State.close
  split <;> rfl

/-- The innermost construct is closed, by a tag or at the end of the text. -/
theorem fills_close (fills : Fills text state.children state.stack last)
    (inside : last ≤ text.length) (closing : Option Statement) :
    Fills text (state.close closing (place text last)).children
      (state.close closing (place text last)).stack last := by
  rcases state with ⟨children, stack, skip, errors, names⟩
  unfold State.close
  cases fills with
  | outside all => exact .outside all
  | @within first _ frame outer around here =>
      cases frame with
      | choice head condition body =>
          have made : Node.Stands text first (.choice _ condition body none) last :=
            here.closed inside rfl rfl (List.append_nil body)
          exact fills_attachTo around (Nat.le_refl _) made
      | otherwise head condition body others =>
          have made : Node.Stands text first (.choice _ condition body (some others)) last :=
            here.closed inside rfl rfl rfl
          exact fills_attachTo around (Nat.le_refl _) made
      | continued head condition body =>
          have made : Node.Stands text first (.choice _ condition body none) last :=
            here.closed inside rfl rfl (List.append_nil body)
          exact fills_attachTo around (Nat.le_refl _) made
      | loop head body =>
          cases here with
          | intro opening own nodes =>
              have made := stands_loopNode opening nodes inside
              exact fills_attachTo around (Nat.le_refl _) made
      | block head body =>
          cases here with
          | intro opening own nodes =>
              have made := stands_blockNode opening nodes inside names
              exact fills_attachTo around (Nat.le_refl _) made

section Branches

variable {condition : Expr} {body : List Node} {outer : List Frame} {opened : Statement}
  (top : state.stack = .choice opened condition body :: outer)
  (fills : Fills text state.children state.stack first)

include top fills

/-- A choice waits below the one that goes on with it, also while that one is passed over. -/
theorem fills_continued :
    Fills text state.children (.continued opened condition body :: outer) first := by
  rw [top] at fills
  cases fills with
  | within around frame => exact .within around (frame.become rfl rfl rfl)

theorem taken_takeElse (none : state.skip = none) (here : head.Stands text first last) :
    Taken text (state.takeElse head opened condition body outer) last := by
  rw [top] at fills
  cases fills with
  | within around frame =>
      have other : Fills text state.children (.otherwise opened condition body [] :: outer) first :=
        .within around (frame.become rfl rfl (List.append_nil body))
      exact .reading none (other.behind here.token.ordered.1)

end Branches

theorem taken_close (none : state.skip = none)
    (fills : Fills text state.children state.stack first) (here : head.Stands text first last) :
    Taken text (state.close (some head) head.token.stop) last := by
  have ordered := here.token.ordered
  rw [here.token.stop]
  refine .reading ?_ (fills_close (fills.behind ordered.1) ordered.2 (some head))
  rw [skip_close, none]

/-- A block that was passed over is a node from its first tag to where it ends. -/
theorem fills_closeSkip {skip : Skip} {headStop : Nat}
    (fills : Fills text state.children state.stack first)
    (opening : skip.head.Stands text first headStop) (behind : headStop ≤ last)
    (inside : last ≤ text.length) (stop : skip.stop = place text last) :
    Fills text (state.closeSkip skip).children (state.closeSkip skip).stack last := by
  have made := stands_malformedNode opening behind inside (.blocksTooDeep maxDepth)
  rw [← stop] at made
  exact fills_attachTo fills (Nat.le_refl _) made

/-- One token more is taken. -/
theorem Step.taken {after : State} (step : Step token state after)
    (taken : Taken text state first) (here : token.Stands text first last) :
    Taken text after last := by
  have ordered := here.ordered
  have tag : (Statement.ofToken token).Stands text first last := ⟨here, rfl⟩
  cases step with
  | passing skipping _ =>
      rcases taken.skipped skipping with ⟨start, headStop, fills, opening, behind⟩
      exact .skipping rfl fills opening (Nat.le_trans behind ordered.1) here.stop
  | passed skipping _ =>
      rcases taken.skipped skipping with ⟨start, headStop, fills, opening, behind⟩
      have later := Nat.le_trans behind ordered.1
      exact .reading rfl (fills_closeSkip fills opening later ordered.2 here.stop)
  | comment reading _ => exact .reading reading ((taken.fills reading).behind ordered.1)
  | single reading single => exact taken_attach reading (taken.fills reading) (single.stands here)
  | choice reading _ _ => exact taken_openChoice reading (taken.fills reading) tag
  | loop reading _ _ | block reading _ _ =>
      exact taken_push reading (taken.fills reading) tag rfl rfl rfl
  | tooDeep reading _ _ _ => exact taken_openSkip (taken.fills reading) tag
  | further reading _ stack _ =>
      have waiting := fills_continued stack (taken.fills reading)
      exact taken_openChoice reading waiting tag
  | furtherTooDeep reading _ stack _ =>
      have waiting := fills_continued stack (taken.fills reading)
      exact taken_openSkip waiting tag
  | middle reading _ stack => exact taken_takeElse stack (taken.fills reading) reading tag
  | closes reading _ _ _ => exact taken_close reading (taken.fills reading) tag

/-- All tokens are taken. -/
theorem taken_foldl {tokens : List Token} (taken : Taken text state first)
    (tiling : Token.Tiles text first tokens last) :
    Taken text (tokens.foldl State.take state) last := by
  induction tiling generalizing state with
  | nil => exact taken
  | cons here _ ih => exact ih ((step_take state _).taken taken here)

theorem fills_finishSkip (taken : Taken text state last) (inside : last ≤ text.length) :
    Fills text state.finishSkip.children state.finishSkip.stack last := by
  unfold State.finishSkip
  cases taken with
  | reading none fills =>
      rw [none]
      exact fills
  | skipping some fills opening behind stop =>
      rw [some]
      exact fills_closeSkip fills opening behind inside stop

/-- What is still open at the end of the text is closed there. -/
theorem fills_finish (fills : Fills text state.children state.stack last)
    (inside : last ≤ text.length) (fuel : Nat) :
    Fills text (State.finish (place text last) fuel state).children
      (State.finish (place text last) fuel state).stack last := by
  induction fuel generalizing state with
  | zero => exact fills
  | succ fuel ih =>
      unfold State.finish
      split
      · exact fills
      · exact ih (fills_close fills inside none)

theorem stop_spanOf {tokens : List Token} (tiling : Token.Tiles text 0 tokens last) :
    (spanOf tokens).stop = place text last := by
  rcases List.eq_nil_or_concat' tokens with rfl | ⟨before, token, rfl⟩
  · cases tiling
    rfl
  · rcases tiling.exists_middle with ⟨middle, _, final⟩
    cases final with
    | cons here nothing =>
        cases nothing
        have first : ∃ first, (before ++ [token]).head? = some first := by simp
        rcases first with ⟨first, same⟩
        rw [spanOf, same, List.getLast?_concat]
        exact here.stop

theorem start_spanOf {tokens : List Token} (tiling : Token.Tiles text 0 tokens last) :
    (spanOf tokens).start = place text 0 := by
  cases tiling with
  | nil => rfl
  | @cons _ _ _ tile tiles here _ =>
      have final := List.getLast?_eq_some_getLast (List.cons_ne_nil tile tiles)
      rw [spanOf, final, List.head?_cons]
      exact here.start

/-- The region of a template goes from the first place of its text to the last. -/
theorem spanOf_eq {tokens : List Token} (tiling : Token.Tiles text 0 tokens last) :
    spanOf tokens = ⟨place text 0, place text last⟩ := by
  rw [← start_spanOf tiling, ← stop_spanOf tiling]

/-- The nodes of a template stand in its text, from one end of it to the other. -/
theorem children_standAll {tokens : List Token} (tiling : Token.Tiles text 0 tokens last)
    (inside : last ≤ text.length) :
    Node.StandAll text 0 (parse tokens).template.children last := by
  have start : Taken text {} 0 := .reading rfl (.outside (.nil (Nat.le_refl _)))
  have read := fills_finishSkip (taken_foldl start tiling) inside
  have finished := fills_finish read inside (tokens.foldl State.take {}).finishSkip.stack.length
  rw [← stop_spanOf tiling] at finished
  exact finished.standAll

theorem standAll_parse {tokens : List Token} (tiling : Token.Tiles text 0 tokens last)
    (inside : last ≤ text.length) :
    ∃ stop, Node.StandAll text 0 (parse tokens).template.children stop :=
  ⟨last, children_standAll tiling inside⟩

end Template.Parser

/-- The source of every node and of every expression of a template is a part of its text, and the
region goes from the place where the part begins: for a node over the nodes inside of it, and for an
expression to the place where the part ends. The expressions directly inside of an expression stand
in its part, one behind the other. -/
theorem parse_points_at_sources {delimiters : Delimiters} {text : String} {tokens : List Token}
    (read : tokenize delimiters text = .ok tokens) :
    ∀ node ∈ (parse tokens).template.walk,
      (∃ first headStop last, node.Heads text.toList first headStop last) ∧
        ∀ expr ∈ node.expression?, ∀ part ∈ expr.walk,
          part.isMalformed = true ∧ part.raw = none ∨
            ∃ first last, part.Stands text.toList first last := by
  intro node member
  have tiling := (tiled_of_tokenize read).tiles
  rcases Template.Parser.standAll_parse tiling (Nat.le_refl _) with ⟨stop, all⟩
  rcases all.walk node member with ⟨first, headStop, last, heads⟩
  refine ⟨⟨first, headStop, last, heads⟩, ?_⟩
  intro expr own part inside
  rcases heads.own expr own with ⟨malformed, none⟩ | ⟨_, parts⟩
  · left
    cases expr with
    | malformed extent message =>
        rw [List.mem_singleton.mp inside]
        exact ⟨malformed, none⟩
    | _ => cases malformed
  · exact .inr (parts part inside)

/-- A text of more bytes than characters, with a condition that goes on in a second line. -/
def twoLineCondition : String :=
  "é\x7b% if a[\r\n  b ].c %\x7dü\x7b\x7b f(d, e) \x7d\x7d\x7b% endif %\x7d"

/-- The expressions in that text: the condition and its key, the call and its arguments. -/
def twoLineExtents : List Extent :=
  [⟨⟨⟨1, 7⟩, ⟨2, 7⟩⟩, some "a[\r\n  b ].c"⟩, ⟨⟨⟨2, 2⟩, ⟨2, 3⟩⟩, some "b"⟩,
    ⟨⟨⟨2, 14⟩, ⟨2, 21⟩⟩, some "f(d, e)"⟩, ⟨⟨⟨2, 16⟩, ⟨2, 17⟩⟩, some "d"⟩,
    ⟨⟨⟨2, 19⟩, ⟨2, 20⟩⟩, some "e"⟩]

theorem parse_points_at_sources_twoLines : ∃ tokens,
    tokenize {} twoLineCondition = .ok tokens ∧
      (((parse tokens).template.walk.filterMap Node.expression?).flatMap Expr.walk).map
        Expr.extent = twoLineExtents ∧
      ∀ node ∈ (parse tokens).template.walk,
        (∃ first headStop last, node.Heads twoLineCondition.toList first headStop last) ∧
          ∀ expr ∈ node.expression?, ∀ part ∈ expr.walk,
            part.isMalformed = true ∧ part.raw = none ∨
              ∃ first last, part.Stands twoLineCondition.toList first last := by
  cases scanned : tokenize {} twoLineCondition with
  | error problem =>
      have scans : (tokenize {} twoLineCondition).isOk = true := by decide +kernel
      rw [scanned] at scans
      cases scans
  | ok tokens =>
      have extents : (tokenize {} twoLineCondition).toOption.map (fun tokens =>
          (((parse tokens).template.walk.filterMap Node.expression?).flatMap Expr.walk).map
            Expr.extent) = some twoLineExtents := by
        decide +kernel
      rw [scanned] at extents
      exact ⟨tokens, rfl, Option.some.inj extents, parse_points_at_sources scanned⟩

end Stencil
