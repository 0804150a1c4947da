import Stencil.Proofs.Expr.Standing
import Stencil.Proofs.Template.Headers
import Stencil.Proofs.Token.Tiling
/-!
# Nodes stand in the text of their template

A node begins with its first tag, which is its source and has its expression inside, and the nodes
inside of it stand behind this tag, one behind the other, before the node ends. Every node that is
made of a tag stands so, if the tag does and the nodes inside do, whether the tag is malformed or
not.
-/

namespace Stencil

open Text Reference

namespace Node

/-- The nodes directly inside of a node, in source order. -/
def inner : Node → List Node
  | choice _ _ body otherwise => body ++ otherwise.getD []
  | loop _ _ _ body | block _ _ body => body
  | text _ _ | assignment _ _ _ | output _ _ | malformed _ _ => []

theorem walkAll_eq_flatMap (nodes : List Node) : walkAll nodes = nodes.flatMap walk := by
  induction nodes with
  | nil => rfl
  | cons node rest ih => rw [walkAll, ih, List.flatMap_cons]

/-- A walk goes through a node and then through those directly inside of it. -/
theorem walk_eq_cons (node : Node) : node.walk = node :: node.inner.flatMap walk := by
  cases node with
  | choice extent condition body otherwise =>
      cases otherwise <;> simp [walk, inner, walkAll_eq_flatMap]
  | _ => simp [walk, inner, walkAll_eq_flatMap]

/-- That a node begins with a tag: its source is the tag, between two indices of the text, its
region goes on to a third, and its expression stands inside of the tag. -/
structure Heads (text : List Char) (first headStop : Nat) (node : Node) (last : Nat) : Prop where
  ordered : first ≤ headStop
  behind : headStop ≤ last
  inside : last ≤ text.length
  raw : node.extent.raw = some (String.ofList (text.extract first headStop))
  span : node.span = ⟨place text first, place text last⟩
  own : ∀ expr ∈ node.expression?, expr.Placed text first headStop

mutual

/-- That a node stands in a text between two indices: the nodes inside of it stand behind the tag
that it begins with. -/
inductive Stands (text : List Char) : Nat → Node → Nat → Prop where
  | node {first headStop last : Nat} {node : Node} (heads : node.Heads text first headStop last)
      (inside : StandAll text headStop node.inner last) : Stands text first node last

/-- That nodes stand in a text between two indices, each behind the one before it. -/
inductive StandAll (text : List Char) : Nat → List Node → Nat → Prop where
  | nil {first last : Nat} (ordered : first ≤ last) : StandAll text first [] last
  | cons {first start stop last : Nat} {node : Node} {others : List Node} (ahead : first ≤ start)
      (here : Stands text start node stop) (behind : StandAll text stop others last) :
      StandAll text first (node :: others) last

end

variable {text : List Char} {first start stop last : Nat} {node : Node} {nodes more : List Node}

theorem Stands.ordered (here : node.Stands text first last) :
    first ≤ last ∧ last ≤ text.length := by
  cases here with
  | node heads _ => exact ⟨Nat.le_trans heads.ordered heads.behind, heads.inside⟩

/-- Every node in and inside of a node that stands in a text stands in the same part of it. -/
theorem Stands.parts (here : node.Stands text first last) :
    ∀ part ∈ node.walk, ∃ start stop,
      first ≤ start ∧ part.Stands text start stop ∧ stop ≤ last := by
  -- The recursor, since the predicate is mutual with that of lists.
  refine @Stands.rec text
    (fun first node last _ => ∀ part ∈ node.walk, ∃ start stop,
      first ≤ start ∧ part.Stands text start stop ∧ stop ≤ last)
    (fun first nodes last _ => first ≤ last ∧ ∀ node ∈ nodes, ∀ part ∈ node.walk, ∃ start stop,
      first ≤ start ∧ part.Stands text start stop ∧ stop ≤ last)
    ?node ?nil ?cons first node last here
  case node =>
      intro first headStop last node heads inside ih part member
      rw [walk_eq_cons, List.mem_cons, List.mem_flatMap] at member
      rcases member with same | ⟨child, among, deeper⟩
      · rw [same]
        exact ⟨first, last, Nat.le_refl _, .node heads inside, Nat.le_refl _⟩
      · rcases ih.2 child among part deeper with ⟨start, stop, ahead, stands, behind⟩
        exact ⟨start, stop, Nat.le_trans heads.ordered ahead, stands, behind⟩
  case nil =>
      intro first last ordered
      exact ⟨ordered, fun node member => nomatch member⟩
  case cons =>
      intro first start stop last node others ahead here _ early late
      have ordered := here.ordered
      refine ⟨by omega, ?_⟩
      intro other member part inside
      rcases List.mem_cons.mp member with rfl | among
      · rcases early part inside with ⟨_, _, _, stands, _⟩
        exact ⟨_, _, by omega, stands, by omega⟩
      · rcases late.2 other among part inside with ⟨_, _, _, stands, _⟩
        exact ⟨_, _, by omega, stands, by omega⟩

namespace StandAll

theorem ordered (all : StandAll text first nodes last) : first ≤ last := by
  induction nodes generalizing first with
  | nil =>
      cases all with
      | nil ordered => exact ordered
  | cons node others ih =>
      cases all with
      | cons ahead here behind =>
          exact Nat.le_trans ahead (Nat.le_trans here.ordered.1 (ih behind))

theorem before (all : StandAll text start nodes last) (ahead : first ≤ start) :
    StandAll text first nodes last := by
  cases all with
  | nil ordered => exact .nil (Nat.le_trans ahead ordered)
  | cons between here behind => exact .cons (Nat.le_trans ahead between) here behind

theorem append (early : StandAll text first nodes stop) (late : StandAll text stop more last) :
    StandAll text first (nodes ++ more) last := by
  induction nodes generalizing first with
  | nil =>
      cases early with
      | nil ordered => exact late.before ordered
  | cons node others ih =>
      cases early with
      | cons ahead here behind => exact .cons ahead here (ih behind)

theorem behind (all : StandAll text first nodes stop) (later : stop ≤ last) :
    StandAll text first nodes last := by
  have none := all.append (.nil later)
  rwa [List.append_nil] at none

theorem concat (all : StandAll text first nodes start) (ahead : start ≤ stop)
    (here : node.Stands text stop last) : StandAll text first (nodes ++ [node]) last :=
  all.append (.cons ahead here (.nil (Nat.le_refl _)))

/-- Each of the nodes stands between the two indices. -/
theorem mem (all : StandAll text first nodes last) :
    ∀ node ∈ nodes, ∃ start stop, first ≤ start ∧ node.Stands text start stop ∧ stop ≤ last := by
  intro node member
  induction nodes generalizing first with
  | nil => cases member
  | cons other others ih =>
      cases all with
      | cons ahead here behind =>
          rcases List.mem_cons.mp member with rfl | among
          · exact ⟨_, _, ahead, here, behind.ordered⟩
          · rcases ih behind among with ⟨start, stop, later, stands, sooner⟩
            have ordered := here.ordered
            exact ⟨start, stop, by omega, stands, sooner⟩

theorem parts (all : StandAll text first nodes last) :
    ∀ part ∈ walkAll nodes, ∃ start stop,
      first ≤ start ∧ part.Stands text start stop ∧ stop ≤ last := by
  intro part member
  rw [walkAll_eq_flatMap, List.mem_flatMap] at member
  rcases member with ⟨node, among, inside⟩
  rcases all.mem node among with ⟨first, last, ahead, here, behind⟩
  rcases here.parts part inside with ⟨start, stop, later, stands, sooner⟩
  exact ⟨start, stop, by omega, stands, by omega⟩

/-- Every node in and inside of nodes that stand in a text begins with a tag there. -/
theorem walk (all : StandAll text first nodes last) :
    ∀ part ∈ walkAll nodes, ∃ start headStop stop, part.Heads text start headStop stop := by
  intro part member
  rcases all.parts part member with ⟨start, stop, _, stands, _⟩
  cases stands with
  | node heads _ => exact ⟨start, _, stop, heads⟩

end StandAll

end Node

/-- An expression that is read from a rest of the body of a tag stands in the tag. -/
theorem Token.Stands.placed_of_parse {text source : List Char} {first last : Nat} {token : Token}
    {expr : Expr} (here : token.Stands text first last) (suffix : source <:+ token.body.toList)
    (read : Expr.Parser.parse (token.bodyStart.advanced
      (token.body.toList.take (token.body.toList.length - source.length))) source = .ok expr) :
    expr.Placed text first last := by
  rcases here with ⟨bodyFirst, bodyLast, after, ordered, before, inside, same⟩
  have body : token.body.toList = text.extract bodyFirst bodyLast := by
    rw [same, Reference.token, String.toList_ofList]
  have bodyStart : token.bodyStart = place text bodyFirst := congrArg Token.bodyStart same
  have bodyInside := Nat.le_trans before inside
  rw [body] at suffix read
  rcases Expr.Parser.eq_extract_of_suffix ordered bodyInside suffix with ⟨ahead, behind, part⟩
  rw [bodyStart, Expr.Parser.advanced_rest ordered bodyInside suffix] at read
  generalize Expr.Parser.indexOf bodyLast source = index at ahead behind part read
  rw [part] at read
  have placed := Expr.Parser.placed_of_parse behind bodyInside read
  exact placed.widen (Nat.le_trans after ahead) before

namespace Statement

/-- That a statement tag stands in a text between two indices. -/
structure Stands (text : List Char) (first : Nat) (head : Statement) (last : Nat) : Prop where
  token : head.token.Stands text first last
  split : ofToken head.token = head

variable {text source : List Char} {first headStop last : Nat} {head : Statement}

theorem rest_suffix (token : Token) : (ofToken token).rest <:+ token.body.toList :=
  (List.dropWhile_suffix _).trans (List.dropWhile_suffix _)

theorem LoopHeader.suffix {rest : List Char} {name : Identifier}
    (header : LoopHeader rest name source) : source <:+ rest := by
  cases header with
  | @intro before between space name more =>
      refine ⟨before ++ (name.text ++ (between ++ ['i', 'n'])), ?_⟩
      simp

theorem AssignmentHeader.suffix {rest : List Char} {name : Identifier}
    (header : AssignmentHeader rest name source) : source <:+ rest := by
  cases header with
  | @intro before between value name =>
      refine ⟨before ++ (name.text ++ (between ++ ['='])), ?_⟩
      simp

namespace Stands

/-- A node that begins with a tag stands in the text if its expression stands in the tag and the
nodes inside of it stand behind it. -/
theorem node {node : Node} (here : head.Stands text first headStop)
    (extent : node.extent = head.extentTo (place text last))
    (own : ∀ expr ∈ node.expression?, expr.Placed text first headStop)
    (inner : Node.StandAll text headStop node.inner last) (inside : last ≤ text.length) :
    node.Stands text first last := by
  refine .node ⟨here.token.ordered.1, inner.ordered, inside, ?_, ?_, own⟩ inner
  · rw [extent, Statement.extentTo, here.token.content]
  · rw [Node.span, extent, Statement.extentTo, here.token.start]

/-- An expression that is required stands in its tag, if it is one. -/
theorem placed_requiredExpression (here : head.Stands text first last)
    (suffix : source <:+ head.rest) :
    (Template.Parser.requiredExpression head source).1.Placed text first last := by
  have rest := rest_suffix head.token
  rw [here.split] at rest
  unfold Template.Parser.requiredExpression
  split
  · exact .inl ⟨rfl, rfl⟩
  · split
    · rename_i expr read
      exact here.token.placed_of_parse (suffix.trans rest) read
    · exact .inl ⟨rfl, rfl⟩

end Stands

end Statement

namespace Template.Parser

variable {text : List Char} {first headStop last : Nat} {head : Statement} {node : Node}
  {body : List Node} {token : Token}

theorem stands_malformedNode (here : head.Stands text first headStop) (ordered : headStop ≤ last)
    (inside : last ≤ text.length) (problem : Problem) :
    (malformedNode problem head (place text last)).1.Stands text first last := by
  refine here.node rfl ?_ (.nil ordered) inside
  intro expr member
  cases member

theorem stands_loopNode (here : head.Stands text first headStop)
    (inner : Node.StandAll text headStop body last) (inside : last ≤ text.length) :
    (loopNode head body (place text last)).1.Stands text first last := by
  unfold loopNode
  split
  · exact stands_malformedNode here inner.ordered inside _
  · rename_i iterator source read
    rcases Statement.loopHead?_eq_some_iff.mp read with ⟨name, _, header⟩
    refine here.node rfl ?_ inner inside
    intro expr member
    cases member
    exact here.placed_requiredExpression header.suffix

theorem stands_blockNode (here : head.Stands text first headStop)
    (inner : Node.StandAll text headStop body last) (inside : last ≤ text.length)
    (names : List String) :
    (blockNode names head body (place text last)).1.Stands text first last := by
  unfold blockNode
  split
  · exact stands_malformedNode here inner.ordered inside _
  · refine here.node rfl ?_ inner inside
    intro expr member
    cases member

theorem stands_assignmentNode (here : head.Stands text first last) :
    (assignmentNode head).1.Stands text first last := by
  have ordered := here.token.ordered
  unfold assignmentNode
  rw [here.token.stop]
  split
  · exact stands_malformedNode here (Nat.le_refl _) ordered.2 _
  · rename_i name source read
    rcases Statement.assignmentHead?_eq_some_iff.mp read with ⟨name, _, header⟩
    refine here.node rfl ?_ (.nil (Nat.le_refl _)) ordered.2
    intro expr member
    cases member
    exact here.placed_requiredExpression header.suffix

/-- A node that is one token stands where the token stands. -/
theorem stands_token (here : token.Stands text first last)
    (extent : node.extent = ⟨token.span, some token.content⟩)
    (own : ∀ expr ∈ node.expression?, expr.Placed text first last) (inner : node.inner = []) :
    node.Stands text first last := by
  have ordered := here.ordered
  have heads : node.Heads text first last last := by
    refine ⟨ordered.1, Nat.le_refl _, ordered.2, ?_, ?_, own⟩
    · rw [extent, here.content]
    · rw [Node.span, extent, Token.span, here.start, here.stop]
  have nothing : Node.StandAll text last node.inner last := by
    rw [inner]
    exact .nil (Nat.le_refl _)
  exact .node heads nothing

theorem stands_outputNode (here : token.Stands text first last) :
    (outputNode token).1.Stands text first last := by
  unfold outputNode
  dsimp only
  split
  · rename_i expr read
    refine stands_token here rfl ?_ rfl
    intro own member
    cases member
    refine here.placed_of_parse (List.suffix_refl _) ?_
    rwa [Nat.sub_self, List.take_zero, Position.advanced_nil]
  · refine stands_token here rfl ?_ rfl
    intro own member
    cases member

end Template.Parser

end Stencil
