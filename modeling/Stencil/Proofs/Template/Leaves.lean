import Stencil.Proofs.Template.Capping
import Stencil.Proofs.Template.Mirroring
/-!
# Leaves of a template

A leaf is a tag that neither opens, continues nor closes a construct. Whatever is wrong with it, it
makes one node and notices its problems at once, and they lie in its region, as far as its body
does.
-/

namespace Stencil

/-- The keywords of tags that open, continue or close a construct. -/
def Statement.structural : List String :=
  ["if", "elif", "else", "endif", "for", "endfor", "block", "endblock"]

/-- Whether a token is a leaf: an expression, or a statement that is no part of a construct. -/
def Token.isLeaf (token : Token) : Bool :=
  match token.tag? with
  | some .expression => true
  | some .statement => !Statement.structural.contains (Statement.ofToken token).keyword
  | some .comment | none => false

/-- That the body of a token lies in its region. -/
structure Token.HoldsBody (token : Token) : Prop where
  before : token.start ≤ token.bodyStart
  behind : token.bodyStart.advanced token.body.toList ≤ token.stop

instance (span around : Span) : Decidable (span.Within around) :=
  decidable_of_iff (around.start ≤ span.start ∧ span.start ≤ span.stop ∧ span.stop ≤ around.stop)
    ⟨fun ⟨start, forward, stop⟩ => ⟨start, forward, stop⟩,
      fun ⟨start, forward, stop⟩ => ⟨start, forward, stop⟩⟩

theorem Span.Within.widen {span around wider : Span} (within : span.Within around)
    (before : wider.start ≤ around.start) (behind : around.stop ≤ wider.stop) :
    span.Within wider :=
  ⟨Position.le_trans before within.start, within.forward, Position.le_trans within.stop behind⟩

namespace Template.Parser

/-- The node of a leaf, with what is noticed in it. -/
def leafNode (token : Token) : Noticing Node :=
  let statement := Statement.ofToken token
  if token.tag? = some .expression then outputNode token
  else if statement.keyword = "set" then assignmentNode statement
  else if statement.keyword.isEmpty then malformedNode .emptyStatement statement token.stop
  else malformedNode (.unknownStatement statement.keyword) statement token.stop

section Making

variable {state : State} {token : Token}

theorem isLeaf_cases (leaf : token.isLeaf = true) :
    token.tag? = some .expression ∨ token.tag? = some .statement ∧
      (Statement.ofToken token).keyword ∉ Statement.structural := by
  unfold Token.isLeaf at leaf
  split at leaf
  · rename_i tag
    exact .inl tag
  · rename_i tag
    exact .inr ⟨tag, by simpa using leaf⟩
  · cases leaf
  · cases leaf

/-- A statement that is a leaf is no part of a construct, whatever is open. -/
theorem takeStatement_of_leaf {head : Statement} (leaf : head.keyword ∉ Statement.structural) :
    state.takeStatement head = state.takeOther head := by
  have part : ∀ word ∈ ["elif", "else", "endif", "endfor", "endblock"],
      word ∈ Statement.structural := by decide
  exact takeStatement_of_notMem fun found => leaf (part _ found)

/-- A leaf adds its node wherever it stands, with its problems. -/
theorem take_of_isLeaf (leaf : token.isLeaf = true) (reading : state.skip = none) :
    state.take token = state.attach (leafNode token) := by
  rcases isLeaf_cases leaf with tag | ⟨tag, plain⟩
  · simp only [State.take, reading, tag, leafNode, if_true]
  · have apart (word : String) (part : word ∈ Statement.structural) :
        (Statement.ofToken token).keyword ≠ word := (ne_of_mem_of_not_mem part plain).symm
    have known : ∀ word ∈ keywords, word = "set" ∨ word ∈ Statement.structural := by decide
    simp only [State.take, reading, tag, takeStatement_of_leaf plain, State.takeOther, leafNode,
      if_neg (apart "if" (by decide)), if_neg (apart "for" (by decide)),
      if_neg (apart "block" (by decide)), Option.some.injEq, reduceCtorEq, if_false]
    by_cases set : (Statement.ofToken token).keyword = "set"
    · simp only [set, if_true]
    · have unknown : ¬keywords.contains (Statement.ofToken token).keyword = true := by
        intro found
        exact (known _ (List.contains_iff_mem.mp found)).elim set plain
      rw [if_neg set, if_neg set, if_neg unknown]
      split <;> rfl

theorem span_leafNode (token : Token) : (leafNode token).1.span = token.span := by
  unfold leafNode
  dsimp only
  split
  · unfold outputNode
    dsimp only
    split <;> rfl
  · split
    · unfold assignmentNode
      split <;> rfl
    · split <;> rfl

/-- A leaf neither opens nor closes a block in what is passed over. -/
theorem skipDepth_of_isLeaf (leaf : token.isLeaf = true) (depth : Nat) :
    skipDepth depth token = depth := by
  rcases isLeaf_cases leaf with tag | ⟨_, plain⟩
  · refine skipDepth_plain ?_
    rw [tag]
    decide
  · have opening : ∀ word ∈ ["if", "for", "block"], word ∈ Statement.structural := by decide
    have closing : ∀ word ∈ ["endif", "endfor", "endblock"], word ∈ Statement.structural := by
      decide
    simp only [skipDepth]
    rw [if_neg fun found => plain (opening _ (List.contains_iff_mem.mp found)),
      if_neg fun found => plain (closing _ (List.contains_iff_mem.mp found)), ite_self]

end Making

section Problems

variable {token : Token} {error : ParseError} {origin : Position} {text : List Char}

/-- A problem of an expression lies in its source. -/
theorem within_of_parse (failed : Expr.Parser.parse origin text = .error error) :
    error.span.Within ⟨origin, origin.advanced text⟩ := by
  obtain ⟨rest, _, front, rfl, region⟩ := Expr.Parser.exact_of_parse_error failed
  rw [region, List.append_nil, Position.advanced_append]
  refine ⟨Position.le_advanced _ _, Position.le_advanced _ _, ?_⟩
  exact Position.le_advanced _ []

variable (holds : token.HoldsBody)

include holds

theorem within_token : token.span.Within token.span where
  start := Position.le_advanced _ []
  forward := Position.le_trans holds.before
    (Position.le_trans (Position.le_advanced _ _) holds.behind)
  stop := Position.le_advanced _ []

theorem within_singleton (problem : Problem) :
    ∀ error ∈ [(⟨problem, token.span⟩ : ParseError)], error.span.Within token.span :=
  List.forall_mem_singleton.mpr (within_token holds)

/-- A problem of an expression that is required lies in the tag. -/
theorem within_requiredExpression {source : List Char} (suffix : source <:+ token.body.toList) :
    ∀ error ∈ (requiredExpression (Statement.ofToken token) source).2,
      error.span.Within token.span := by
  unfold requiredExpression
  split
  · exact within_singleton holds _
  · split
    · exact fun _ member => nomatch member
    · rename_i failed
      rw [List.forall_mem_singleton]
      rcases suffix with ⟨front, whole⟩
      have origin : (Statement.ofToken token).originOf source = token.bodyStart.advanced front := by
        simp [Statement.originOf, Statement.ofToken, ← whole]
      have within := within_of_parse failed
      rw [origin, ← Position.advanced_append, whole] at within
      exact within.widen (Position.le_trans holds.before (Position.le_advanced _ _)) holds.behind

/-- What is noticed in a leaf lies in its region. -/
theorem within_leafNode : ∀ error ∈ (leafNode token).2, error.span.Within token.span := by
  unfold leafNode
  dsimp only
  split
  · unfold outputNode
    dsimp only
    split
    · exact fun _ member => nomatch member
    · rename_i failed
      rw [List.forall_mem_singleton]
      exact (within_of_parse failed).widen holds.before holds.behind
  · split
    · unfold assignmentNode
      split
      · exact within_singleton holds _
      · rename_i name source read
        rcases Statement.assignmentHead?_eq_some_iff.mp read with ⟨_, _, header⟩
        have suffix := header.suffix.trans (Statement.rest_suffix token)
        refine List.forall_mem_append.mpr ⟨?_, within_requiredExpression holds suffix⟩
        unfold bindingErrors
        split
        · exact within_singleton holds _
        · exact fun _ member => nomatch member
    · split <;> exact within_singleton holds _

end Problems

end Template.Parser

section Texts

open Reference

theorem Token.Stands.holdsBody {text : List Char} {first last : Nat} {token : Token}
    (here : token.Stands text first last) : token.HoldsBody := by
  rcases here with ⟨bodyFirst, bodyLast, before, ordered, behind, _, same⟩
  rw [same]
  refine ⟨place_le before, ?_⟩
  rw [Reference.token, String.toList_ofList, place_advanced text ordered]
  exact place_le behind

/-- The tokens of a text hold their bodies. -/
theorem holdsBody_of_tokenize {delimiters : Delimiters} {text : String} {tokens : List Token}
    (read : tokenize delimiters text = .ok tokens) : ∀ token ∈ tokens, token.HoldsBody := by
  have tiling := (tiled_of_tokenize read).tiles
  generalize text.toList.length = last, 0 = first at tiling
  clear read
  induction tiling with
  | nil => exact fun _ member => nomatch member
  | cons here _ ih => exact List.forall_mem_cons.mpr ⟨here.holdsBody, ih⟩

end Texts

end Stencil
