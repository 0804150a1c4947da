import Stencil.Proofs.Expr.Cutting
import Stencil.Proofs.Expr.Reading
import Stencil.Proofs.Tree.Ways
/-!
# How deep an expression gets

Operators, groupings and calls are what the limit on nesting counts. The readers hold a level while
they read further links of a chain, but give it back when the chain ends, and the next looser chain
goes on from the tree of the first with all levels again. So does a chain of method calls. Hence the
way to a leaf may meet more nodes than there are levels: as many as there are levels left for each
of the six kinds of chains and for method calls, wherever a new expression begins. `groupReach` adds
this up, level by level.
-/

namespace Stencil

namespace Expr

/-- Whether a node is of a sort that the limit on nesting counts. -/
def nests : Expr → Bool
  | call _ _ _ | binary _ _ _ _ | unary _ _ _ | paren _ _ => true
  | _ => false

mutual

/-- The most nodes that nest on a way from an expression to a leaf. -/
def height : Expr → Nat
  | literal _ _ | malformed _ _ => 0
  | access _ _ path => heightPath path
  | filter _ input filters => max input.height (heightFilters filters)
  | call _ _ args => heightAll args + 1
  | binary _ _ left right => max left.height right.height + 1
  | unary _ _ operand => operand.height + 1
  | array _ items => heightAll items
  | object _ entries => heightEntries entries
  | paren _ inner => inner.height + 1
  | ternary _ condition thenBranch elseBranch =>
    max condition.height (max thenBranch.height elseBranch.height)

def heightAll : List Expr → Nat
  | [] => 0
  | expr :: rest => max expr.height (heightAll rest)

def heightEntries : List (String × Expr) → Nat
  | [] => 0
  | (_, expr) :: rest => max expr.height (heightEntries rest)

def heightPath : List (PathStep Expr) → Nat
  | [] => 0
  | .property _ :: rest => heightPath rest
  | .index key :: rest => max key.height (heightPath rest)

def heightFilters : List (FilterCall Expr) → Nat
  | [] => 0
  | ⟨_, args, _⟩ :: rest => max (heightAll args) (heightFilters rest)

end

theorem heightAll_eq (exprs : List Expr) : heightAll exprs = highest height exprs := by
  induction exprs with
  | nil => rfl
  | cons expr rest ih => rw [heightAll, ih, highest]

theorem heightEntries_eq (entries : List (String × Expr)) :
    heightEntries entries = highest height (entries.map Prod.snd) := by
  induction entries with
  | nil => rfl
  | cons entry rest ih => rw [heightEntries, ih, List.map_cons, highest]

theorem heightPath_eq (path : List (PathStep Expr)) :
    heightPath path = highest height (PathStep.keys path) := by
  induction path with
  | nil => rfl
  | cons step rest ih =>
      cases step with
      | property name => exact ih
      | index key =>
          rw [heightPath, ih]
          rfl

theorem heightFilters_eq (filters : List (FilterCall Expr)) :
    heightFilters filters = highest height (filters.flatMap FilterCall.args) := by
  induction filters with
  | nil => rfl
  | cons call rest ih =>
      rw [heightFilters, ih, List.flatMap_cons, highest_append, heightAll_eq]

theorem isHeight : IsHeight children nests height := by
  refine .of_highest fun expr => ?_
  cases expr <;>
    simp [height, highest, children, nests, heightAll_eq, heightEntries_eq, heightPath_eq,
      heightFilters_eq]

/-- What is around lower expressions is at most one higher. -/
theorem height_lt_succ {bound : Nat} (positive : 0 < bound) {expr : Expr}
    (parts : ∀ child ∈ expr.children, child.height < bound) : expr.height < bound + 1 := by
  have lower := isHeight.lt_of_inner positive parts
  have one := expr.nests.toNat_le
  omega

/-- What is around lower expressions and does not nest is no higher. -/
theorem height_lt_of_plain {bound : Nat} (positive : 0 < bound) {expr : Expr}
    (plain : expr.nests = false) (parts : ∀ child ∈ expr.children, child.height < bound) :
    expr.height < bound := by
  have lower := isHeight.lt_of_inner positive parts
  rwa [plain] at lower

end Expr

namespace Expr.Parser

open Lexeme

variable {source : Source} {text start rest : List Char} {expr : Expr}

/-- That all that a reader reads is good. -/
def Gives {α : Type} (good : α → Prop) (reader : Reader α) : Prop :=
  ∀ {text value rest}, reader text = .ok (value, rest) → good value

section Parts

/-! What is directly inside of the parts of an expression is all read by one reader. -/

variable {good : Expr → Prop} {pipeline : Reader Expr} (gives : Gives good pipeline)

theorem ItemsRead.each {α : Type} {fit : α → Prop} {item : Reader α} {closing : String}
    {items : List α} (form : ItemsRead item closing text items rest) (gives : Gives fit item) :
    ∀ value ∈ items, fit value := by
  induction form with
  | none closed => exact List.forall_mem_nil _
  | last read closed => exact List.forall_mem_singleton.mpr (gives read)
  | more read comma _ ih => exact List.forall_mem_cons.mpr ⟨gives read, ih⟩

include gives

theorem entry_gives : Gives (fun pair => good pair.2) (entry pipeline) := by
  intro text pair rest read
  rcases entry_eq_ok.mp read with ⟨_, _, _, _, readValue⟩
  exact gives readValue

theorem PathRead.each {path : List (PathStep Expr)} (form : PathRead pipeline text path rest) :
    ∀ key ∈ PathStep.keys path, good key := by
  induction form with
  | none => exact List.forall_mem_nil _
  | property _ _ ih => exact ih
  | index read _ _ ih => exact List.forall_mem_cons.mpr ⟨gives read, ih⟩

theorem filterCall_gives :
    Gives (fun call => ∀ arg ∈ call.args, good arg) (filterCall source pipeline) := by
  intro text call rest read
  cases filterRead_of_filterCall read with
  | bare named => exact List.forall_mem_nil _
  | called named bracket readArgs => exact readArgs.each gives

theorem FiltersRead.each {calls : List (FilterCall Expr)}
    (form : FiltersRead source pipeline text calls rest) :
    ∀ arg ∈ calls.flatMap FilterCall.args, good arg := by
  induction form with
  | none => exact List.forall_mem_nil _
  | more _ readCall _ ih =>
      exact List.forall_mem_append.mpr ⟨filterCall_gives gives readCall, ih⟩

theorem NamedRead.each (form : NamedRead source pipeline start expr rest) :
    ∀ child ∈ expr.children, good child := by
  cases form with
  | constant named stands => exact List.forall_mem_nil _
  | call named free bracket readArgs => exact readArgs.each gives
  | access named free readPath => exact readPath.each gives

theorem PrimaryRead.each (form : PrimaryRead source pipeline start expr rest) :
    ∀ child ∈ expr.children, good child := by
  cases form with
  | grouping readInner closed => exact List.forall_mem_singleton.mpr (gives readInner)
  | array readItems => exact readItems.each gives
  | object readEntries => exact List.forall_mem_map.mpr (readEntries.each (entry_gives gives))
  | text quoted => exact List.forall_mem_nil _
  | number digits => exact List.forall_mem_nil _
  | named form => exact form.each gives

end Parts

namespace Grammar

/-- What stays higher than every whole expression that is read with some levels left. Each level
adds one node that takes it and, for method calls and for every kind of chain, as many nodes as
there are levels below. -/
def groupReach : Nat → Nat
  | 0 => 1
  | levels + 1 => groupReach levels + 7 * levels + 1

theorem groupReach_positive (levels : Nat) : 0 < groupReach levels := by
  cases levels <;> simp [groupReach]

/-- What stays higher than every operand of the given levels of operators. -/
def operandReach (levels : Nat) (kinds : List Level) : Nat :=
  groupReach levels + (kinds.length + 1) * levels + 1

theorem operandReach_cons (levels : Nat) (kind : Level) (tighter : List Level) :
    operandReach levels (kind :: tighter) = operandReach levels tighter + levels := by
  simp only [operandReach, List.length_cons, Nat.add_mul, Nat.one_mul]
  omega

theorem operandReach_all (levels : Nat) :
    operandReach levels Level.all = groupReach (levels + 1) := rfl

theorem groupReach_le_succ (levels : Nat) : groupReach levels ≤ groupReach (levels + 1) := by
  rw [groupReach]
  omega

theorem operandReach_lt_succ (levels : Nat) (kinds : List Level) :
    operandReach levels kinds < operandReach (levels + 1) kinds := by
  have grows := groupReach_le_succ levels
  simp only [operandReach, Nat.mul_succ]
  omega

/-- That the readers with some levels left give expressions of bounded height. A chain grows on
what has been read, by one node for each level that is left. -/
structure Bounded (grammar : Grammar) (levels : Nat) : Prop where
  pipeline : Gives (fun expr => expr.height < groupReach levels) grammar.pipeline
  ternary : Gives (fun expr => expr.height < groupReach (levels + 1)) grammar.ternary
  operand : ∀ kinds, Gives (fun expr => expr.height < operandReach levels kinds)
    (grammar.operand kinds)
  chain : ∀ {kind tighter start left bound}, left.height < bound →
    operandReach levels tighter ≤ bound →
      Gives (fun expr => expr.height < bound + levels) (grammar.chain kind tighter start left)
  unary : Gives (fun expr => expr.height < operandReach levels []) grammar.unary
  methods : ∀ {start receiver bound}, receiver.height < bound → groupReach levels ≤ bound →
    Gives (fun expr => expr.height < bound + levels) (grammar.methods start receiver)

section Levels

variable {levels bound : Nat} {inner : Option Grammar}
  (bounded : ∀ grammar ∈ inner, ∃ fewer, levels = fewer + 1 ∧ grammar.Bounded fewer)

include bounded

theorem readPipeline_bounded :
    Gives (fun expr => expr.height < groupReach levels) (readPipeline source inner) := by
  intro text expr rest read
  cases pipelineRead_of_readPipeline read with
  | plain member readInput =>
      rcases bounded _ member with ⟨fewer, rfl, within⟩
      exact within.ternary readInput
  | filtered member readInput readCalls =>
      rcases bounded _ member with ⟨fewer, rfl, within⟩
      have first := within.ternary readInput
      refine height_lt_of_plain (groupReach_positive _) rfl ?_
      refine List.forall_mem_cons.mpr ⟨first, fun arg among => ?_⟩
      have argument := readCalls.each within.pipeline arg among
      rw [groupReach]
      omega

theorem readMethods_bounded {receiver : Expr} (low : receiver.height < bound)
    (enough : groupReach levels ≤ bound) :
    Gives (fun expr => expr.height < bound + levels) (readMethods source inner start receiver) := by
  intro text expr rest read
  cases methodsRead_of_readMethods read with
  | none => omega
  | @call _ _ afterArgs _ name args _ _ member readArgs later =>
      rcases bounded _ member with ⟨fewer, rfl, within⟩
      have nested := groupReach_le_succ fewer
      have call : (Expr.call (source.extent start afterArgs) name (receiver :: args)).height <
          bound + 1 := by
        refine height_lt_succ (by omega) ?_
        refine List.forall_mem_cons.mpr ⟨low, fun arg among => ?_⟩
        have argument := readArgs.each within.pipeline arg among
        omega
      have more := within.methods call (by omega) later
      omega

theorem readUnary_bounded :
    Gives (fun expr => expr.height < operandReach levels []) (readUnary source inner) := by
  intro text expr rest read
  cases unaryRead_of_readUnary read with
  | sign sign member readOperand =>
      rcases bounded _ member with ⟨fewer, rfl, within⟩
      have inside := within.unary readOperand
      have nested := operandReach_lt_succ fewer []
      refine Nat.lt_of_lt_of_le (height_lt_succ (Nat.zero_lt_of_lt inside) ?_) nested
      exact List.forall_mem_singleton.mpr inside
  | primary readFirst later =>
      have parts := (primaryRead_of_primary readFirst).each (readPipeline_bounded bounded)
      have low := height_lt_succ (groupReach_positive levels) parts
      have chain := readMethods_bounded bounded low (Nat.le_succ _) later
      simp only [operandReach, List.length_nil]
      omega

theorem readChain_bounded {kind : Level} {tighter : List Level} {left : Expr}
    (low : left.height < bound) (enough : operandReach levels tighter ≤ bound) :
    Gives (fun expr => expr.height < bound + levels)
      (readChain source inner kind tighter start left) := by
  intro text expr rest read
  cases chainRead_of_readChain read with
  | none => omega
  | @link _ _ afterRight _ op right _ _ member readRight later =>
      rcases bounded _ member with ⟨fewer, rfl, within⟩
      have operand := within.operand tighter readRight
      have nested := operandReach_lt_succ fewer tighter
      have link : (Expr.binary (source.extent start afterRight) op left right).height <
          bound + 1 := by
        refine height_lt_succ (by omega) ?_
        refine List.forall_mem_cons.mpr ⟨low, List.forall_mem_singleton.mpr ?_⟩
        omega
      have more := within.chain link (by omega) later
      omega

theorem readOperand_bounded (kinds : List Level) :
    Gives (fun expr => expr.height < operandReach levels kinds)
      (readOperand source inner kinds) := by
  intro text expr rest read
  induction kinds generalizing text expr rest with
  | nil => exact readUnary_bounded bounded read
  | cons kind tighter ih =>
      rcases readOperand_cons_eq_ok.mp read with ⟨left, afterLeft, readLeft, later⟩
      rw [operandReach_cons]
      exact readChain_bounded bounded (ih readLeft) (Nat.le_refl _) later

theorem readTernary_bounded :
    Gives (fun expr => expr.height < groupReach (levels + 1)) (readTernary source inner) := by
  intro text expr rest read
  cases ternaryRead_of_readTernary read with
  | plain readCondition => exact readOperand_bounded bounded Level.all readCondition
  | branches readCondition mark readThen colon member readElse =>
      have first := readOperand_bounded bounded Level.all readCondition
      rw [operandReach_all] at first
      rcases bounded _ member with ⟨fewer, rfl, within⟩
      have second := readPipeline_bounded bounded readThen
      have third := within.ternary readElse
      have nested := groupReach_le_succ (fewer + 1)
      refine height_lt_of_plain (groupReach_positive _) rfl ?_
      simp only [children, List.forall_mem_cons, List.not_mem_nil, false_implies, implies_true,
        and_true]
      omega

theorem build_bounded : (build source inner).Bounded levels where
  pipeline := readPipeline_bounded bounded
  ternary := readTernary_bounded bounded
  operand := readOperand_bounded bounded
  chain := readChain_bounded bounded
  unary := readUnary_bounded bounded
  methods := readMethods_bounded bounded

end Levels

theorem ofLevels_bounded (source : Source) (levels : Nat) :
    (ofLevels source levels).Bounded levels := by
  induction levels with
  | zero => exact build_bounded fun grammar member => nomatch member
  | succ levels ih =>
      refine build_bounded fun grammar member => ⟨levels, rfl, ?_⟩
      cases member
      exact ih

end Grammar

theorem parse_bounded {origin : Position} (read : parse origin text = .ok expr) :
    expr.height < Grammar.groupReach maxLevels := by
  rcases pipeline_of_parse read with ⟨after, readPipeline, _⟩
  exact (Grammar.ofLevels_bounded _ _).pipeline readPipeline

end Expr.Parser

/-- A product of 34 factors and 32 summands after it. -/
def Expr.longSum : String :=
  String.ofList ('a' :: (List.replicate 33 ['*', 'a'] ++ List.replicate 32 ['+', 'a']).flatten)

/-- The chain of products has given its levels back where the chain of sums takes them again. -/
theorem parseExpression_longSum : ∃ expr,
    parseExpression Expr.longSum Position.start = .ok expr ∧ expr.height = 65 := by
  have measured : (parseExpression Expr.longSum Position.start).toOption.map Expr.height =
      some 65 := by decide +kernel
  cases read : parseExpression Expr.longSum Position.start with
  | error problem =>
      rw [read] at measured
      cases measured
  | ok expr =>
      rw [read] at measured
      exact ⟨expr, rfl, Option.some.inj measured⟩

/-- No way to a leaf of an expression that is read meets more than 14176 operators, groupings and
calls: that is the bound for the 64 levels of nesting. -/
theorem parseExpression_nesting_bounded {text : String} {origin : Position} {expr : Expr}
    (read : parseExpression text origin = .ok expr) {way : List Expr}
    (isWay : Way Expr.children expr way) : way.countP Expr.nests ≤ 14176 := by
  have bound := Expr.Parser.parse_bounded read
  have value : Expr.Parser.Grammar.groupReach Expr.maxLevels = 14177 := by decide +kernel
  have count := Expr.isHeight.countP_le isWay
  omega

/-- The way through all operators of a long sum. -/
theorem parseExpression_nesting_bounded_longSum : ∃ expr way,
    parseExpression Expr.longSum Position.start = .ok expr ∧ Way Expr.children expr way ∧
      way.countP Expr.nests = 65 ∧ way.countP Expr.nests ≤ 14176 := by
  rcases parseExpression_longSum with ⟨expr, read, height⟩
  rcases Expr.isHeight.exists_way Expr.walk_eq_cons expr with ⟨way, isWay, count⟩
  exact ⟨expr, way, read, isWay, count.trans height, parseExpression_nesting_bounded read isWay⟩

/-- There are ways that meet more operators, groupings and calls than there are levels. -/
theorem parseExpression_exceeds_maxLevels : ∃ text origin expr way,
    parseExpression text origin = .ok expr ∧ Way Expr.children expr way ∧
      Expr.maxLevels < way.countP Expr.nests := by
  rcases parseExpression_longSum with ⟨expr, read, height⟩
  rcases Expr.isHeight.exists_way Expr.walk_eq_cons expr with ⟨way, isWay, count⟩
  refine ⟨_, _, expr, way, read, isWay, ?_⟩
  rw [count, height]
  decide

end Stencil
