import Stencil.Proofs.Expr.Depth
import Stencil.Proofs.Expr.ReadingBack
/-!
# Expressions as deep as any

The bound on the height of expressions is reached. `deepest` writes, for every number of levels, a
text that has all of it: an innermost call, then level by level a grouping of the text so far, with
as many method calls and links of every kind of chain behind it as there are levels.
-/

namespace Stencil

open Text

namespace Expr.Parser

open Lexeme Grammar

variable {source : Source} {rest : List Char} {levels count : Nat}

/-- That a reading leaves `rest` and what it gives has at least some height. -/
def Rises (least : Nat) (reading : Except Failure (Expr × List Char)) (rest : List Char) : Prop :=
  ∃ expr, reading = .ok (expr, rest) ∧ least ≤ expr.height

namespace Grammar

theorem methods_ofLevels (source : Source) (levels : Nat) :
    (ofLevels source levels).methods = readMethods source (inner source levels) := by
  cases levels <;> rfl

/-- Where a level is left, the readers with one level less are gone on with. -/
theorem enter_succ {α : Type} (levels : Nat) (text : List Char)
    (read : Grammar → Except Failure α) :
    enter (inner source (levels + 1)) text read = read (ofLevels source levels) := rfl

end Grammar

section Texts

/-- A call without arguments. -/
def plainCall : List Char := ['a', '(', ')']

/-- An operator of each level. -/
def sample : Level → BinaryOp
  | .or => .or
  | .and => .and
  | .equality => .equal
  | .relational => .less
  | .additive => .add
  | .multiplicative => .multiply

/-- Links of a chain. -/
def linksText (op : BinaryOp) : Nat → List Char
  | 0 => []
  | count + 1 => op.symbol.toList ++ (plainCall ++ linksText op count)

/-- Chains of some kinds, the tightest first. -/
def chainsText (count : Nat) : List Level → List Char
  | [] => []
  | kind :: tighter => chainsText count tighter ++ linksText (sample kind) count

def methodsText : Nat → List Char
  | 0 => []
  | count + 1 => '.' :: (plainCall ++ methodsText count)

/-- A text whose expression is as high as any that is read with the given number of levels. -/
def deepest : Nat → List Char
  | 0 => plainCall
  | levels + 1 =>
    '(' :: (deepest levels ++
      ')' :: (methodsText (levels + 1) ++ chainsText (levels + 1) Level.all))

end Texts

theorem rank_sample (kind : Level) : (sample kind).rank = kind.rank := by
  cases kind <;> rfl

theorem readBack_plainCall (source : Source) :
    ReadBack source (.call Extent.nowhere "a" []) plainCall := by
  let noGap : Gap := ⟨[], List.forall_mem_nil _⟩
  let name : RootName := ⟨⟨'a', [], rfl, List.forall_mem_nil _⟩, by decide, by decide, by decide⟩
  exact readBack_call name (.none noGap) (itemsBack_none noGap)

theorem follow_links {kind : Level} (follow : Follow kind.rank rest) (count : Nat) :
    Follow (kind.rank + 1) (linksText (sample kind) count ++ rest) := by
  cases count with
  | zero => exact follow.mono (Nat.le_succ _)
  | succ count =>
      have lead : Lead (kind.rank + 1) ((sample kind).symbol.toList ++
          (plainCall ++ (linksText (sample kind) count ++ rest))) :=
        .operator _ _ (Nat.lt_succ_of_le (Nat.le_of_eq (rank_sample kind)))
      have here : Follow (kind.rank + 1) _ := lead.follow ⟨[], List.forall_mem_nil _⟩
      rw [linksText, List.append_assoc, List.append_assoc]
      exact here

/-- Every link of a chain wraps what has been read of it. -/
theorem rises_chain (source : Source) (start : List Char) {kind : Level} {tighter : List Level}
    (ordered : kind :: tighter <:+ Level.all) (fits : count ≤ levels)
    (follow : Follow kind.rank rest) (left : Expr) :
    Rises (left.height + count)
      (readChain source (inner source levels) kind tighter start left
        (linksText (sample kind) count ++ rest)) rest := by
  induction count generalizing levels left with
  | zero =>
      refine ⟨left, ?_, Nat.le_refl _⟩
      rw [linksText, List.nil_append, readChain, operator?_of_follow follow (Nat.le_refl _)]
  | succ count ih =>
      rcases Nat.exists_eq_add_one.mpr (Nat.zero_lt_of_lt fits) with ⟨fewer, rfl⟩
      have tight := Level.leastRank_of_suffix ordered
      have loose : Level.leastRank tighter ≤ Precedence.primary.rank := by
        rw [tight]
        cases kind <;> decide
      have symbol : operator? kind ((sample kind).symbol.toList ++
          (plainCall ++ (linksText (sample kind) count ++ rest))) =
            some (sample kind, plainCall ++ (linksText (sample kind) count ++ rest)) :=
        operator?_gap (Level.mem_operators_of_rank (rank_sample kind))
          ⟨[], List.forall_mem_nil _⟩ (stops_cons rfl)
      have followed := follow_links follow count
      rw [← tight] at followed
      have operand := (readBack_plainCall source).operand tighter
        ((List.suffix_cons kind tighter).trans ordered) loose fewer _ followed
      rcases operand.fits (Nat.zero_le _) with ⟨right, read, _⟩
      rw [linksText, List.append_assoc, List.append_assoc, readChain, symbol]
      simp only [enter_succ, operand_ofLevels, chain_ofLevels, read, bind, Except.bind]
      rcases ih (Nat.le_of_succ_le_succ fits) (.binary _ (sample kind) left right)
        with ⟨expr, whole, high⟩
      refine ⟨expr, whole, Nat.le_trans ?_ high⟩
      rw [height]
      omega

theorem methodCall?_methodsText (count : Nat) (rest : List Char) :
    methodCall? (methodsText (count + 1) ++ rest) =
      some ("a", ')' :: (methodsText count ++ rest)) := rfl

/-- Every method call wraps what it is called on. -/
theorem rises_methods (source : Source) (start : List Char) (fits : count ≤ levels)
    (noPoint : Stops (· == '.') rest) (receiver : Expr) :
    Rises (receiver.height + count)
      (readMethods source (inner source levels) start receiver (methodsText count ++ rest))
        rest := by
  induction count generalizing levels receiver with
  | zero =>
      refine ⟨receiver, ?_, Nat.le_refl _⟩
      rw [methodsText, List.nil_append, readMethods, methodCall?_of_stops noPoint]
  | succ count ih =>
      rcases Nat.exists_eq_add_one.mpr (Nat.zero_lt_of_lt fits) with ⟨fewer, rfl⟩
      have closed : arguments (ofLevels source fewer).pipeline ")"
          (')' :: (methodsText count ++ rest)) = .ok ([], methodsText count ++ rest) :=
        separated_none _ rfl rfl ⟨[], List.forall_mem_nil _⟩
      rw [readMethods, methodCall?_methodsText]
      simp only [enter_succ, methods_ofLevels, closed, bind, Except.bind]
      rcases ih (Nat.le_of_succ_le_succ fits) (.call _ "a" [receiver])
        with ⟨expr, whole, high⟩
      refine ⟨expr, whole, Nat.le_trans ?_ high⟩
      rw [height, heightAll]
      omega

/-- Behind an operand, a chain of every kind adds its links. -/
theorem rises_chains {front : List Char} {least : Nat} {looser : List Level}
    (ordered : looser <:+ Level.all)
    (begins : ∀ more, trimStart (front ++ more) = front ++ more)
    (unary : ∀ {rest}, Follow Precedence.unary.rank rest →
      Rises least (readUnary source (inner source levels) (front ++ rest)) rest)
    (follow : Follow (Level.leastRank looser) rest) :
    Rises (least + looser.length * levels)
      (readOperand source (inner source levels) looser
        (front ++ (chainsText levels looser ++ rest))) rest := by
  induction looser generalizing rest with
  | nil =>
      rw [List.length_nil, Nat.zero_mul]
      exact unary follow
  | cons kind tighter ih =>
      have followed := follow_links follow levels
      rw [← Level.leastRank_of_suffix ordered] at followed
      rcases ih ((List.suffix_cons kind tighter).trans ordered) followed with ⟨left, read, tall⟩
      rcases rises_chain source _ ordered (Nat.le_refl levels) follow left
        with ⟨expr, whole, high⟩
      refine ⟨expr, ?_, ?_⟩
      · rw [readOperand, chainsText, List.append_assoc]
        simp only [begins, read, bind, Except.bind]
        exact whole
      · rw [List.length_cons, Nat.add_mul, Nat.one_mul]
        omega

theorem trimStart_deepest (levels : Nat) (more : List Char) :
    trimStart (deepest levels ++ more) = deepest levels ++ more := by
  cases levels <;> exact trimStart_cons rfl

section Grouping

variable {least : Nat} (inside : ∀ {rest}, Follow Precedence.ternary.rank rest →
  Rises least (readTernary source (inner source levels) (deepest levels ++ rest)) rest)

include inside

/-- A grouping takes a level and wraps what is read with the others. -/
theorem rises_primary (rest : List Char) :
    Rises (least + 1) (primary source (readPipeline source (inner source (levels + 1)))
      ('(' :: (deepest levels ++ ')' :: rest))) rest := by
  have closing : Follow Precedence.filter.rank (')' :: rest) :=
    (Lead.closing rest (by decide)).follow ⟨[], List.forall_mem_nil _⟩
  have unfiltered := filters_of_noPipe source (ofLevels source levels).pipeline
    (')' :: rest).length (pipe?_of_follow closing)
  have closed : expect ")" (')' :: rest) = .ok rest := rfl
  rcases inside (closing.mono (Nat.zero_le _)) with ⟨content, read, high⟩
  refine ⟨.paren (source.extent ('(' :: (deepest levels ++ ')' :: rest)) rest) content, ?_,
    Nat.succ_le_succ high⟩
  rw [primary_grouping, ← pipeline_ofLevels, pipeline_succ, trimStart_deepest]
  simp only [read, unfiltered, List.isEmpty_nil, if_true, pure, Except.pure, closed, bind,
    Except.bind]

theorem rises_unary (follow : Follow Precedence.unary.rank rest) :
    Rises (least + 1 + (levels + 1)) (readUnary source (inner source (levels + 1))
      ('(' :: (deepest levels ++ ')' :: methodsText (levels + 1)) ++ rest)) rest := by
  rcases rises_primary inside (methodsText (levels + 1) ++ rest) with ⟨receiver, read, low⟩
  rcases rises_methods source _ (Nat.le_refl (levels + 1)) (follow.stops rfl) receiver
    with ⟨expr, whole, high⟩
  refine ⟨expr, ?_, Nat.le_trans (Nat.add_le_add_right low _) high⟩
  rw [List.cons_append, List.append_assoc, List.cons_append, readUnary]
  simp only [trimStart_cons (rfl : isBlank '(' = false), unaryOp?, read, bind, Except.bind]
  exact whole

end Grouping

/-- With every level the text gets higher by as much as the bound does. -/
theorem rises_deepest (source : Source) (levels : Nat)
    (follow : Follow Precedence.ternary.rank rest) :
    Rises (groupReach levels + 7 * levels)
      (readTernary source (inner source levels) (deepest levels ++ rest)) rest := by
  induction levels generalizing rest with
  | zero =>
      have call := (readBack_plainCall source).ternary (by decide) 0 rest follow
      rcases call.fits (Nat.le_refl _) with ⟨expr, read, bare⟩
      refine ⟨expr, read, ?_⟩
      cases expr with
      | call => exact Nat.le_add_left _ _
      | _ => cases bare
  | succ levels ih =>
      have noMark : symbol? "?" rest = none := symbol?_mark_of_follow follow (Nat.le_refl _)
      rcases rises_chains (List.suffix_refl Level.all) (fun more => trimStart_cons rfl)
        (rises_unary ih) (follow.mono (by decide)) with ⟨expr, read, high⟩
      refine ⟨expr, ?_, ?_⟩
      · rw [List.cons_append, List.append_assoc, List.cons_append] at read
        rw [deepest, List.cons_append, List.append_assoc, List.cons_append, List.append_assoc,
          readTernary]
        simp only [trimStart_cons (rfl : isBlank '(' = false), read, noMark, bind, Except.bind]
        rfl
      · refine Nat.le_trans ?_ high
        simp only [groupReach, Level.all, List.length_cons, List.length_nil]
        omega

/-- Where one more level is left, the text is read to its end. -/
theorem rises_pipeline (source : Source) (levels : Nat) :
    Rises (groupReach levels + 7 * levels)
      ((ofLevels source (levels + 1)).pipeline (deepest levels)) [] := by
  have ended : Follow Precedence.ternary.rank [] := .nothing ⟨[], List.forall_mem_nil _⟩
  rcases rises_deepest source levels ended with ⟨expr, read, high⟩
  have begins := trimStart_deepest levels []
  rw [List.append_nil] at read begins
  refine ⟨expr, ?_, high⟩
  rw [pipeline_succ, begins, read]
  rfl

/-- A text may be as high as the readers allow. -/
theorem parse_deepest (origin : Position) :
    ∃ expr, parse origin (deepest 63) = .ok expr ∧ expr.height + 1 = groupReach maxLevels := by
  rcases rises_pipeline (Source.ofText origin (deepest 63)) 63 with ⟨expr, read, high⟩
  have nonempty : (trim (deepest 63)).isEmpty = false :=
    trim_isEmpty_of_begins (trimStart_cons rfl) rfl
  have parsed := parse_of_pipeline nonempty read rfl
  have low := parse_bounded parsed
  have value : groupReach maxLevels = groupReach 63 + 7 * 63 + 1 := rfl
  exact ⟨expr, parsed, by omega⟩

end Expr.Parser

/-- Some text with a way through 14176 operators, groupings and calls is read, so that no smaller
number bounds them. -/
theorem parseExpression_nesting_reached (origin : Position) : ∃ text expr way,
    parseExpression text origin = .ok expr ∧ Way Expr.children expr way ∧
      way.countP Expr.nests = 14176 := by
  rcases Expr.Parser.parse_deepest origin with ⟨expr, parsed, height⟩
  rcases Expr.isHeight.exists_way Expr.walk_eq_cons expr with ⟨way, isWay, count⟩
  refine ⟨String.ofList (Expr.Parser.deepest 63), expr, way, ?_, isWay, ?_⟩
  · rw [parseExpression, String.toList_ofList, parsed]
  · have value : Expr.Parser.Grammar.groupReach Expr.maxLevels = 14177 := by decide +kernel
    omega

end Stencil
