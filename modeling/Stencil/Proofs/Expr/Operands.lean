import Stencil.Proofs.Expr.Follow
import Stencil.Proofs.Expr.Writing
import Stencil.Proofs.Path.AsExpression
/-!
# Operands read back, level by level

`Expr.Parser.Reads` says of a reading how many levels of nesting it needs: with these it gives its
result, and with fewer it stops for want of them. An expression in writing is read back by a reader
that needs as many levels as `Expr.nesting` counts.

A chain of operators is read from its left edge, link by link, and each link leaves one level less
to what follows. So an operand of a level is told by what its chain goes on with, and only at the
end of the chain by its own result.
-/

namespace Stencil

open Text

namespace Expr.Parser

open Lexeme Grammar

variable {source : Source} {rest : List Char} {levels need : Nat}

/-- That a reading needs some levels: with these it leaves `rest` and its result is good, and with
fewer it stops for want of them. -/
structure Reads {α : Type} (need levels : Nat) (reading : Except Failure (α × List Char))
    (rest : List Char) (good : α → Prop) : Prop where
  fits : need ≤ levels → ∃ value, reading = .ok (value, rest) ∧ good value
  tooDeep : levels < need → ∃ left, reading = .error (.tooDeep left)

namespace Reads

variable {α β : Type} {good : α → Prop} {reading : Except Failure (α × List Char)}

theorem done {value : α} (here : good value) : Reads 0 levels (.ok (value, rest)) rest good :=
  ⟨fun _ => ⟨value, rfl, here⟩, fun absurd => nomatch absurd⟩

theorem bind {more : Nat} {next : α × List Char → Except Failure (β × List Char)}
    {after : List Char} {good' : β → Prop} (first : Reads need levels reading rest good)
    (later : ∀ value, good value → Reads more levels (next (value, rest)) after good') :
    Reads (max need more) levels (reading >>= next) after good' := by
  by_cases enough : need ≤ levels
  · rcases first.fits enough with ⟨value, rfl, here⟩
    refine ⟨fun fits => ?_, fun deep => ?_⟩
    · exact (later value here).fits (Nat.max_le.mp fits).2
    · exact (later value here).tooDeep (by omega)
  · rcases first.tooDeep (by omega) with ⟨left, rfl⟩
    exact ⟨fun fits => absurd (Nat.max_le.mp fits).1 enough, fun _ => ⟨left, rfl⟩⟩

/-- What needs no further levels adds nothing to those that are needed. -/
theorem finish {next : α × List Char → Except Failure (β × List Char)} {after : List Char}
    {good' : β → Prop} (first : Reads need levels reading rest good)
    (later : ∀ value, good value → Reads 0 levels (next (value, rest)) after good') :
    Reads need levels (reading >>= next) after good' := by
  have whole := first.bind later
  rwa [Nat.max_eq_left (Nat.zero_le need)] at whole

theorem after {γ : Type} {value : γ} {first : Except Failure γ}
    {next : γ → Except Failure (α × List Char)} (same : first = .ok value)
    (later : Reads need levels (next value) rest good) :
    Reads need levels (first >>= next) rest good := by
  rw [same]
  exact later

/-- Going one level in takes a level. -/
theorem enter {text : List Char} {read : Grammar → Except Failure (α × List Char)}
    (inside : ∀ fewer, levels = fewer + 1 →
      Reads need fewer (read (ofLevels source fewer)) rest good) :
    Reads (need + 1) levels (Grammar.enter (inner source levels) text read) rest good := by
  cases levels with
  | zero => exact ⟨fun fits => absurd fits (Nat.not_succ_le_zero _), fun _ => ⟨text, rfl⟩⟩
  | succ fewer =>
      have entered := inside fewer rfl
      exact ⟨fun fits => entered.fits (Nat.le_of_succ_le_succ fits),
        fun deep => entered.tooDeep (Nat.lt_of_succ_lt_succ deep)⟩

theorem mono {weaker : α → Prop} (reads : Reads need levels reading rest good)
    (implied : ∀ value, good value → weaker value) : Reads need levels reading rest weaker := by
  refine ⟨fun fits => ?_, reads.tooDeep⟩
  rcases reads.fits fits with ⟨value, same, here⟩
  exact ⟨value, same, implied value here⟩

end Reads

section Gaps

/-! Every reader of a level skips the white space in front of an expression. -/

variable (gap : Gap) (text : List Char) (grammar : Option Grammar)

theorem readOperand_gap (looser : List Level) :
    readOperand source grammar looser (gap.text ++ text) =
      readOperand source grammar looser text := by
  cases looser with
  | nil => simp only [readOperand, readUnary, gap.trimStart_append]
  | cons level tighter => simp only [readOperand, gap.trimStart_append]

theorem readTernary_gap :
    readTernary source grammar (gap.text ++ text) = readTernary source grammar text := by
  simp only [readTernary, gap.trimStart_append]

theorem pipeline_gap (levels : Nat) :
    (ofLevels source levels).pipeline (gap.text ++ text) =
      (ofLevels source levels).pipeline text := by
  simp only [pipeline_ofLevels, readPipeline, gap.trimStart_append]

end Gaps

section Parts

variable (source : Source) (expr : Expr) (written : List Char)

/-- That an operand of some levels is read back. -/
def OperandBack (looser : List Level) : Prop :=
  ∀ levels rest, Follow (Level.leastRank looser) rest →
    Reads expr.nesting levels (readOperand source (inner source levels) looser (written ++ rest))
      rest fun read => read.bare = expr.bare

/-- That a chain of a level is read back: at its end the reading goes on with what has been read
of it, and with one level less for each of its operators. -/
def ChainBack (level : Level) (tighter : List Level) : Prop :=
  ∀ levels need rest after good, Follow (level.rank + 1) rest →
    (∀ start left fewer, levels = links level.rank expr + fewer → left.bare = expr.bare →
      Reads need fewer (readChain source (inner source fewer) level tighter start left rest)
        after good) →
      Reads (max expr.nesting (links level.rank expr + need)) levels
        (readOperand source (inner source levels) (level :: tighter) (written ++ rest)) after good

/-- That an expression without filters is read back. -/
def TernaryBack : Prop :=
  ∀ levels rest, Follow Precedence.ternary.rank rest →
    Reads expr.nesting levels (readTernary source (inner source levels) (written ++ rest)) rest
      fun read => read.bare = expr.bare

/-- That a whole expression is read back. -/
def PipelineBack : Prop :=
  ∀ levels rest, Follow Precedence.filter.rank rest →
    Reads (expr.nesting + 1) levels ((ofLevels source levels).pipeline (written ++ rest)) rest
      fun read => read.bare = expr.bare

end Parts

/-- What the readers make of an expression in writing: each reads it back that may hold it. -/
structure ReadBack (source : Source) (expr : Expr) (written : List Char) : Prop where
  pipeline : PipelineBack source expr written
  ternary : Precedence.ternary.rank ≤ expr.rank → TernaryBack source expr written
  operand : ∀ looser, looser <:+ Level.all → Level.leastRank looser ≤ expr.rank →
    OperandBack source expr written looser
  chain : ∀ level tighter, level :: tighter <:+ Level.all → level.rank ≤ expr.rank →
    ChainBack source expr written level tighter

section Levels

variable {expr : Expr} {written : List Char} (writes : Writes expr written)

include writes

/-- A tighter operand begins a chain without an operator. -/
theorem chainBack_of_operand {level : Level} {tighter : List Level}
    (ordered : level :: tighter <:+ Level.all) (root : level.rank < expr.rank)
    (operand : OperandBack source expr written tighter) :
    ChainBack source expr written level tighter := by
  intro levels need rest after good follow later
  rw [links_of_rank root] at later ⊢
  rw [Nat.zero_add, readOperand]
  simp only [writes.trimStart_append]
  rw [← Level.leastRank_of_suffix ordered] at follow
  refine (operand levels rest follow).bind fun left bare => ?_
  exact later _ left levels (Nat.zero_add levels).symm bare

omit writes in
/-- A chain is an operand where no further operator follows. -/
theorem operandBack_of_chain {level : Level} {tighter : List Level}
    (chain : ChainBack source expr written level tighter) :
    OperandBack source expr written (level :: tighter) := by
  intro levels rest follow
  have whole := chain levels 0 rest rest (fun read => read.bare = expr.bare)
    (follow.mono (Nat.le_succ _)) fun start left fewer _ bare => by
      rw [readChain, operator?_of_follow follow (Nat.le_refl _)]
      exact Reads.done bare
  rwa [Nat.add_zero, Nat.max_eq_left (links_le_nesting _ _)] at whole

theorem chainBack_of_tighter {level : Level} {tighter : List Level}
    (ordered : level :: tighter <:+ Level.all) (loose : level.rank ≤ expr.rank)
    (link : level.rank = expr.rank → ChainBack source expr written level tighter)
    (operand : Level.leastRank tighter ≤ expr.rank → OperandBack source expr written tighter) :
    ChainBack source expr written level tighter := by
  by_cases root : level.rank = expr.rank
  · exact link root
  · have tighterRoot : level.rank < expr.rank := Nat.lt_of_le_of_ne loose root
    refine chainBack_of_operand writes ordered tighterRoot (operand ?_)
    rw [Level.leastRank_of_suffix ordered]
    exact tighterRoot

theorem operandBack {looser : List Level} (ordered : looser <:+ Level.all)
    (loose : Level.leastRank looser ≤ expr.rank)
    (unary : Precedence.unary.rank ≤ expr.rank → OperandBack source expr written [])
    (link : ∀ level tighter, level :: tighter <:+ Level.all → level.rank = expr.rank →
      ChainBack source expr written level tighter) : OperandBack source expr written looser := by
  induction looser with
  | nil => exact unary loose
  | cons level tighter ih =>
      have orderedTighter := (List.suffix_cons level tighter).trans ordered
      exact operandBack_of_chain
        (chainBack_of_tighter writes ordered loose (link level tighter ordered) (ih orderedTighter))

/-- Where no filter follows, an expression without filters is a whole one. -/
theorem pipelineBack_of_ternary (ternary : TernaryBack source expr written) :
    PipelineBack source expr written := by
  intro levels rest follow
  have noPipe := pipe?_of_follow follow
  rw [pipeline_ofLevels, readPipeline]
  simp only [writes.trimStart_append]
  refine Reads.enter fun fewer _ => ?_
  rw [ternary_ofLevels]
  refine (ternary fewer rest (follow.mono (Nat.zero_le _))).finish fun read bare => ?_
  exact Reads.after (filters_of_noPipe _ _ _ noPipe) (Reads.done bare)

/-- Where no question mark follows, an operand is an expression without filters. -/
theorem ternaryBack_of_operand (operand : OperandBack source expr written Level.all) :
    TernaryBack source expr written := by
  intro levels rest follow
  have noMark := symbol?_mark_of_follow follow (Nat.le_refl _)
  rw [readTernary]
  simp only [writes.trimStart_append]
  refine (operand levels rest (follow.mono (by decide))).finish fun read bare => ?_
  simp only [noMark]
  exact Reads.done bare

/-- What is tighter than a conditional is read back by all readers if operands in front of it and
the links of its own level are. -/
theorem readBack_of_parts (tight : Precedence.or.rank ≤ expr.rank)
    (unary : Precedence.unary.rank ≤ expr.rank → OperandBack source expr written [])
    (link : ∀ level tighter, level :: tighter <:+ Level.all → level.rank = expr.rank →
      ChainBack source expr written level tighter) : ReadBack source expr written := by
  have operand : ∀ looser, looser <:+ Level.all → Level.leastRank looser ≤ expr.rank →
      OperandBack source expr written looser := fun looser ordered loose =>
    operandBack writes ordered loose unary link
  have ternary := ternaryBack_of_operand writes (operand _ (List.suffix_refl _) tight)
  refine ⟨pipelineBack_of_ternary writes ternary, fun _ => ternary, operand, ?_⟩
  intro level tighter ordered loose
  exact chainBack_of_tighter writes ordered loose (link level tighter ordered)
    (operand tighter ((List.suffix_cons level tighter).trans ordered))

end Levels

section Operators

variable {extent : Extent}

/-- One more link of a chain is read back: the chain on its left, its operator, then a tighter
operand with one level less. -/
theorem chainBack_binary {op : BinaryOp} {left right : Expr} {first second : List Char}
    {level : Level} {tighter : List Level} (before after : Gap)
    (leftBack : ReadBack source left first) (rightBack : ReadBack source right second)
    (writesRight : Writes right second) (placed : op.rank ≤ left.rank ∧ op.rank < right.rank)
    (ordered : level :: tighter <:+ Level.all) (root : level.rank = op.rank) :
    ChainBack source (.binary extent op left right)
      (first ++ (before.text ++ (op.symbol.toList ++ (after.text ++ second)))) level tighter := by
  intro levels need rest remaining good follow later
  have orderedTighter := (List.suffix_cons level tighter).trans ordered
  have tight := Level.leastRank_of_suffix ordered
  have single : Stops (· == '=') (after.text ++ (second ++ rest)) :=
    writesRight.stops (fun c begins => beq_eq_false_iff_ne.mpr (ne_of_inClass begins rfl))
      ⟨rfl, rfl, rfl, rfl⟩ after rest
  have symbol := operator?_gap (Level.mem_operators_of_rank root.symm) before single
  have leads : Follow (level.rank + 1)
      (before.text ++ (op.symbol.toList ++ (after.text ++ (second ++ rest)))) :=
    (Lead.operator op _ (by omega)).follow before
  have count : links level.rank (.binary extent op left right) = links level.rank left + 1 :=
    if_pos root.symm
  -- The chain on the left is read first. It has used a level for each of its own links when it
  -- gets to this operator, which takes one more away from the operand on the right.
  have chain := leftBack.chain level tighter ordered (by omega) levels
    (max right.nesting need + 1) _ remaining good leads fun start chained fewer same bareLeft => by
      rw [readChain, symbol]
      refine Reads.enter fun less one => ?_
      rw [operand_ofLevels, chain_ofLevels, readOperand_gap]
      rw [← tight] at follow
      refine (rightBack.operand tighter orderedTighter (by omega) less rest follow).bind
        fun operand bareRight => ?_
      refine later _ _ less (by omega) ?_
      rw [Expr.bare, Expr.bare, bareLeft, bareRight]
  have needed : max (Expr.binary extent op left right).nesting
      (links level.rank (.binary extent op left right) + need) =
        max left.nesting (links level.rank left + (max right.nesting need + 1)) := by
    rw [count, nesting, ← root]
    omega
  rw [needed]
  simpa only [List.append_assoc] using chain

theorem readBack_binary {op : BinaryOp} {left right : Expr} {first second : List Char}
    (before after : Gap) (leftBack : ReadBack source left first)
    (rightBack : ReadBack source right second) (writesLeft : Writes left first)
    (writesRight : Writes right second) (placed : op.rank ≤ left.rank ∧ op.rank < right.rank) :
    ReadBack source (.binary extent op left right)
      (first ++ (before.text ++ (op.symbol.toList ++ (after.text ++ second)))) := by
  have bounds : Precedence.or.rank ≤ op.rank ∧ op.rank < Precedence.unary.rank := by
    cases op <;> decide
  refine readBack_of_parts (.binary before after writesLeft writesRight) bounds.1 ?_ ?_
  · intro unary
    exact absurd unary (Nat.not_le.mpr bounds.2)
  · intro level tighter ordered root
    exact chainBack_binary before after leftBack rightBack writesRight placed ordered root

theorem unaryOp?_symbol (op : UnaryOp) (rest : List Char) :
    unaryOp? (op.symbol.toList ++ rest) = some (op, rest) := by
  cases op <;> rfl

/-- What is tighter than all chains is read back if it is read back as an operand in front of
which an operator may stand. -/
theorem readBack_of_unary {expr : Expr} {written : List Char} (writes : Writes expr written)
    (tight : Precedence.unary.rank ≤ expr.rank) (unary : OperandBack source expr written []) :
    ReadBack source expr written := by
  refine readBack_of_parts writes (Nat.le_trans (by decide) tight) (fun _ => unary) ?_
  intro level tighter _ root
  have loose : level.rank < Precedence.unary.rank := by
    cases level <;> decide
  omega

theorem readBack_unary {op : UnaryOp} {operand : Expr} {written : List Char} (after : Gap)
    (back : ReadBack source operand written) (writes : Writes operand written)
    (placed : Precedence.unary.rank ≤ operand.rank) :
    ReadBack source (.unary extent op operand) (op.symbol.toList ++ (after.text ++ written)) := by
  have whole : Writes (.unary extent op operand) (op.symbol.toList ++ (after.text ++ written)) :=
    .unary after writes
  refine readBack_of_unary whole (Nat.le_refl _) ?_
  intro levels rest follow
  rw [readOperand, readUnary]
  simp only [whole.trimStart_append]
  simp only [List.append_assoc, unaryOp?_symbol]
  refine Reads.enter fun fewer _ => ?_
  rw [unary_ofLevels]
  have inside := back.operand [] (List.nil_suffix) placed fewer rest follow
  rw [← readOperand_gap after] at inside
  refine inside.finish fun read bare => Reads.done ?_
  rw [Expr.bare, Expr.bare, bare]

/-- What is looser than all chains is no operand, so the two loosest readers are all there is. -/
theorem readBack_of_loose {expr : Expr} {written : List Char}
    (loose : expr.rank < Precedence.or.rank) (pipeline : PipelineBack source expr written)
    (ternary : Precedence.ternary.rank ≤ expr.rank → TernaryBack source expr written) :
    ReadBack source expr written := by
  have levelRank : ∀ level : Level, Precedence.or.rank ≤ level.rank := by
    intro level
    cases level <;> decide
  refine ⟨pipeline, ternary, ?_, ?_⟩
  · intro looser _ fits
    have least : Precedence.or.rank ≤ Level.leastRank looser := by
      cases looser with
      | nil => decide
      | cons level tighter => exact levelRank level
    omega
  · intro level tighter _ fits
    have least := levelRank level
    omega

theorem ternaryBack_ternary {condition thenBranch elseBranch : Expr}
    {first second third : List Char} (beforeMark afterMark beforeColon afterColon : Gap)
    (writesCondition : Writes condition first) (conditionBack : ReadBack source condition first)
    (thenBack : ReadBack source thenBranch second) (elseBack : ReadBack source elseBranch third)
    (placed : Precedence.or.rank ≤ condition.rank ∧ Precedence.ternary.rank ≤ elseBranch.rank) :
    TernaryBack source (.ternary extent condition thenBranch elseBranch)
      (first ++ (beforeMark.text ++ '?' :: (afterMark.text ++
        (second ++ (beforeColon.text ++ ':' :: (afterColon.text ++ third)))))) := by
  intro levels rest follow
  have mark : symbol? "?" (beforeMark.text ++ '?' :: (afterMark.text ++
      (second ++ (beforeColon.text ++ ':' :: (afterColon.text ++ (third ++ rest)))))) =
        some (afterMark.text ++
          (second ++ (beforeColon.text ++ ':' :: (afterColon.text ++ (third ++ rest))))) :=
    symbol?_gap beforeMark rfl rfl
  have colon : expect ":" (beforeColon.text ++ ':' :: (afterColon.text ++ (third ++ rest))) =
      .ok (afterColon.text ++ (third ++ rest)) :=
    expect_gap beforeColon rfl rfl
  have leadsMark : Follow Precedence.or.rank (beforeMark.text ++ '?' :: (afterMark.text ++
      (second ++ (beforeColon.text ++ ':' :: (afterColon.text ++ (third ++ rest)))))) :=
    (Lead.mark _ (by decide)).follow beforeMark
  have leadsColon : Follow Precedence.filter.rank
      (beforeColon.text ++ ':' :: (afterColon.text ++ (third ++ rest))) :=
    (Lead.closing _ (by decide)).follow beforeColon
  simp only [List.append_assoc, List.cons_append]
  rw [readTernary]
  simp only [writesCondition.trimStart_append]
  refine (conditionBack.operand _ (List.suffix_refl _) placed.1 levels _ leadsMark).bind
    fun readCondition bareCondition => ?_
  simp only [mark]
  rw [← pipeline_ofLevels, pipeline_gap]
  refine (thenBack.pipeline levels _ leadsColon).bind fun readThen bareThen => ?_
  refine Reads.after colon (Reads.enter fun fewer _ => ?_)
  rw [ternary_ofLevels, readTernary_gap]
  refine (elseBack.ternary placed.2 fewer rest follow).finish fun readElse bareElse => Reads.done ?_
  rw [Expr.bare, Expr.bare, bareCondition, bareThen, bareElse]

theorem readBack_ternary {condition thenBranch elseBranch : Expr} {written : List Char}
    (writes : Writes (.ternary extent condition thenBranch elseBranch) written)
    (ternary : TernaryBack source (.ternary extent condition thenBranch elseBranch) written) :
    ReadBack source (.ternary extent condition thenBranch elseBranch) written :=
  readBack_of_loose (Nat.lt_succ_self _) (pipelineBack_of_ternary writes ternary) fun _ => ternary

end Operators

end Expr.Parser

end Stencil
