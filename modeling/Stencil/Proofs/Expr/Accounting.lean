import Stencil.Proofs.Expr.Forms
import Stencil.Proofs.Expr.Precedence
/-!
# Trees account for their source

A reader of expressions takes a piece of the text that ends in no white space and gives a tree whose
source is that piece. `Expr.Parser.ReadFrom` says so, and that the nodes of the tree obey the table
of precedence. Every reader keeps it: those of one level because those with one level less do, and
so by induction on the levels that are left. A chain of operators carries it as the invariant of
what has been read so far.
-/

namespace Stencil

open Text

namespace Expr

/-- That all nodes of a list obey the table and account for their source. -/
def Accounted (nodes : List Expr) : Prop := ∀ node ∈ nodes, node.WellPlaced ∧ node.Joined

@[simp] theorem accounted_nil : Accounted [] := by
  intro node member
  cases member

@[simp] theorem accounted_cons {node : Expr} {others : List Expr} :
    Accounted (node :: others) ↔ (node.WellPlaced ∧ node.Joined) ∧ Accounted others :=
  List.forall_mem_cons

@[simp] theorem accounted_append {first second : List Expr} :
    Accounted (first ++ second) ↔ Accounted first ∧ Accounted second :=
  List.forall_mem_append

theorem accounted_walkAll {items : List Expr} (each : ∀ item ∈ items, Accounted item.walk) :
    Accounted (walkAll items) := by
  induction items with
  | nil => exact accounted_nil
  | cons first others ih =>
      rw [walkAll, accounted_append]
      exact ⟨each first List.mem_cons_self,
        ih fun item member => each item (List.mem_cons_of_mem _ member)⟩

theorem accounted_walkEntries {entries : List (String × Expr)}
    (each : ∀ entry ∈ entries, Accounted entry.2.walk) : Accounted (walkEntries entries) := by
  induction entries with
  | nil => exact accounted_nil
  | cons first others ih =>
      rw [walkEntries, accounted_append]
      exact ⟨each first List.mem_cons_self,
        ih fun entry member => each entry (List.mem_cons_of_mem _ member)⟩

end Expr

namespace Expr.Parser

open Lexeme

variable {source : Source} {text start rest : List Char} {expr : Expr}

/-- What a reader of a whole expression promises: the tree stands for the piece of text that was
taken, holds together at least as tightly as it should, and obeys the table in all its nodes. -/
structure ReadFrom (least : Nat) (start : List Char) (expr : Expr) (rest : List Char) : Prop where
  raw : ∃ taken, start = taken ++ rest ∧ EndsInInk taken ∧ expr.raw = some (String.ofList taken)
  rank : least ≤ expr.rank
  nodes : Accounted expr.walk

namespace ReadFrom

variable {least : Nat}

theorem leaves (read : ReadFrom least start expr rest) : Leaves start rest := by
  rcases read.raw with ⟨taken, whole, ends, _⟩
  exact ⟨taken, whole, ends⟩

theorem looser {looser : Nat} (read : ReadFrom least start expr rest) (below : looser ≤ least) :
    ReadFrom looser start expr rest :=
  ⟨read.raw, Nat.le_trans below read.rank, read.nodes⟩

theorem raw_extent {taken : List Char} (whole : start = taken ++ rest) :
    (source.extent start rest).raw = some (String.ofList taken) := by
  rw [Source.extent, whole, List.length_append, Nat.add_sub_cancel, List.take_left]

/-- A node whose extent is the piece that was taken. -/
theorem node (leaves : Leaves start rest) (place : expr.extent = source.extent start rest)
    (rank : least ≤ expr.rank) (nodes : Accounted expr.walk) : ReadFrom least start expr rest := by
  rcases leaves with ⟨taken, whole, ends⟩
  refine ⟨⟨taken, whole, ends, ?_⟩, rank, nodes⟩
  rw [Expr.raw, place, raw_extent whole]

end ReadFrom

/-- That a reader accounts for what it takes behind white space. -/
def Accounts (least : Nat) (reader : Reader Expr) : Prop :=
  ∀ {text expr rest}, reader text = .ok (expr, rest) → ReadFrom least (trimStart text) expr rest

section Parts

/-! The parts of expressions, read with a reader that accounts for whole ones. -/

variable {pipeline : Reader Expr} (accounts : Accounts Precedence.filter.rank pipeline)

include accounts

theorem item_leaves {item : Expr} (read : pipeline text = .ok (item, rest)) :
    Leaves text rest ∧ Accounted item.walk :=
  ⟨(accounts read).leaves.of_trimStart, (accounts read).nodes⟩

omit accounts in
theorem ItemsRead.leaves {α : Type} {item : Reader α} {good : α → Prop} {closing : String}
    {items : List α} (form : ItemsRead item closing text items rest)
    (ink : EndsInInk closing.toList)
    (reads : ∀ {text value rest}, item text = .ok (value, rest) → Leaves text rest ∧ good value) :
    Leaves text rest ∧ ∀ value ∈ items, good value := by
  induction form with
  | none closed => exact ⟨symbol?_leaves ink closed, List.forall_mem_nil _⟩
  | last read closed =>
      rcases reads read with ⟨leaves, here⟩
      exact ⟨leaves.trans (symbol?_leaves ink closed), List.forall_mem_singleton.mpr here⟩
  | more read comma _ ih =>
      rcases reads read with ⟨leaves, here⟩
      have past := leaves.trans (symbol?_leaves (endsInInk_symbol rfl rfl) comma)
      exact ⟨past.trans ih.1, List.forall_mem_cons.mpr ⟨here, ih.2⟩⟩

theorem ItemsRead.accounted {closing : String} {args : List Expr}
    (form : ItemsRead pipeline closing text args rest) (ink : EndsInInk closing.toList) :
    Leaves text rest ∧ Accounted (walkAll args) := by
  rcases form.leaves ink (item_leaves accounts) with ⟨leaves, each⟩
  exact ⟨leaves, accounted_walkAll each⟩

omit accounts in
theorem key_leaves {name : String} (read : key text = .ok (name, rest)) : Leaves text rest := by
  refine Leaves.of_trimStart ?_
  unfold key at read
  generalize trimStart text = trimmed at read ⊢
  dsimp only at read
  split at read
  · split at read
    · exact quoted?_leaves (require_eq_ok.mp read)
    · exact name?_leaves (require_eq_ok.mp read)
  · cases read

theorem entry_leaves {pair : String × Expr} (read : entry pipeline text = .ok (pair, rest)) :
    Leaves text rest ∧ Accounted pair.2.walk := by
  rcases entry_eq_ok.mp read with ⟨afterKey, afterColon, readKey, colon, readValue⟩
  have front := (key_leaves readKey).trans (symbol?_leaves (endsInInk_symbol rfl rfl) colon)
  rcases item_leaves accounts readValue with ⟨leaves, nodes⟩
  exact ⟨front.trans leaves, nodes⟩

omit accounts in
theorem methodCall?_leaves {name : String} (taken : methodCall? text = some (name, rest)) :
    Leaves text rest := by
  unfold methodCall? at taken
  split at taken
  · simp only [Option.bind_eq_bind, Option.bind_eq_some_iff, Prod.exists] at taken
    rcases taken with ⟨_, afterName, named, left, bracket, same⟩
    cases same
    exact ((name?_leaves named).cons _).trans
      (symbol?_leaves (endsInInk_symbol rfl rfl) bracket)
  · cases taken

omit accounts in
theorem property?_leaves {name : String} (taken : property? text = some (name, rest)) :
    Leaves text rest := by
  unfold property? at taken
  split at taken
  · exact (name?_leaves taken).cons _
  · cases taken

/-- Steps may take nothing. -/
theorem PathRead.accounted {path : List (PathStep Expr)}
    (form : PathRead pipeline text path rest) :
    (rest = text ∨ Leaves text rest) ∧ Accounted (walkPath path) := by
  induction form with
  | none => exact ⟨.inl rfl, accounted_nil⟩
  | property named _ ih =>
      have leaves := property?_leaves named
      rcases ih with ⟨rfl | further, nodes⟩
      · exact ⟨.inr leaves, nodes⟩
      · exact ⟨.inr (leaves.trans further), nodes⟩
  | index read closed _ ih =>
      rcases item_leaves accounts read with ⟨leavesKey, nodesKey⟩
      have leavesClosing := leavesKey.trans (symbol?_leaves (endsInInk_symbol rfl rfl) closed)
      have leaves := leavesClosing.cons '['
      rcases ih with ⟨rfl | further, nodes⟩
      · exact ⟨.inr leaves, accounted_append.mpr ⟨nodesKey, nodes⟩⟩
      · exact ⟨.inr (leaves.trans further), accounted_append.mpr ⟨nodesKey, nodes⟩⟩

theorem NamedRead.readFrom (form : NamedRead source pipeline start expr rest) :
    ReadFrom Precedence.primary.rank start expr rest := by
  cases form with
  | constant named stands =>
      exact ReadFrom.node (name?_leaves named) rfl (Nat.le_refl _)
        (by simp [walk, WellPlaced, Joined])
  | call named free bracket readArgs =>
      rcases readArgs.accounted accounts (endsInInk_symbol rfl rfl) with ⟨inside, nodes⟩
      have past := (name?_leaves named).trans (symbol?_leaves (endsInInk_symbol rfl rfl) bracket)
      exact ReadFrom.node (past.trans inside) rfl (Nat.le_refl _)
        (by simpa [walk, WellPlaced, Joined] using nodes)
  | access named free readPath =>
      have leaves := name?_leaves named
      rcases readPath.accounted accounts with ⟨taken, nodes⟩
      have whole : Leaves start rest := by
        rcases taken with rfl | further
        · exact leaves
        · exact leaves.trans further
      exact ReadFrom.node whole rfl (Nat.le_refl _)
        (by simpa [walk, WellPlaced, Joined] using nodes)

theorem PrimaryRead.readFrom (form : PrimaryRead source pipeline start expr rest) :
    ReadFrom Precedence.primary.rank start expr rest := by
  cases form with
  | grouping readInner closed =>
      rcases item_leaves accounts readInner with ⟨inside, nodes⟩
      have leaves := inside.trans (symbol?_leaves (endsInInk_symbol rfl rfl) closed)
      exact ReadFrom.node (leaves.cons _) rfl (Nat.le_refl _)
        (by simpa [walk, WellPlaced, Joined] using nodes)
  | array readItems =>
      rcases readItems.accounted accounts (endsInInk_symbol rfl rfl) with ⟨inside, nodes⟩
      exact ReadFrom.node (inside.cons _) rfl (Nat.le_refl _)
        (by simpa [walk, WellPlaced, Joined] using nodes)
  | object readEntries =>
      rcases readEntries.leaves (endsInInk_symbol rfl rfl) (entry_leaves accounts) with
        ⟨inside, each⟩
      have nodes := accounted_walkEntries each
      exact ReadFrom.node (inside.cons _) rfl (Nat.le_refl _)
        (by simpa [walk, WellPlaced, Joined] using nodes)
  | text quoted =>
      exact ReadFrom.node (quoted?_leaves quoted) rfl (Nat.le_refl _)
        (by simp [walk, WellPlaced, Joined])
  | number digits =>
      exact ReadFrom.node (number?_leaves digits) rfl (Nat.le_refl _)
        (by simp [walk, WellPlaced, Joined])
  | named form => exact form.readFrom accounts

theorem primary_accounts : Accounts Precedence.primary.rank (primary source pipeline) :=
  fun read => (primaryRead_of_primary read).readFrom accounts

theorem filterCall_leaves {call : FilterCall Expr}
    (read : filterCall source pipeline text = .ok (call, rest)) :
    Leaves text rest ∧ Accounted (walkAll call.args) := by
  cases filterRead_of_filterCall read with
  | bare named => exact ⟨(name?_leaves named).of_trimStart, accounted_nil⟩
  | called named bracket readArgs =>
      rcases readArgs.accounted accounts (endsInInk_symbol rfl rfl) with ⟨inside, nodes⟩
      have past := (name?_leaves named).trans (symbol?_leaves (endsInInk_symbol rfl rfl) bracket)
      exact ⟨(past.trans inside).of_trimStart, nodes⟩

/-- Filters take nothing if there are none. -/
theorem FiltersRead.accounted {calls : List (FilterCall Expr)}
    (form : FiltersRead source pipeline text calls rest) :
    (if calls.isEmpty then rest = text else Leaves text rest) ∧ Accounted (walkFilters calls) := by
  induction form with
  | none => exact ⟨rfl, accounted_nil⟩
  | more bar readCall _ ih =>
      rcases filterCall_leaves accounts readCall with ⟨inside, nodes⟩
      have leaves := (pipe?_leaves bar).trans inside
      rcases ih with ⟨taken, nodesOthers⟩
      refine ⟨?_, accounted_append.mpr ⟨nodes, nodesOthers⟩⟩
      split at taken
      · rwa [taken]
      · exact leaves.trans taken

end Parts

namespace Grammar

/-- That the readers of a grammar account for what they take. Chains and method calls go on from
what has been read since the start. -/
structure Accounts (grammar : Grammar) : Prop where
  pipeline : Parser.Accounts Precedence.filter.rank grammar.pipeline
  ternary : Parser.Accounts Precedence.ternary.rank grammar.ternary
  operand : ∀ levels, levels <:+ Level.all →
    Parser.Accounts (Level.leastRank levels) (grammar.operand levels)
  chain : ∀ {level tighter start left text expr rest}, level :: tighter <:+ Level.all →
    ReadFrom level.rank start left text → grammar.chain level tighter start left text =
      .ok (expr, rest) → ReadFrom level.rank start expr rest
  unary : Parser.Accounts Precedence.unary.rank grammar.unary
  methods : ∀ {start receiver text expr rest},
    ReadFrom Precedence.primary.rank start receiver text →
      grammar.methods start receiver text = .ok (expr, rest) →
        ReadFrom Precedence.primary.rank start expr rest

section Levels

variable {inner : Option Grammar} (accounts : ∀ grammar ∈ inner, grammar.Accounts)

include accounts

theorem readPipeline_accounts :
    Parser.Accounts Precedence.filter.rank (readPipeline source inner) := by
  intro text expr rest read
  cases pipelineRead_of_readPipeline read with
  | plain member readInput =>
      have first := (accounts _ member).ternary readInput
      rw [trimStart_idem] at first
      exact first.looser (Nat.zero_le _)
  | filtered member readInput readCalls =>
      have account := accounts _ member
      have first := account.ternary readInput
      rw [trimStart_idem] at first
      rcases readCalls.accounted account.pipeline with ⟨taken, nodes⟩
      refine ReadFrom.node (first.leaves.trans taken) rfl (Nat.le_refl _) ?_
      simp only [walk, accounted_cons, accounted_append]
      exact ⟨⟨⟨first.rank, rfl⟩, trivial⟩, first.nodes, nodes⟩

theorem readMethods_accounts {receiver : Expr}
    (first : ReadFrom Precedence.primary.rank start receiver text)
    (read : readMethods source inner start receiver text = .ok (expr, rest)) :
    ReadFrom Precedence.primary.rank start expr rest := by
  cases methodsRead_of_readMethods read with
  | none => exact first
  | call called member readArgs later =>
      have account := accounts _ member
      rcases readArgs.accounted account.pipeline (endsInInk_symbol rfl rfl) with ⟨inside, nodes⟩
      have leaves := first.leaves.trans ((methodCall?_leaves called).trans inside)
      refine account.methods (ReadFrom.node leaves rfl (Nat.le_refl _) ?_) later
      simp only [walk, walkAll, accounted_cons, accounted_append]
      exact ⟨⟨trivial, trivial⟩, first.nodes, nodes⟩

theorem readUnary_accounts :
    Parser.Accounts Precedence.unary.rank (readUnary source inner) := by
  intro text expr rest read
  cases unaryRead_of_readUnary read with
  | sign sign member readOperand =>
      have inside := (accounts _ member).unary readOperand
      rcases unaryOp?_cons_of_some sign with ⟨c, begins⟩
      have leaves := inside.leaves.of_trimStart.cons c
      rw [← begins] at leaves
      refine ReadFrom.node leaves rfl (Nat.le_refl _) ?_
      simp only [walk, accounted_cons]
      exact ⟨⟨inside.rank, trivial⟩, inside.nodes⟩
  | primary readFirst later =>
      have primary := primary_accounts (readPipeline_accounts accounts) readFirst
      rw [trimStart_idem] at primary
      exact (readMethods_accounts accounts primary later).looser (by decide)

/-- One more link keeps what is known of a chain. -/
theorem readChain_accounts {level : Level} {tighter : List Level} {left : Expr}
    (ordered : level :: tighter <:+ Level.all) (chain : ReadFrom level.rank start left text)
    (read : readChain source inner level tighter start left text = .ok (expr, rest)) :
    ReadFrom level.rank start expr rest := by
  cases chainRead_of_readChain read with
  | none => exact chain
  | @link _ afterOp afterRight _ op right _ taken member readRight later =>
      have account := accounts _ member
      rcases operator?_eq_some taken with ⟨belongs, symbol⟩
      have operand := account.operand tighter ((List.suffix_cons level tighter).trans ordered)
        readRight
      have rank : op.rank = level.rank := Level.rank_of_mem_operators belongs
      have tight := operand.rank
      rw [Level.leastRank_of_suffix ordered] at tight
      rcases chain.raw with ⟨first, whole, _, rawLeft⟩
      rcases operand.raw with ⟨second, remaining, ends, rawRight⟩
      rcases symbol?_eq_some symbol with ⟨before, blankBefore, around⟩
      rcases exists_blanks afterOp with ⟨after, blankAfter, behind⟩
      -- Of the source between the operands, the reader of the symbol has skipped what stands in
      -- front of it, and the reader of the operand on the right what stands behind.
      have piece : start =
          (first ++ (before ++ op.symbol.toList ++ after) ++ second) ++ afterRight := by
        rw [whole, around, behind, remaining]
        simp only [List.append_assoc]
      have joined : (Expr.binary (source.extent start afterRight) op left right).Joined := by
        refine ⟨String.ofList first, String.ofList before, String.ofList after,
          String.ofList second, rawLeft, rawRight, by simpa using blankBefore,
          by simpa using blankAfter, ?_⟩
        rw [ReadFrom.raw_extent piece]
        simp only [String.ofList_append, String.ofList_toList]
      have here : level.rank ≤ (Expr.binary (source.extent start afterRight) op left right).rank :=
        Nat.le_of_eq rank.symm
      refine account.chain ordered (ReadFrom.node ⟨_, piece, ends.append _⟩ rfl here ?_) later
      simp only [walk, accounted_cons, accounted_append]
      refine ⟨⟨⟨?_, ?_⟩, joined⟩, chain.nodes, operand.nodes⟩
      · rw [rank]
        exact chain.rank
      · rw [rank]
        exact tight

theorem readOperand_accounts {levels : List Level} (ordered : levels <:+ Level.all) :
    Parser.Accounts (Level.leastRank levels) (readOperand source inner levels) := by
  intro text expr rest read
  induction levels generalizing text expr rest with
  | nil => exact readUnary_accounts accounts read
  | cons level tighter ih =>
      rcases readOperand_cons_eq_ok.mp read with ⟨left, afterLeft, readLeft, later⟩
      have first := ih ((List.suffix_cons level tighter).trans ordered) readLeft
      rw [trimStart_idem] at first
      have above : level.rank ≤ Level.leastRank tighter := by
        rw [Level.leastRank_of_suffix ordered]
        exact Nat.le_succ _
      exact readChain_accounts accounts ordered (first.looser above) later

theorem readTernary_accounts :
    Parser.Accounts Precedence.ternary.rank (readTernary source inner) := by
  intro text expr rest read
  cases ternaryRead_of_readTernary read with
  | plain readCondition =>
      have first := readOperand_accounts accounts (List.suffix_refl _) readCondition
      rw [trimStart_idem] at first
      exact first.looser (by decide)
  | branches readCondition mark readThen colon member readElse =>
      have first := readOperand_accounts accounts (List.suffix_refl _) readCondition
      rw [trimStart_idem] at first
      have second := readPipeline_accounts accounts readThen
      have third := (accounts _ member).ternary readElse
      have leaves := first.leaves.trans
        ((symbol?_leaves (endsInInk_symbol rfl rfl) mark).trans
          (second.leaves.of_trimStart.trans
            ((symbol?_leaves (endsInInk_symbol rfl rfl) colon).trans third.leaves.of_trimStart)))
      refine ReadFrom.node leaves rfl (Nat.le_refl _) ?_
      simp only [walk, accounted_cons, accounted_append]
      exact ⟨⟨⟨first.rank, third.rank⟩, trivial⟩, first.nodes, second.nodes, third.nodes⟩

theorem build_accounts : (build source inner).Accounts where
  pipeline := readPipeline_accounts accounts
  ternary := readTernary_accounts accounts
  operand _ ordered := readOperand_accounts accounts ordered
  chain := readChain_accounts accounts
  unary := readUnary_accounts accounts
  methods := readMethods_accounts accounts

end Levels

theorem ofLevels_accounts (source : Source) (levels : Nat) :
    (ofLevels source levels).Accounts := by
  induction levels with
  | zero => exact build_accounts fun grammar member => nomatch member
  | succ levels ih =>
      refine build_accounts fun grammar member => ?_
      cases member
      exact ih

end Grammar

theorem parse_accounts {origin : Position} (read : parse origin text = .ok expr) :
    expr.raw = some (String.ofList (trim text)) ∧ Accounted expr.walk := by
  rcases pipeline_of_parse read with ⟨after, readPipeline, nothing⟩
  have account := (Grammar.ofLevels_accounts _ _).pipeline readPipeline
  rcases account.raw with ⟨taken, whole, ends, raw⟩
  rcases exists_blanks after with ⟨blanks, blank, same⟩
  rw [nothing, List.append_nil] at same
  refine ⟨?_, account.nodes⟩
  rw [raw, trim, whole, same, trimEnd_append ends blank]

end Expr.Parser

/-- An expression that is read accounts for its whole source, but for the white space around it,
and every node of it obeys the table of precedence. -/
theorem parseExpression_accounts {text : String} {origin : Position} {expr : Expr}
    (read : parseExpression text origin = .ok expr) :
    expr.raw = some (trimmed text) ∧ ∀ node ∈ expr.walk, node.WellPlaced ∧ node.Joined :=
  Expr.Parser.parse_accounts read

/-- The two sides of a sum with a product in it, and a filter behind them. -/
theorem parseExpression_accounts_sum : ∃ expr,
    parseExpression " a + b *c | f " Position.start = .ok expr ∧ expr.raw = some "a + b *c | f" ∧
      ∀ node ∈ expr.walk, node.WellPlaced ∧ node.Joined := by
  have accepted : (parseExpression " a + b *c | f " Position.start).isOk = true := by
    decide +kernel
  cases read : parseExpression " a + b *c | f " Position.start with
  | error problem =>
      rw [read] at accepted
      cases accepted
  | ok expr =>
      have whole : trimmed " a + b *c | f " = "a + b *c | f" := by decide +kernel
      rcases parseExpression_accounts read with ⟨raw, nodes⟩
      exact ⟨expr, rfl, raw.trans (congrArg some whole), nodes⟩

end Stencil
