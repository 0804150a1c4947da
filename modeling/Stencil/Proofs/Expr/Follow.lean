import Stencil.Proofs.Expr.Reading
import Stencil.Proofs.Expr.Precedence
/-!
# What follows an operand

The readers of a level go on for as long as they can, so an operand is read back exactly only if
what follows it does not belong to its own level or a tighter one. `Follow least` tells what may
stand behind an operand of that rank: the end, something that closes, or the sign of a looser form.
No two operators of different rank begin alike, so one look at what follows is enough.
-/

namespace Stencil

open Text

/-- The characters that close an item, a grouping, a key or a then branch. -/
def closingCharacters : List Char := [')', ']', '\x7d', ',', ':']

/-- What stands behind an operand of a rank, after white space. -/
inductive Lead (least : Nat) : List Char → Prop where
  | nothing : Lead least []
  | closing {c : Char} (rest : List Char) (closes : c ∈ closingCharacters) : Lead least (c :: rest)
  | bar {rest : List Char} (allowed : Precedence.filter.rank < least)
      (single : Stops (· == '|') rest) : Lead least ('|' :: rest)
  | mark (rest : List Char) (allowed : Precedence.ternary.rank < least) : Lead least ('?' :: rest)
  | operator (op : BinaryOp) (rest : List Char) (allowed : op.rank < least) :
      Lead least (op.symbol.toList ++ rest)

/-- What may follow an operand of a rank. -/
def Follow (least : Nat) (rest : List Char) : Prop :=
  ∃ gap : Gap, ∃ tail, rest = gap.text ++ tail ∧ Lead least tail

/-- The characters that an operator begins with. -/
def operatorCharacters : List Char := ['+', '-', '*', '/', '%', '<', '>', '=', '!', '&', '|']

theorem BinaryOp.symbol_cons (op : BinaryOp) :
    ∃ c others, op.symbol.toList = c :: others ∧ c ∈ operatorCharacters := by
  cases op <;> exact ⟨_, _, rfl, by decide⟩

/-- Operators of different ranks begin with different characters. -/
theorem BinaryOp.head_symbol_ne {one two : BinaryOp} (apart : one.rank < two.rank) :
    one.symbol.toList.head? ≠ two.symbol.toList.head? := by
  revert apart
  cases one <;> cases two <;> decide

variable {least : Nat} {rest : List Char}

theorem Lead.follow {tail : List Char} (lead : Lead least tail) (gap : Gap) :
    Follow least (gap.text ++ tail) :=
  ⟨gap, tail, rfl, lead⟩

theorem Follow.nothing (gap : Gap) : Follow least gap.text := by
  have lead : Lead least [] := .nothing
  have follow := lead.follow gap
  rwa [List.append_nil] at follow

/-- Behind a tighter operand more may stand. -/
theorem Follow.mono {more : Nat} (follow : Follow least rest) (above : least ≤ more) :
    Follow more rest := by
  rcases follow with ⟨gap, tail, rfl, lead⟩
  refine Lead.follow ?_ gap
  cases lead with
  | nothing => exact .nothing
  | closing rest closes => exact .closing rest closes
  | bar allowed single => exact .bar (Nat.lt_of_lt_of_le allowed above) single
  | mark rest allowed => exact .mark rest (Nat.lt_of_lt_of_le allowed above)
  | operator op rest allowed => exact .operator op rest (Nat.lt_of_lt_of_le allowed above)

/-- A class stops at what stands behind an operand if none of it begins with the class. -/
theorem Lead.stops {inClass : Char → Bool} (lead : Lead least rest)
    (closing : closingCharacters.any inClass = false)
    (bar : Precedence.filter.rank < least → inClass '|' = false)
    (mark : Precedence.ternary.rank < least → inClass '?' = false)
    (operator : ∀ op : BinaryOp, op.rank < least → ∀ c, op.symbol.toList.head? = some c →
      inClass c = false) : Stops inClass rest := by
  cases lead with
  | nothing => exact stops_nil
  | closing rest closes => exact stops_cons (notInClass_of_mem closing closes)
  | bar allowed single => exact stops_cons (bar allowed)
  | mark rest allowed => exact stops_cons (mark allowed)
  | operator op rest allowed =>
      rcases op.symbol_cons with ⟨c, others, symbol, _⟩
      rw [symbol]
      exact stops_cons (operator op allowed c (by rw [symbol]; rfl))

/-- No white space is left in front of what stands behind an operand. -/
theorem Lead.trimStart_eq_self (lead : Lead least rest) : trimStart rest = rest := by
  refine Stops.dropWhile_eq_self (lead.stops rfl (fun _ => rfl) (fun _ => rfl) ?_)
  intro op _ c head
  cases op <;> cases head <;> rfl

/-- The characters that may stand behind an operand. -/
def followingCharacters : List Char :=
  [' ', '\t', '\r', '\n', '|', '?'] ++ (closingCharacters ++ operatorCharacters)

/-- A class stops behind an operand if it has none of the characters that stand there. -/
theorem Follow.stops {inClass : Char → Bool} (follow : Follow least rest)
    (outside : followingCharacters.any inClass = false) : Stops inClass rest := by
  simp only [followingCharacters, List.any_append, List.any_cons, List.any_nil, Bool.or_false,
    Bool.or_eq_false_iff] at outside
  rcases outside with ⟨⟨blank, tab, carriage, feed, bar, mark⟩, closing, operators⟩
  rcases follow with ⟨gap, tail, rfl, lead⟩
  refine gap.stops ⟨blank, tab, carriage, feed⟩ ?_
  refine lead.stops closing (fun _ => bar) (fun _ => mark) ?_
  intro op _ c head
  rcases op.symbol_cons with ⟨first, others, symbol, member⟩
  rw [symbol, List.head?_cons, Option.some.injEq] at head
  subst head
  exact notInClass_of_mem operators member

namespace Lexeme

/-- A symbol is not taken behind an operand unless something there begins like it. -/
theorem symbol?_of_follow {symbol : String} {first : Char} {others : List Char}
    (follow : Follow least rest) (begins : symbol.toList = first :: others)
    (closing : first ∉ closingCharacters) (bar : first ≠ '|')
    (mark : Precedence.ternary.rank < least → first ≠ '?')
    (operator : ∀ op : BinaryOp, op.rank < least → op.symbol.toList.head? ≠ some first) :
    symbol? symbol rest = none := by
  rcases follow with ⟨gap, tail, rfl, lead⟩
  refine symbol?_of_stops begins ?_
  rw [gap.trimStart_append, lead.trimStart_eq_self]
  refine lead.stops ?_ (fun _ => ?_) (fun allowed => ?_) ?_
  · exact List.any_eq_false.mpr fun c closes same => closing (beq_iff_eq.mp same ▸ closes)
  · exact beq_eq_false_iff_ne.mpr bar.symm
  · exact beq_eq_false_iff_ne.mpr (mark allowed).symm
  · intro op allowed c head
    refine beq_eq_false_iff_ne.mpr fun same => operator op allowed ?_
    rw [head, same]

/-- No call goes on behind an operand. -/
theorem symbol?_bracket_of_follow (follow : Follow least rest) : symbol? "(" rest = none := by
  refine symbol?_of_follow follow rfl (by decide) (by decide) (fun _ => by decide) ?_
  intro op _
  cases op <;> decide

/-- Behind a filter or a conditional no condition ends. -/
theorem symbol?_mark_of_follow (follow : Follow least rest)
    (loose : least ≤ Precedence.ternary.rank) : symbol? "?" rest = none := by
  refine symbol?_of_follow follow rfl (by decide) (by decide) (fun allowed => ?_) ?_
  · exact absurd allowed (Nat.not_lt.mpr loose)
  · intro op _
    cases op <;> decide

/-- The bar of a filter is not taken for a disjunction. -/
theorem symbol?_bars_of_follow (follow : Follow least rest) (loose : least ≤ BinaryOp.or.rank) :
    symbol? "||" rest = none := by
  rcases follow with ⟨gap, tail, rfl, lead⟩
  rw [symbol?, gap.trimStart_append, lead.trimStart_eq_self]
  have begins : "||".toList = ['|', '|'] := rfl
  rw [begins]
  cases lead with
  | nothing => rfl
  | closing rest closes =>
      refine exactly?_of_stops (stops_cons (beq_eq_false_iff_ne.mpr ?_))
      rintro rfl
      exact absurd closes (by decide)
  | bar allowed single =>
      rw [exactly?, if_pos rfl]
      exact exactly?_of_stops single
  | mark rest allowed => rfl
  | operator op rest allowed =>
      have apart := BinaryOp.head_symbol_ne (Nat.lt_of_lt_of_le allowed loose)
      rcases op.symbol_cons with ⟨c, others, symbol, _⟩
      rw [symbol] at apart ⊢
      refine exactly?_of_stops (stops_cons (beq_eq_false_iff_ne.mpr ?_))
      rintro rfl
      exact apart rfl

/-- No operator of a level stands behind an operand of the level. -/
theorem operator?_of_follow {level : Level} (follow : Follow least rest)
    (loose : least ≤ level.rank) : operator? level rest = none := by
  rw [operator?, List.findSome?_eq_none_iff]
  intro op member
  rw [Option.map_eq_none_iff]
  rw [← Level.rank_of_mem_operators member] at loose
  -- A disjunction begins as a filter does, so only its second character tells them apart.
  by_cases bars : op = .or
  · subst bars
    exact symbol?_bars_of_follow follow loose
  · rcases op.symbol_cons with ⟨first, others, symbol, _⟩
    have apart : first ∉ closingCharacters ∧ first ≠ '|' ∧ first ≠ '?' := by
      revert bars
      cases op <;> cases symbol <;> decide
    refine symbol?_of_follow follow symbol apart.1 apart.2.1 (fun _ => apart.2.2) ?_
    intro other allowed
    have differs := BinaryOp.head_symbol_ne (Nat.lt_of_lt_of_le allowed loose)
    rwa [symbol] at differs

/-- No filter goes on behind a whole expression. -/
theorem pipe?_of_follow (follow : Follow Precedence.filter.rank rest) : pipe? rest = none := by
  rcases follow with ⟨gap, tail, rfl, lead⟩
  have ink : Stops isBlank tail := by
    rw [← lead.trimStart_eq_self]
    exact stops_dropWhile isBlank tail
  rw [pipe?, gap.dropWhile_append ink]
  have noBar : Stops (· == '|') tail :=
    lead.stops rfl (fun absurd => nomatch absurd) (fun absurd => nomatch absurd)
      fun op absurd => nomatch absurd
  split
  · exact absurd noBar.head (by decide)
  · exact absurd noBar.head (by decide)
  · rfl

/-- A bar with no other behind it is that of a filter. -/
theorem pipe?_bar (gap : Gap) (single : Stops (· == '|') rest) :
    pipe? (gap.text ++ '|' :: rest) = some rest := by
  rw [pipe?, gap.dropWhile_append (stops_cons rfl)]
  split
  · rename_i heads
    rw [(List.cons.inj heads).2] at single
    exact absurd single.head (by decide)
  · rename_i heads
    rw [(List.cons.inj heads).2]
  · rename_i noBars
    exact absurd rfl (noBars _)

/-- An operator is taken where nothing can lengthen it. -/
theorem operator?_gap {level : Level} {op : BinaryOp} (member : op ∈ level.operators) (gap : Gap)
    (single : Stops (· == '=') rest) :
    operator? level (gap.text ++ (op.symbol.toList ++ rest)) = some (op, rest) := by
  have noLonger : exactly? ['='] rest = none := exactly?_of_stops single
  have ink : ∀ op : BinaryOp, trimStart (op.symbol.toList ++ rest) = op.symbol.toList ++ rest :=
    fun op => (Lead.operator op rest (Nat.lt_succ_self _)).trimStart_eq_self
  simp only [operator?, symbol?, gap.trimStart_append, ink]
  cases level <;> simp only [Level.operators, List.mem_cons, List.not_mem_nil, or_false] at member
  case or | and => subst member; rfl
  case additive => rcases member with rfl | rfl <;> rfl
  case multiplicative => rcases member with rfl | rfl | rfl <;> rfl
  case equality | relational =>
    rcases member with rfl | rfl | rfl | rfl <;>
      simp [Level.operators, BinaryOp.symbol, exactly?, noLonger]

end Lexeme

end Stencil
