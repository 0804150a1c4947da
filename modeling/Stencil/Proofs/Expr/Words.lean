import Stencil.Proofs.Text.Runs
/-!
# What words leave

Every word that a reader of expressions takes from the front of a text ends in a character that is
no white space. Symbols may have white space in front of them and nothing else.
-/

namespace Stencil

namespace Text

/-- That something which ends in no white space is taken from the front of a text. -/
def Leaves (text rest : List Char) : Prop := ∃ taken, text = taken ++ rest ∧ EndsInInk taken

variable {text middle rest : List Char}

theorem Leaves.trans (early : Leaves text middle) (late : Leaves middle rest) :
    Leaves text rest := by
  rcases early with ⟨first, rfl, _⟩
  rcases late with ⟨second, rfl, ends⟩
  exact ⟨first ++ second, (List.append_assoc ..).symm, ends.append first⟩

theorem Leaves.prepend (leaves : Leaves text rest) (run : List Char) :
    Leaves (run ++ text) rest := by
  rcases leaves with ⟨taken, rfl, ends⟩
  exact ⟨run ++ taken, (List.append_assoc ..).symm, ends.append run⟩

theorem Leaves.cons (leaves : Leaves text rest) (c : Char) : Leaves (c :: text) rest :=
  leaves.prepend [c]

theorem leaves_tail {c : Char} (ink : isBlank c = false) : Leaves (c :: rest) rest :=
  ⟨[c], rfl, [], c, rfl, ink⟩

/-- Trimming removes white space and nothing else. -/
theorem exists_blanks (text : List Char) :
    ∃ blanks, (∀ c ∈ blanks, isBlank c = true) ∧ text = blanks ++ trimStart text :=
  ⟨text.takeWhile isBlank, List.all_eq_true.mp List.all_takeWhile,
    List.takeWhile_append_dropWhile.symm⟩

theorem trimStart_idem (text : List Char) : trimStart (trimStart text) = trimStart text :=
  (stops_dropWhile isBlank text).dropWhile_eq_self

theorem Leaves.of_trimStart (leaves : Leaves (trimStart text) rest) : Leaves text rest := by
  rcases exists_blanks text with ⟨blanks, _, whole⟩
  rw [whole]
  exact leaves.prepend blanks

/-- A run of one or more characters of a class leaves what follows it. -/
theorem leaves_dropWhile {inClass : Char → Bool} (ink : ∀ c, inClass c = true → isBlank c = false)
    (nonempty : text.takeWhile inClass ≠ []) : Leaves text (text.dropWhile inClass) :=
  ⟨text.takeWhile inClass, List.takeWhile_append_dropWhile.symm,
    endsInInk_of_forall nonempty fun c member =>
      ink c (List.all_eq_true.mp List.all_takeWhile c member)⟩

end Text

open Text

namespace Lexeme

variable {text rest : List Char}

theorem exactly?_eq_some {expected : List Char} (taken : exactly? expected text = some rest) :
    text = expected ++ rest := by
  induction expected generalizing text with
  | nil =>
      cases taken
      rfl
  | cons first others ih =>
      cases text with
      | nil => cases taken
      | cons c later =>
          rw [exactly?, Option.ite_none_right_eq_some] at taken
          rw [taken.1, ih taken.2, List.cons_append]

theorem symbol?_eq_some {symbol : String} (taken : symbol? symbol text = some rest) :
    ∃ blanks, (∀ c ∈ blanks, isBlank c = true) ∧ text = blanks ++ (symbol.toList ++ rest) := by
  rcases exists_blanks text with ⟨blanks, blank, whole⟩
  rw [exactly?_eq_some taken] at whole
  exact ⟨blanks, blank, whole⟩

theorem symbol?_leaves {symbol : String} (ink : EndsInInk symbol.toList)
    (taken : symbol? symbol text = some rest) : Leaves text rest := by
  rcases symbol?_eq_some taken with ⟨blanks, _, rfl⟩
  exact Leaves.prepend ⟨symbol.toList, rfl, ink⟩ blanks

/-- A symbol of one character ends in it. -/
theorem endsInInk_symbol {symbol : String} {c : Char} (single : symbol.toList = [c])
    (ink : isBlank c = false) : EndsInInk symbol.toList :=
  ⟨[], c, single, ink⟩

theorem append_of_name? {name : String} (read : name? text = some (name, rest)) :
    text = name.toList ++ rest := by
  cases text with
  | nil => cases read
  | cons c others =>
      rw [name?, Option.ite_none_right_eq_some] at read
      rcases read with ⟨_, read⟩
      cases read
      rw [String.toList_ofList, List.cons_append, List.takeWhile_append_dropWhile]

theorem name?_leaves {name : String} (read : name? text = some (name, rest)) :
    Leaves text rest := by
  cases text with
  | nil => cases read
  | cons c others =>
      rw [name?, Option.ite_none_right_eq_some] at read
      rcases read with ⟨begins, read⟩
      cases read
      have first := continuesName_of_beginsName begins
      have nonempty : (c :: others).takeWhile continuesName ≠ [] := by simp [first]
      have leaves := leaves_dropWhile
        (fun _ continues => not_blank_of_continuesName continues) nonempty
      rwa [List.dropWhile_cons, if_pos first] at leaves

theorem quotedRest?_leaves {quote : Char} (ink : isBlank quote = false) {inside : List Char}
    (read : quotedRest? quote text = some (inside, rest)) : Leaves text rest := by
  fun_induction quotedRest? quote text generalizing inside with
  | case1 => cases read
  | case2 => cases read
  | case3 e after ih =>
      simp only [Option.map_eq_some_iff, Prod.mk.injEq, Prod.exists] at read
      rcases read with ⟨later, left, read, _, rfl⟩
      exact ((ih read).cons e).cons _
  | case4 after noEscape =>
      cases read
      exact leaves_tail ink
  | case5 c after noEscape noQuote ih =>
      simp only [Option.map_eq_some_iff, Prod.mk.injEq, Prod.exists] at read
      rcases read with ⟨later, left, read, _, rfl⟩
      exact (ih read).cons c

theorem quoted?_leaves {content : String} (read : quoted? text = some (content, rest)) :
    Leaves text rest := by
  cases text with
  | nil => cases read
  | cons c others =>
      rw [quoted?, Option.ite_none_right_eq_some] at read
      rcases read with ⟨opens, read⟩
      simp only [Option.map_eq_some_iff, Prod.mk.injEq, Prod.exists] at read
      rcases read with ⟨inside, left, read, _, rfl⟩
      have ink : isBlank c = false := by
        simp only [isQuote, Bool.or_eq_true, beq_iff_eq] at opens
        rcases opens with rfl | rfl <;> rfl
      exact (quotedRest?_leaves ink read).cons c

theorem splitDigits_leaves {digits : List Char} (split : Number.splitDigits text = (digits, rest))
    (nonempty : digits ≠ []) : Leaves text rest := by
  cases split
  exact leaves_dropWhile (fun _ digit => not_blank_of_isDigit digit) nonempty

theorem afterFraction_leaves (text : List Char) :
    afterFraction text = text ∨ Leaves text (afterFraction text) := by
  unfold afterFraction
  split
  · rename_i digits
    split
    · exact .inl rfl
    · rename_i found split
      exact .inr ((splitDigits_leaves split found).cons '.')
  · exact .inl rfl

theorem splitSign_suffix (text : List Char) :
    ∃ sign, text = sign ++ (Number.splitSign text).2 := by
  unfold Number.splitSign
  split
  · exact ⟨['-'], rfl⟩
  · exact ⟨['+'], rfl⟩
  · exact ⟨[], rfl⟩

theorem afterExponent_leaves (text : List Char) :
    afterExponent text = text ∨ Leaves text (afterExponent text) := by
  unfold afterExponent
  split
  · exact .inl rfl
  · rename_i mark digits
    split
    · split
      · exact .inl rfl
      · rename_i found split
        rcases splitSign_suffix digits with ⟨sign, whole⟩
        have leaves := (splitDigits_leaves split found).prepend sign
        rw [← whole] at leaves
        exact .inr (leaves.cons mark)
    · exact .inl rfl

theorem number?_leaves {x : Float} (read : number? text = some (x, rest)) : Leaves text rest := by
  unfold number? at read
  split at read
  · cases read
  · rename_i found split
    have whole := splitDigits_leaves split found
    simp only [Option.map_eq_some_iff, Prod.mk.injEq] at read
    rcases read with ⟨_, _, _, rfl⟩
    rcases afterFraction_leaves _ with same | fraction
    · rw [same]
      rcases afterExponent_leaves _ with same | exponent
      · rwa [same]
      · exact whole.trans exponent
    · rcases afterExponent_leaves (afterFraction _) with same | exponent
      · rw [same]
        exact whole.trans fraction
      · exact (whole.trans fraction).trans exponent

theorem pipe?_leaves (taken : pipe? text = some rest) : Leaves text rest := by
  have whole : text.takeWhile isPlainSpace ++ text.dropWhile isPlainSpace = text :=
    List.takeWhile_append_dropWhile
  unfold pipe? at taken
  split at taken
  · cases taken
  · rename_i bar
    cases taken
    rw [← whole, bar]
    exact (leaves_tail rfl).prepend _
  · cases taken

theorem operator?_eq_some {level : Level} {op : BinaryOp}
    (taken : operator? level text = some (op, rest)) :
    op ∈ level.operators ∧ symbol? op.symbol text = some rest := by
  rcases List.exists_of_findSome?_eq_some taken with ⟨tried, member, found⟩
  rw [Option.map_eq_some_iff] at found
  rcases found with ⟨left, symbol, same⟩
  cases same
  exact ⟨member, symbol⟩

theorem unaryOp?_cons_of_some {op : UnaryOp} (taken : unaryOp? text = some (op, rest)) :
    ∃ c, text = c :: rest := by
  unfold unaryOp? at taken
  split at taken
  all_goals
    cases taken
    try exact ⟨_, rfl⟩

end Lexeme

end Stencil
