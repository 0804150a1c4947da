import Stencil.Expr.Lexeme
import Stencil.Path.Parser
/-!
# Runs of characters

Readers take the longest run of characters of a class. A run is read back exactly if what follows it
begins with no character of the class, which `Stops` says. The classes themselves are compared here:
no letter or number is white space, so a name ends at white space in both languages.
-/

namespace Stencil.Text

/-- That a text does not begin with a character of a class. -/
def Stops (inClass : Char → Bool) (text : List Char) : Prop :=
  ∀ c, text.head? = some c → inClass c = false

variable {inClass : Char → Bool} {run rest : List Char} {c : Char}

/-- Characters of a class differ from those outside of it. -/
theorem ne_of_inClass {other : Char} (inside : inClass c = true) (outside : inClass other = false) :
    c ≠ other := by
  rintro rfl
  rw [inside] at outside
  cases outside

theorem not_mem_of_inClass {others : List Char} (inside : inClass c = true)
    (outside : others.any inClass = false) : c ∉ others := by
  intro member
  exact List.any_eq_false.mp outside c member inside

theorem notInClass_of_mem {others : List Char} (outside : others.any inClass = false)
    (member : c ∈ others) : inClass c = false :=
  Bool.eq_false_iff.mpr (List.any_eq_false.mp outside c member)

theorem not_quote_of_inClass (inside : inClass c = true) (single : inClass '\'' = false)
    (double : inClass '"' = false) : ¬(c = '\'' ∨ c = '"') := by
  rintro (same | same)
  · exact ne_of_inClass inside single same
  · exact ne_of_inClass inside double same

theorem stops_nil : Stops inClass [] := by
  intro c head
  cases head

theorem stops_cons (outside : inClass c = false) : Stops inClass (c :: rest) := by
  intro first head
  cases head
  exact outside

theorem Stops.head (stops : Stops inClass (c :: rest)) : inClass c = false := stops c rfl

/-- Where a class stops, every smaller one stops. -/
theorem Stops.mono {smaller : Char → Bool} (stops : Stops inClass rest)
    (contained : ∀ c, smaller c = true → inClass c = true) : Stops smaller rest := by
  intro c head
  have outside := stops c head
  rw [Bool.eq_false_iff] at outside ⊢
  intro inside
  exact outside (contained c inside)

/-- A class stops at a run of characters outside of it, if it stops at what follows the run. -/
theorem Stops.append (outside : ∀ c ∈ run, inClass c = false) (stops : Stops inClass rest) :
    Stops inClass (run ++ rest) := by
  cases run with
  | nil => exact stops
  | cons first others => exact stops_cons (outside first List.mem_cons_self)

theorem Stops.append_right (stops : Stops inClass run)
    (nonempty : run ≠ []) (rest : List Char) : Stops inClass (run ++ rest) := by
  rcases List.exists_cons_of_ne_nil nonempty with ⟨first, others, rfl⟩
  exact stops_cons stops.head

theorem stops_dropWhile (inClass : Char → Bool) (text : List Char) :
    Stops inClass (text.dropWhile inClass) := by
  intro c head
  have first := List.head?_dropWhile_not inClass text
  rwa [head] at first

theorem Stops.takeWhile_eq_nil (stops : Stops inClass rest) : rest.takeWhile inClass = [] := by
  cases rest with
  | nil => rfl
  | cons first others => simp [stops.head]

theorem Stops.dropWhile_eq_self (stops : Stops inClass rest) : rest.dropWhile inClass = rest := by
  cases rest with
  | nil => rfl
  | cons first others => simp [stops.head]

theorem takeWhile_run (inside : ∀ c ∈ run, inClass c = true) (stops : Stops inClass rest) :
    (run ++ rest).takeWhile inClass = run := by
  rw [List.takeWhile_append_of_pos inside, stops.takeWhile_eq_nil, List.append_nil]

theorem dropWhile_run (inside : ∀ c ∈ run, inClass c = true) (stops : Stops inClass rest) :
    (run ++ rest).dropWhile inClass = rest := by
  rw [List.dropWhile_append_of_pos inside, stops.dropWhile_eq_self]

/-- Where a class stops both inside of a run and behind it, it stops at what is left of the run. -/
theorem Stops.dropWhile_append {dropped : Char → Bool} (inside : ∀ c ∈ run, inClass c = false)
    (behind : Stops inClass rest) (kept : Stops dropped rest) :
    Stops inClass ((run ++ rest).dropWhile dropped) := by
  induction run with
  | nil => simpa [kept.dropWhile_eq_self] using behind
  | cons c others ih =>
      rw [List.cons_append, List.dropWhile_cons]
      split
      · apply ih
        intro d member
        exact inside d (List.mem_cons_of_mem c member)
      · exact stops_cons (inside c List.mem_cons_self)

theorem trimStart_cons (ink : isBlank c = false) : trimStart (c :: rest) = c :: rest := by
  simp [trimStart, ink]

theorem trimStart_append (blank : ∀ c ∈ run, isBlank c = true) :
    trimStart (run ++ rest) = trimStart rest :=
  List.dropWhile_append_of_pos blank

/-- That a text has a last character and that it is no white space. -/
def EndsInInk (text : List Char) : Prop :=
  ∃ before last, text = before ++ [last] ∧ isBlank last = false

theorem EndsInInk.append (ends : EndsInInk rest) (run : List Char) : EndsInInk (run ++ rest) := by
  rcases ends with ⟨before, last, rfl, ink⟩
  exact ⟨run ++ before, last, (List.append_assoc ..).symm, ink⟩

theorem endsInInk_of_forall (nonempty : run ≠ []) (ink : ∀ c ∈ run, isBlank c = false) :
    EndsInInk run :=
  ⟨run.dropLast, run.getLast nonempty, (List.dropLast_concat_getLast nonempty).symm,
    ink _ (List.getLast_mem nonempty)⟩

theorem trimEnd_append (ends : EndsInInk run) (blank : ∀ c ∈ rest, isBlank c = true) :
    trimEnd (run ++ rest) = run := by
  rcases ends with ⟨before, last, rfl, ink⟩
  have blanks : ∀ c ∈ rest.reverse, isBlank c = true := by
    intro c member
    exact blank c (List.mem_reverse.mp member)
  rw [trimEnd, List.reverse_append, List.dropWhile_append_of_pos blanks]
  simp [ink]

/-- A text with a character that is no white space is not empty after trimming. -/
theorem trim_isEmpty_of_begins {text : List Char}
    (begins : trimStart text = c :: rest) (ink : isBlank c = false) :
    (trim text).isEmpty = false := by
  have member : c ∈ (c :: rest).reverse := List.mem_reverse.mpr List.mem_cons_self
  rw [trim, begins, trimEnd, List.isEmpty_reverse, Bool.eq_false_iff]
  intro empty
  rw [List.isEmpty_iff] at empty
  have whole : (c :: rest).reverse.takeWhile isBlank ++ (c :: rest).reverse.dropWhile isBlank =
      (c :: rest).reverse := List.takeWhile_append_dropWhile
  rw [empty, List.append_nil] at whole
  rw [← whole] at member
  have blank := List.all_eq_true.mp List.all_takeWhile c member
  rw [ink] at blank
  cases blank

/-- White space at both ends is all that trimming removes from a text between characters that are no
white space. -/
theorem trim_between {leading trailing : List Char} (first : Stops isBlank run)
    (last : EndsInInk run) (before : ∀ c ∈ leading, isBlank c = true)
    (after : ∀ c ∈ trailing, isBlank c = true) : trim (leading ++ (run ++ trailing)) = run := by
  have nonempty : run ≠ [] := by
    rcases last with ⟨init, end_, rfl, _⟩
    simp
  have begins : Stops isBlank (run ++ trailing) := by
    cases run with
    | nil => exact absurd rfl nonempty
    | cons c others => exact stops_cons first.head
  rw [trim, trimStart_append before, trimStart, begins.dropWhile_eq_self]
  exact trimEnd_append last after

/-- No letter or number is white space. -/
theorem isAlphanumeric_of_isBlank {c : Char} (blank : isBlank c = true) :
    isAlphanumeric c = false := by
  unfold isAlphanumeric
  split
  · rename_i small
    have ascii : ∀ n < 128, isBlank (Char.ofNat n) = true → (Char.ofNat n).isAlphanum = false := by
      decide
    have here := ascii c.toNat small
    rw [Char.ofNat_toNat] at here
    exact here blank
  · rename_i large
    have spaces : ∀ k < 11, inRanges alphanumericRanges (0x2000 + k) = false := by decide +kernel
    have others : ∀ n ∈ [0x85, 0xA0, 0x1680, 0x2028, 0x2029, 0x202F, 0x205F, 0x3000],
        inRanges alphanumericRanges n = false := by decide +kernel
    simp only [isBlank, Bool.or_eq_true, Bool.and_eq_true, decide_eq_true_eq, beq_iff_eq] at blank
    by_cases space : 0x2000 ≤ c.toNat ∧ c.toNat ≤ 0x200A
    · have offset := spaces (c.toNat - 0x2000) (by omega)
      rwa [Nat.add_sub_cancel' space.1] at offset
    · apply others
      simp only [List.mem_cons, List.not_mem_nil, or_false]
      omega

end Stencil.Text

namespace Stencil.Lexeme

theorem toNat_of_isAlpha {c : Char} (letter : c.isAlpha = true) :
    (65 ≤ c.toNat ∧ c.toNat ≤ 90) ∨ (97 ≤ c.toNat ∧ c.toNat ≤ 122) := by
  delta Char.isAlpha Char.isUpper Char.isLower at letter
  simp only [Bool.or_eq_true, Bool.and_eq_true, decide_eq_true_eq, UInt32.le_iff_toNat_le,
    ge_iff_le] at letter
  exact letter

theorem toNat_of_isDigit {c : Char} (digit : c.isDigit = true) :
    48 ≤ c.toNat ∧ c.toNat ≤ 57 := by
  delta Char.isDigit at digit
  simp only [Bool.and_eq_true, decide_eq_true_eq, UInt32.le_iff_toNat_le, ge_iff_le] at digit
  exact digit

theorem toNat_lt_of_isAlphanum {c : Char} (word : c.isAlphanum = true) : c.toNat < 128 := by
  rw [Char.isAlphanum, Bool.or_eq_true] at word
  rcases word with letter | digit
  · have bounds := toNat_of_isAlpha letter
    omega
  · have bounds := toNat_of_isDigit digit
    omega

/-- ASCII letters, digits and the underscore may continue a name. -/
theorem continuesName_of_ascii {c : Char} (ascii : (c.isAlphanum || c == '_') = true) :
    continuesName c = true := by
  simp only [Bool.or_eq_true, beq_iff_eq] at ascii
  rcases ascii with word | rfl
  · have letter := Text.isAlphanumeric_of_isAlphanum (toNat_lt_of_isAlphanum word) word
    simp [continuesName, letter]
  · decide

/-- What may begin a name may continue one. -/
theorem continuesName_of_beginsName {c : Char} (begins : beginsName c = true) :
    continuesName c = true := by
  apply continuesName_of_ascii
  simp only [beginsName, Bool.or_eq_true, beq_iff_eq] at begins ⊢
  rcases begins with letter | rfl
  · exact .inl (by simp [Char.isAlphanum, letter])
  · exact .inr rfl

/-- No digit begins a name. -/
theorem not_digit_of_beginsName {c : Char} (begins : beginsName c = true) : c.isDigit = false := by
  rw [Bool.eq_false_iff]
  intro digit
  simp only [beginsName, Bool.or_eq_true, beq_iff_eq] at begins
  rcases begins with letter | rfl
  · have letterBounds := toNat_of_isAlpha letter
    have digitBounds := toNat_of_isDigit digit
    omega
  · exact absurd digit (by decide)

/-- No character of a name is white space. -/
theorem not_blank_of_continuesName {c : Char} (continues : continuesName c = true) :
    Text.isBlank c = false := by
  rw [Bool.eq_false_iff]
  intro blank
  simp only [continuesName, Text.isAlphanumeric_of_isBlank blank, Bool.false_or,
    beq_iff_eq] at continues
  subst continues
  exact absurd blank (by decide)

theorem not_blank_of_isDigit {c : Char} (digit : c.isDigit = true) : Text.isBlank c = false := by
  apply not_blank_of_continuesName
  apply continuesName_of_ascii
  simp [Char.isAlphanum, digit]

theorem isPlainSpace_cases {c : Char} (plain : isPlainSpace c = true) :
    c = ' ' ∨ c = '\t' ∨ c = '\r' ∨ c = '\n' := by
  simpa [isPlainSpace, or_assoc] using plain

theorem isBlank_of_isPlainSpace {c : Char} (plain : isPlainSpace c = true) :
    Text.isBlank c = true := by
  rcases isPlainSpace_cases plain with rfl | rfl | rfl | rfl <;> rfl

theorem not_plainSpace_of_not_blank {c : Char} (ink : Text.isBlank c = false) :
    isPlainSpace c = false := by
  rw [Bool.eq_false_iff]
  intro plain
  rw [isBlank_of_isPlainSpace plain] at ink
  cases ink

end Stencil.Lexeme
