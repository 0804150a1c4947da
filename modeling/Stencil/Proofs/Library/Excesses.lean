import Mathlib
import Stencil.Proofs.Library.Limits
/-!
# Functions without a limit

Thirteen functions of the library repeat what they are given, or write it with more characters, and
do not ask for the limit. Each of them has a call whose result is longer than the limit and than all
that has been given to it, even if values count for their texts. Eight more have one only because
they make a text of any value, which may be much longer than the value is large. No other function
has one.
-/

namespace Stencil

/-- Some call makes more than it may generate. -/
def Body.Exceeds (body : Body) (own : Value → Nat) : Prop :=
  ∃ value args result, body value args = .ok result ∧ callBound own value args < result.extent

variable {own : Value → Nat}

theorem callBound_uncounted (value : Value) (args : Arguments) :
    callBound Value.uncounted value args =
      max generationLimit (value.size + Value.sizeAll args) := rfl

theorem callBound_uncounted_le (value : Value) (args : Arguments) :
    callBound Value.uncounted value args ≤ callBound own value args :=
  max_le_max_left _ (Nat.add_le_add value.size_le_sizeBy (Value.sizeAll_le_sizeAllBy args))

/-- A text that has one character several times. -/
def copies (n : Nat) (c : Char) : Value := .string (String.ofList (List.replicate n c))

theorem toList_text_copies (n : Nat) (c : Char) :
    (copies n c).text.toList = List.replicate n c := String.toList_ofList

theorem length_copies (n : Nat) (c : Char) : (String.ofList (List.replicate n c)).length = n :=
  String.length_ofList.trans List.length_replicate

theorem sizeBy_copies (n : Nat) (c : Char) : (copies n c).sizeBy own = n := length_copies n c

theorem length_flatMap_replicate {α β : Type} (f : α → List β) (n : Nat) (a : α) :
    ((List.replicate n a).flatMap f).length = n * (f a).length := by
  rw [List.length_flatMap, List.map_replicate, List.sum_replicate, smul_eq_mul]

theorem length_intercalate_replicate (separator part : String) (n : Nat) :
    (separator.intercalate (List.replicate (n + 1) part)).length =
      (n + 1) * part.length + n * separator.length := by
  induction n with
  | zero => simp
  | succ n ih =>
      rw [List.replicate_succ, List.replicate_succ, String.intercalate_cons_cons,
        ← List.replicate_succ, String.length_append, String.length_append, ih]
      ring

theorem mem_intercalate {separator : String} {parts : List String} {c : Char}
    (member : c ∈ (separator.intercalate parts).toList) :
    c ∈ separator.toList ∨ ∃ part ∈ parts, c ∈ part.toList := by
  induction parts with
  | nil => cases member
  | cons part rest ih =>
      cases rest with
      | nil =>
          rw [String.intercalate_singleton] at member
          exact .inr ⟨part, List.mem_cons_self, member⟩
      | cons next later =>
          rw [String.intercalate_cons_cons, String.toList_append, String.toList_append,
            List.mem_append, List.mem_append] at member
          rcases member with (here | between) | behind
          · exact .inr ⟨part, List.mem_cons_self, here⟩
          · exact .inl between
          · rcases ih behind with between | ⟨other, among, inside⟩
            · exact .inl between
            · exact .inr ⟨other, List.mem_cons_of_mem _ among, inside⟩

namespace Texts

theorem exceeds_onText {f : List Char → List Char} {n : Nat} {c : Char}
    (long : max generationLimit n < (f (List.replicate n c)).length) : (onText f).Exceeds own := by
  refine ⟨copies n c, [], _, rfl, ?_⟩
  change max generationLimit ((copies n c).sizeBy own + 0) <
    (Value.string (String.ofList (f (copies n c).text.toList))).extent
  rwa [sizeBy_copies, toList_text_copies, Value.extent_ofList]

theorem exceeds_upper : upper.Exceeds Value.textLength := by
  have form : Text.capitalForm 'ß' = ['S', 'S'] := rfl
  apply exceeds_onText (n := 600000) (c := 'ß')
  rw [Text.capitals, length_flatMap_replicate, form]
  decide

/-- A letter with a dot above is written as two characters when it is small. -/
theorem smallForm_dotted : Text.smallForm 'İ' = ['i', '\u0307'] := rfl

theorem length_smallFrom_replicate {c : Char} (other : c ≠ 'Σ') (before done : List Char)
    (n : Nat) :
    (Text.smallFrom before done (List.replicate n c)).length =
      done.length + n * (Text.smallForm c).length := by
  induction n generalizing before done with
  | zero => simp [Text.smallFrom]
  | succ n ih =>
      rw [List.replicate_succ, Text.smallFrom, ih, Text.smallFormWithin, if_neg other,
        List.length_append, List.length_reverse]
      ring

theorem exceeds_lower : lower.Exceeds Value.textLength := by
  apply exceeds_onText (n := 600000) (c := 'İ')
  rw [Text.smallLetters, length_smallFrom_replicate (by decide), smallForm_dotted]
  decide

theorem le_length_capitalized_replicate (n : Nat) (c : Char) :
    n * (Text.smallForm c).length ≤ (Text.capitalized (List.replicate (n + 1) c)).length := by
  rw [List.replicate_succ, Text.capitalized, List.length_append, length_flatMap_replicate]
  exact Nat.le_add_left _ _

theorem exceeds_capitalize : capitalize.Exceeds Value.textLength := by
  apply exceeds_onText (n := 599999 + 1) (c := 'İ')
  refine lt_of_lt_of_le ?_ (le_length_capitalized_replicate _ _)
  rw [smallForm_dotted]
  decide

/-- A text without separators is one piece. -/
theorem splitLoop_of_notMem {separator : Char} {text : List Char} (absent : separator ∉ text)
    (pieces : List (List Char)) (piece : List Char) :
    Text.splitLoop [separator] 0 pieces piece text =
      ((piece.reverse ++ text) :: pieces).reverse := by
  induction text generalizing piece with
  | nil => rw [Text.splitLoop, List.append_nil]
  | cons c rest ih =>
      rw [List.mem_cons, not_or] at absent
      have differs : [separator].isPrefixOf (c :: rest) = false := by
        simp [List.isPrefixOf, absent.1]
      rw [Text.splitLoop, differs, if_neg Bool.false_ne_true, ih absent.2]
      simp only [List.reverse_cons, List.append_assoc, List.singleton_append]

theorem exceeds_title : title.Exceeds Value.textLength := by
  apply exceeds_onText (n := 599999 + 1) (c := 'İ')
  have whole : Text.splitOn [' '] (List.replicate (599999 + 1) 'İ') =
      [List.replicate (599999 + 1) 'İ'] := by
    rw [Text.splitOn, splitLoop_of_notMem]
    · rfl
    · rw [List.mem_replicate]
      exact fun same => absurd same.2 (by decide)
  rw [whole, List.map_singleton, List.intercalate_singleton]
  refine lt_of_lt_of_le ?_ (le_length_capitalized_replicate _ _)
  rw [smallForm_dotted]
  decide

theorem exceeds_escapeHtml : escapeHtml.Exceeds Value.textLength := by
  have written : Text.entity '"' = ['&', 'q', 'u', 'o', 't', ';'] := rfl
  apply exceeds_onText (n := 300000) (c := '"')
  rw [Text.escapeMarkup, length_flatMap_replicate, written]
  decide

theorem replace_ofList {search : List Char} (nonempty : search ≠ [])
    (text replacement : List Char) :
    replace (.string (String.ofList text))
        [.string (String.ofList search), .string (String.ofList replacement)] =
      .ok (.string (String.ofList (Text.replaceAll search replacement text))) := by
  change Except.ok (if (String.ofList search).toList.isEmpty then
      Value.string (String.ofList (String.ofList text).toList)
    else .string (String.ofList (Text.replaceAll (String.ofList search).toList
      (String.ofList replacement).toList (String.ofList text).toList))) = _
  simp only [String.toList_ofList, List.isEmpty_iff, if_neg nonempty]

theorem replace_letters (n : Nat) :
    replace (copies 2 'a') [copies 1 'a', copies n 'x'] = .ok (copies (n + n) 'x') := by
  have pieces : Text.splitOn ['a'] ['a', 'a'] = [[], [], []] := rfl
  have replaced : Text.replaceAll ['a'] (List.replicate n 'x') ['a', 'a'] =
      List.replicate (n + n) 'x' := by
    simp [Text.replaceAll, pieces]
  have made := replace_ofList (List.cons_ne_nil 'a' []) ['a', 'a'] (List.replicate n 'x')
  rw [replaced] at made
  exact made

theorem exceeds_replace : replace.Exceeds Value.textLength := by
  refine ⟨_, _, _, replace_letters 600000, ?_⟩
  have made : (copies (600000 + 600000) 'x').extent = 1200000 := length_copies _ _
  rw [callBound, Value.sizeAllBy, Value.sizeAllBy, Value.sizeAllBy, made]
  simp only [sizeBy_copies]
  decide

theorem length_splitLoop_replicate (separator : Char) (pieces : List (List Char))
    (piece : List Char) (n : Nat) :
    (Text.splitLoop [separator] 0 pieces piece (List.replicate n separator)).length =
      pieces.length + n + 1 := by
  induction n generalizing pieces piece with
  | zero => simp [Text.splitLoop]
  | succ n ih =>
      have here : [separator].isPrefixOf (separator :: List.replicate n separator) = true := by
        simp [List.isPrefixOf]
      rw [List.replicate_succ, Text.splitLoop, here, if_pos rfl, List.length_singleton, ih,
        List.length_cons]
      omega

/-- The separator by default is no argument, and there is one more piece than separators. -/
theorem exceeds_split : split.Exceeds Value.textLength := by
  have made : split (copies generationLimit ',') [] =
      .ok (.array ((Text.splitOn [','] (copies generationLimit ',').text.toList).map
        fun piece => .string (String.ofList piece))) := rfl
  refine ⟨copies generationLimit ',', [], _, made, ?_⟩
  have given : callBound Value.textLength (copies generationLimit ',') [] = generationLimit := by
    rw [callBound, sizeBy_copies]
    exact Nat.max_self _
  change _ < (List.map _ _).length
  rw [given, List.length_map, toList_text_copies, Text.splitOn, length_splitLoop_replicate]
  exact Nat.lt_of_lt_of_eq (Nat.lt_succ_self _) (by rw [List.length_nil, Nat.zero_add])

end Texts

theorem sizeBy_replicate (n : Nat) (value : Value) :
    (Value.array (List.replicate n value)).sizeBy own = n * (value.sizeBy own + 1) := by
  rw [Value.sizeBy, Value.sizeAllBy_eq_sum, List.map_replicate, List.sum_replicate, smul_eq_mul]

/-- The size of an array of absences is the number of its elements. -/
theorem sizeBy_nulls (absent : own .null = 0) (n : Nat) :
    (Value.array (List.replicate n .null)).sizeBy own = n := by
  rw [sizeBy_replicate, Value.sizeBy, absent, Nat.zero_add, Nat.mul_one]

namespace Sequence

theorem join_nulls (n length : Nat) :
    join (.array (List.replicate n .null)) [copies length 'x'] =
      .ok (.string ((String.ofList (List.replicate length 'x')).intercalate
        (List.replicate n ""))) := by
  have made : join (.array (List.replicate n .null)) [copies length 'x'] =
      .ok (.string ((String.ofList (List.replicate length 'x')).intercalate
        ((List.replicate n .null).map Value.text))) := rfl
  rw [made, List.map_replicate]
  rfl

theorem exceeds_join : join.Exceeds Value.textLength := by
  refine ⟨_, _, _, join_nulls (1099 + 1) 1000, ?_⟩
  change callBound _ _ _ < String.length _
  have given : Value.sizeAllBy Value.textLength [copies 1000 'x'] = 1001 := by
    rw [Value.sizeAllBy, Value.sizeAllBy, sizeBy_copies]
  rw [callBound, sizeBy_nulls rfl, given, length_intercalate_replicate, length_copies]
  decide

end Sequence

namespace Record

theorem compactItems_nulls (n : Nat) :
    Json.compactItems (Value.itemsToJson (List.replicate n .null)) = List.replicate n "null" := by
  induction n with
  | zero => rfl
  | succ n ih =>
      rw [List.replicate_succ, Value.itemsToJson, Json.compactItems, ih, List.replicate_succ]
      rfl

theorem exceeds_json : json.Exceeds Value.textLength := by
  have flat : ¬ 0.0 < (Arguments.get [] 0).toNumber := by decide
  have made : json (.array (List.replicate (299999 + 1) .null)) [] =
      .ok (.string ("[" ++ ",".intercalate (List.replicate (299999 + 1) "null") ++ "]")) := by
    rw [json, Body.total]
    dsimp only
    rw [if_neg flat, Value.toJson, Json.compact, compactItems_nulls]
  refine ⟨_, _, _, made, ?_⟩
  change callBound _ _ _ < String.length _
  rw [callBound, sizeBy_nulls rfl, String.length_append, String.length_append,
    length_intercalate_replicate]
  decide

end Record

namespace Rounding

theorem le_length_signed (negative : Bool) (text : String) :
    text.length ≤ (Number.signed negative text).length := by
  rw [Number.signed]
  split
  · rw [String.length_append]
    exact Nat.le_add_left _ _
  · exact Nat.le_refl _

/-- A million has two places for separators. -/
theorem le_length_grouped_million (separator : String) :
    2 * separator.length ≤ (grouped 1000000.0 0 separator ".").length := by
  have digits : (Number.fixed (1000000.0 : Float).abs 0).toList =
      ['1', '0', '0', '0', '0', '0', '0'] := rfl
  rw [grouped, digits]
  refine le_trans ?_ (le_length_signed _ _)
  rw [String.length_append, String.length_ofList]
  refine le_trans ?_ (Nat.le_add_right _ _)
  have whole : ['1', '0', '0', '0', '0', '0', '0'].takeWhile (· != '.') =
      ['1', '0', '0', '0', '0', '0', '0'] := by decide
  rw [whole, Number.length_groupThousands, String.length_toList]
  exact Nat.le_add_left _ _

theorem exceeds_formatNumber : formatNumber.Exceeds Value.textLength := by
  have finite : (1000000.0 : Float).isFinite = true := rfl
  have made (n : Nat) : formatNumber (.number 1000000.0) [.null, copies n 'x'] =
      .ok (.string (grouped 1000000.0 0 (String.ofList (List.replicate n 'x')) ".")) := by
    simp only [formatNumber, Value.toNumber, finite, if_true]
    rfl
  refine ⟨_, _, _, made 600000, ?_⟩
  refine lt_of_lt_of_le ?_ (le_length_grouped_million _)
  have separator := length_copies 600000 'x'
  have shown : (Value.number 1000000.0).sizeBy Value.textLength = 7 := rfl
  rw [callBound, shown, Value.sizeAllBy, Value.sizeAllBy, Value.sizeAllBy, sizeBy_copies, separator]
  decide

end Rounding

namespace Dates

open Calendar

theorem instantOf_epoch (function : String) : instantOf function (.number 0.0) = .ok ⟨0, 0, 0⟩ := by
  have finite : (0.0 : Float).isFinite = true := rfl
  have zero : Number.toInt64 0.0 = 0 := by decide +kernel
  have read : Instant.ofMillis? 0 = some ⟨0, 0, 0⟩ := rfl
  rw [instantOf, if_pos finite, zero, ofMillis, read]

/-- A pattern that asks for the name of the day several times. -/
def weekdayPattern (n : Nat) : List Char := (List.replicate n ['%', 'A']).flatten

theorem readPattern?_weekdayPattern (n : Nat) :
    readPattern? (weekdayPattern n) = some (List.replicate n .weekdayName) := by
  induction n with
  | zero =>
      rw [weekdayPattern, List.replicate_zero, List.flatten_nil, readPattern?]
      rfl
  | succ n ih =>
      have next : weekdayPattern (n + 1) = '%' :: 'A' :: weekdayPattern n := rfl
      rw [next, readPattern?, if_pos rfl]
      have field : markedFields? ('A' :: weekdayPattern n) = some ([.weekdayName], 1) := rfl
      rw [field]
      change (readPattern? (weekdayPattern n) >>= fun others => some ([.weekdayName] ++ others)) = _
      rw [ih]
      rfl

theorem formatDate_of_written {value : Value} {args : Arguments} {instant : Instant}
    {text : List Char} (read : instantOf "formatDate" value = .ok instant)
    (written : format? (args.textOr 0 "%Y-%m-%d").toList instant = some text) :
    formatDate value args = .ok (.string (String.ofList text)) := by
  simp only [formatDate, read, bind, Except.bind, written]

theorem formatDate_weekdays (n : Nat) :
    formatDate (.number 0.0) [.string (String.ofList (weekdayPattern n))] =
      .ok (.string (String.ofList ((List.replicate n Field.weekdayName).flatMap
        (fieldText ⟨0, 0, 0⟩)))) := by
  have pattern :
      (Arguments.textOr [.string (String.ofList (weekdayPattern n))] 0 "%Y-%m-%d").toList =
        weekdayPattern n := String.toList_ofList
  apply formatDate_of_written (instantOf_epoch _)
  rw [pattern, format?, readPattern?_weekdayPattern]
  rfl

theorem exceeds_formatDate : formatDate.Exceeds Value.textLength := by
  have thursday : fieldText ⟨0, 0, 0⟩ .weekdayName =
      ['T', 'h', 'u', 'r', 's', 'd', 'a', 'y'] := rfl
  have length : (weekdayPattern 150000).length = 150000 * 2 := by
    rw [weekdayPattern, List.length_flatten, List.map_replicate, List.sum_replicate]
    rfl
  have shown : (Value.number 0.0).sizeBy Value.textLength = 1 := rfl
  refine ⟨_, _, _, formatDate_weekdays 150000, ?_⟩
  rw [Value.extent_ofList, length_flatMap_replicate, thursday, callBound, shown, Value.sizeAllBy,
    Value.sizeAllBy, Value.sizeBy, String.length_ofList, length]
  decide

end Dates

namespace Patterns

theorem slug_of_notMem {text : List Char} (plain : '-' ∉ text.flatMap Text.slugForm) :
    Text.slug text = text.flatMap Text.slugForm := by
  have folded (slug letters : List Char) (plain : '-' ∉ letters) :
      letters.foldl Text.addToSlug slug = letters.reverse ++ slug := by
    induction letters generalizing slug with
    | nil => rfl
    | cons c rest ih =>
        rw [List.mem_cons, not_or] at plain
        have added : Text.addToSlug slug c = c :: slug := by
          rw [Text.addToSlug, if_neg fun dash => plain.1 dash.1.symm]
        rw [List.foldl_cons, added, ih _ plain.2, List.reverse_cons, List.append_assoc,
          List.singleton_append]
  have first : (text.flatMap Text.slugForm).reverse.head? ≠ some '-' := by
    intro dash
    exact plain (List.mem_reverse.mp (List.mem_of_head? dash))
  simp only [Text.slug, folded [] _ plain, List.append_nil, if_neg first, List.reverse_reverse]

theorem exceeds_slugify : slugify.Exceeds Value.textLength := by
  have form : Text.slugForm '한' = ['h', 'a', 'n'] := rfl
  have plain (n : Nat) : '-' ∉ (List.replicate n '한').flatMap Text.slugForm := by
    intro dash
    obtain ⟨c, member, among⟩ := List.mem_flatMap.mp dash
    rw [List.eq_of_mem_replicate member, form] at among
    exact absurd among (by decide)
  apply Texts.exceeds_onText (f := Text.slug) (n := 600000) (c := '한')
  rw [slug_of_notMem (plain _), length_flatMap_replicate, form]
  decide

open Regex in
theorem readReplacement_of_notMem {text : List Char} (plain : '$' ∉ text) :
    readReplacement text = text.map fun c => .text [c] := by
  induction text with
  | nil => rw [readReplacement, List.map_nil]
  | cons c rest ih =>
      rw [List.mem_cons, not_or] at plain
      rw [readReplacement, if_pos (Ne.symm plain.1), ih plain.2, List.map_cons]

open Regex in
/-- A replacement without references is put in the place of every match as it is. -/
theorem inserted_of_notMem {text : List Char} (plain : '$' ∉ text) (matcher : Matcher)
    (chars : Array Char) (found : Match) :
    inserted matcher chars found (readReplacement text) = text := by
  rw [readReplacement_of_notMem plain, inserted, List.flatMap_map]
  exact List.flatMap_singleton' text

open Regex in
theorem exists_letterMatcher : ∃ matcher first second, compile "a" = .ok matcher ∧
    matcher.matches ['a', 'a'] = [first, second] ∧ first.start = 0 ∧ first.stop = 1 ∧
    second.start = 1 ∧ second.stop = 2 := by
  have found : (match compile "a" with
      | .ok matcher => (matcher.matches ['a', 'a']).map fun found => (found.start, found.stop)
      | .error _ => []) = [(0, 1), (1, 2)] := by cbv
  cases compiled : compile "a" with
  | error report =>
      rw [compiled] at found
      cases found
  | ok matcher =>
      rw [compiled] at found
      dsimp only at found
      obtain ⟨first, rest, whole, firstPlace, found⟩ := List.map_eq_cons_iff.mp found
      obtain ⟨second, none, others, secondPlace, found⟩ := List.map_eq_cons_iff.mp found
      rw [others, List.map_eq_nil_iff.mp found] at whole
      obtain ⟨start, middle⟩ := Prod.mk.inj firstPlace
      obtain ⟨middle', stop⟩ := Prod.mk.inj secondPlace
      exact ⟨matcher, first, second, rfl, whole, start, middle, middle', stop⟩

theorem regexReplace_letters (n : Nat) :
    regexReplace (.string "aa") [.string "a", copies n 'x'] = .ok (copies (n + n) 'x') := by
  obtain ⟨matcher, first, second, compiled, found, start, middle, middle', stop⟩ :=
    exists_letterMatcher
  have plain : '$' ∉ List.replicate n 'x' := by
    intro member
    exact absurd (List.eq_of_mem_replicate member) (by decide)
  have text : "aa".toList = ['a', 'a'] := rfl
  have replaced : Regex.replaceAll matcher (List.replicate n 'x') ['a', 'a'] =
      List.replicate (n + n) 'x' := by
    simp [Regex.replaceAll, found, inserted_of_notMem plain, start, middle, middle', stop]
  have pattern : Arguments.textOr [.string "a", copies n 'x'] 0 "" = "a" := rfl
  have replacement :
      (Arguments.textOr [.string "a", copies n 'x'] 1 "").toList = List.replicate n 'x' :=
    toList_text_copies n 'x'
  have letters : (Value.string "aa").text.toList = ['a', 'a'] := text
  simp only [regexReplace, pattern, compiled, replacement, letters, replaced]
  rfl

theorem exceeds_regexReplace : regexReplace.Exceeds Value.textLength := by
  have given : Value.sizeAllBy Value.textLength [.string "a", copies 600000 'x'] = 600003 := by
    rw [Value.sizeAllBy, Value.sizeAllBy, Value.sizeAllBy, sizeBy_copies]
    rfl
  have made : (copies (600000 + 600000) 'x').extent = 1200000 := length_copies _ _
  refine ⟨_, _, _, regexReplace_letters 600000, ?_⟩
  rw [callBound, given, made]
  decide

end Patterns

/-! ## Texts that are longer than the values that they are made of -/

/-- An array of truth values. -/
def truths (n : Nat) : Value := .array (List.replicate n (.bool true))

theorem size_truths (n : Nat) : (truths n).size = n :=
  (sizeBy_replicate n _).trans (Nat.mul_one n)

theorem text_truths (n : Nat) : (truths n).text = ",".intercalate (List.replicate n "true") := by
  rw [truths, Value.text, Value.texts_eq_map, List.map_replicate]
  rfl

theorem length_text_truths (n : Nat) : (truths (n + 1)).text.length = (n + 1) * 4 + n := by
  rw [text_truths, length_intercalate_replicate]
  exact congrArg _ (Nat.mul_one n)

/-- There is neither a blank nor a tag in the text of truth values. -/
theorem plain_text_truths {n : Nat} {c : Char} (member : c ∈ (truths n).text.toList) :
    Text.isBlank c = false ∧ c ≠ '<' := by
  rw [text_truths] at member
  rcases mem_intercalate member with comma | ⟨word, among, letter⟩
  · obtain rfl : c = ',' := List.mem_singleton.mp comma
    exact ⟨rfl, by decide⟩
  · have letters : "true".toList = ['t', 'r', 'u', 'e'] := rfl
    rw [List.eq_of_mem_replicate among, letters] at letter
    simp only [List.mem_cons, List.not_mem_nil, or_false] at letter
    rcases letter with rfl | rfl | rfl | rfl <;> exact ⟨rfl, by decide⟩

namespace Texts

/-- The text of a long array of truth values is more than may be generated of it. -/
theorem exceeds_of_whole {body : Body} (args : Arguments) (few : Value.sizeAll args ≤ 1)
    (whole : ∀ n ≤ 299999, body (truths (n + 1)) args =
      .ok (.string (String.ofList (truths (n + 1)).text.toList))) :
    body.Exceeds Value.uncounted := by
  refine ⟨_, _, _, whole 299999 (Nat.le_refl _), ?_⟩
  rw [callBound_uncounted, size_truths, String.ofList_toList]
  change _ < String.length _
  rw [length_text_truths, max_lt_iff]
  exact ⟨by decide, by omega⟩

theorem exceeds_onText_of_same {f : List Char → List Char}
    (same : ∀ text, (∀ c ∈ text, Text.isBlank c = false ∧ c ≠ '<') → f text = text) :
    (onText f).Exceeds Value.uncounted := by
  refine exceeds_of_whole [] (Nat.zero_le _) fun n _ => ?_
  rw [onText, Body.total, same _ fun c member => plain_text_truths member]

theorem trimStart_of_ink {text : List Char} (ink : ∀ c ∈ text, Text.isBlank c = false) :
    Text.trimStart text = text :=
  List.dropWhile_eq_self_iff.mpr fun nonempty => by
    simp [ink _ (List.getElem_mem nonempty)]

theorem trimEnd_of_ink {text : List Char} (ink : ∀ c ∈ text, Text.isBlank c = false) :
    Text.trimEnd text = text := by
  have mirrored : Text.trimStart text.reverse = text.reverse :=
    trimStart_of_ink fun c member => ink c (List.mem_reverse.mp member)
  rw [Text.trimStart] at mirrored
  rw [Text.trimEnd, mirrored, List.reverse_reverse]

theorem exceeds_trimStart : trimStart.Exceeds Value.uncounted :=
  exceeds_onText_of_same fun _ plain => trimStart_of_ink fun c member => (plain c member).1

theorem exceeds_trimEnd : trimEnd.Exceeds Value.uncounted :=
  exceeds_onText_of_same fun _ plain => trimEnd_of_ink fun c member => (plain c member).1

theorem exceeds_trim : trim.Exceeds Value.uncounted := by
  refine exceeds_onText_of_same fun text plain => ?_
  have ink (c : Char) (member : c ∈ text) := (plain c member).1
  rw [Text.trim, trimStart_of_ink ink, trimEnd_of_ink ink]

theorem stripTags_of_notMem {text : List Char} (plain : '<' ∉ text) :
    Text.stripTags text = text := by
  have run (kept : List Char) :
      text.foldl Text.Stripping.next { kept } = { kept := text.reverse ++ kept } := by
    induction text generalizing kept with
    | nil => rfl
    | cons c rest ih =>
        rw [List.mem_cons, not_or] at plain
        have next : Text.Stripping.next { kept } c = { kept := c :: kept } :=
          if_neg (Ne.symm plain.1)
        rw [List.foldl_cons, next, ih plain.2, List.reverse_cons, List.append_assoc,
          List.singleton_append]
  rw [Text.stripTags, run, List.append_nil, List.reverse_reverse]

theorem exceeds_stripTags : stripTags.Exceeds Value.uncounted :=
  exceeds_onText_of_same fun _ plain => stripTags_of_notMem fun opens => (plain _ opens).2 rfl

/-- Without arguments nothing is added. -/
theorem exceeds_pad (function : String) (add : List Char → List Char → List Char) :
    (pad function add).Exceeds Value.uncounted := by
  have unpadded (value : Value) :
      pad function add value [] = .ok (.string (String.ofList value.text.toList)) := by
    have short : (0 : Int).toNat ≤ value.text.toList.length ∨
        (Arguments.textOr [] 1 " ").toList.isEmpty = true := .inl (Nat.zero_le _)
    have count : Arguments.integerOr [] function 0 0 = .ok 0 := rfl
    simp only [pad, count, bind, Except.bind, if_pos short]
  exact exceeds_of_whole [] (Nat.zero_le _) fun n _ => unpadded (truths (n + 1))

/-- Without arguments the whole text is taken. -/
theorem exceeds_substring : substring.Exceeds Value.uncounted := by
  refine exceeds_of_whole [] (Nat.zero_le _) fun n _ => ?_
  have made (value : Value) : substring value [] = .ok (.string (String.ofList
      (Sequence.between value.text.toList
        (min (clampedPosition 0 value.text.toList.length)
            (clampedPosition value.text.toList.length value.text.toList.length),
          max (clampedPosition 0 value.text.toList.length)
            (clampedPosition value.text.toList.length value.text.toList.length))))) := rfl
  rw [made]
  simp [clampedPosition, Sequence.between]

/-- Nothing is cut off in front of a place behind the text. -/
theorem exceeds_truncate : truncate.Exceeds Value.uncounted := by
  have finite : (2000000.0 : Float).isFinite = true := rfl
  have read : Number.toInt64 2000000.0 = 2000000 := by decide +kernel
  have count : Arguments.integerOr [.number 2000000.0] "truncate" 0 0 = .ok 2000000 :=
    (if_pos finite).trans (congrArg _ read)
  refine exceeds_of_whole [.number 2000000.0] (by decide) fun n few => ?_
  have short : (truths (n + 1)).text.toList.length ≤ (2000000 : Int).toNat := by
    rw [String.length_toList, length_text_truths]
    omega
  rw [truncate, count]
  exact if_pos short

end Texts

end Stencil
