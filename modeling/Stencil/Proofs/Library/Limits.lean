import Mathlib
import Stencil.Library.Standard
import Stencil.Proofs.Calendar.Years
import Stencil.Proofs.Number.Lengths
import Stencil.Proofs.Sorting.Stable
import Stencil.Proofs.Value.Size
/-!
# What a call may generate

A function is limited if no call of it gives a text or an array that is longer than a common limit
and larger than all that the call has been given. Most functions are limited because they only
choose among the parts of what they get, and a few because they ask for the limit. This holds
whatever the values in a call count for themselves, except that eight functions choose among the
characters of a text that is made of any value, and are limited if values count for their texts.
-/

namespace Stencil

/-- How much a call may generate: a common limit, or as much as there is in the value and the
arguments, each of which counts as an element, if values count for themselves as `own` says. -/
def callBound (own : Value → Nat) (value : Value) (args : Arguments) : Nat :=
  max generationLimit (value.sizeBy own + Value.sizeAllBy own args)

/-- Whatever has been made is within a bound. -/
def Within (bound : Nat) (outcome : Except FunctionError Value) : Prop :=
  ∀ result, outcome = .ok result → result.extent ≤ bound

/-- No call makes more than it may generate. -/
def Body.IsLimited (body : Body) (own : Value → Nat) : Prop :=
  ∀ value args, Within (callBound own value args) (body value args)

variable {own : Value → Nat}

section Outcomes

variable {bound : Nat} {value : Value} {args : Arguments}

theorem within_ok {result : Value} (small : result.extent ≤ bound) : Within bound (.ok result) := by
  rintro _ ⟨⟩
  exact small

theorem within_error (error : FunctionError) : Within bound (.error error) := nofun

theorem Within.mono {larger : Nat} {outcome : Except FunctionError Value}
    (within : Within bound outcome) (ordered : bound ≤ larger) : Within larger outcome :=
  fun result made => (within result made).trans ordered

theorem within_bind {α : Type} {first : Except FunctionError α}
    {next : α → Except FunctionError Value}
    (later : ∀ a, first = .ok a → Within bound (next a)) : Within bound (first >>= next) := by
  intro result made
  obtain ⟨a, done, rest⟩ := exists_ok_of_bind made
  exact later a done result rest

theorem within_map {α : Type} {first : Except FunctionError α} {f : α → Value}
    (small : ∀ a, first = .ok a → (f a).extent ≤ bound) : Within bound (first.map f) := by
  cases first with
  | error error => exact within_error error
  | ok a => exact within_ok (small a rfl)

theorem within_limit {function : String} {count : Nat} {outcome : Except FunctionError Value}
    (within : count ≤ generationLimit → Within bound outcome) :
    Within bound (checkGenerated function count >>= fun _ => outcome) := by
  apply within_bind
  intro _ checked
  rw [checkGenerated] at checked
  split at checked
  · cases checked
  · rename_i few
    exact within (not_lt.mp few)

theorem le_callBound_of_limit {length : Nat} (small : length ≤ generationLimit) :
    length ≤ callBound own value args := small.trans (Nat.le_max_left _ _)

theorem le_callBound_of_value {length : Nat} (small : length ≤ value.sizeBy own) :
    length ≤ callBound own value args :=
  (small.trans (Nat.le_add_right _ _)).trans (Nat.le_max_right _ _)

theorem le_callBound_of_args {length : Nat} (small : length ≤ Value.sizeAllBy own args) :
    length ≤ callBound own value args :=
  (small.trans (Nat.le_add_left _ _)).trans (Nat.le_max_right _ _)

end Outcomes

namespace Body

variable {function : String}

theorem isLimited_total {f : Value → Arguments → Value}
    (small : ∀ value args, (f value args).extent ≤ callBound own value args) :
    (total f).IsLimited own :=
  fun value args => within_ok (small value args)

/-- A number, a truth value or an object is no sequence, whatever it is made of. -/
theorem isLimited_of_scalar {f : Value → Arguments → Value}
    (scalar : ∀ value args, (f value args).extent = 0) : (total f).IsLimited own :=
  isLimited_total fun value args => (scalar value args).trans_le (Nat.zero_le _)

theorem isLimited_onArray {f : List Value → Arguments → Except FunctionError Value}
    (small : ∀ items args, Within (Value.sizeAllBy own items) (f items args)) :
    (onArray function f).IsLimited own := by
  intro value args
  cases value with
  | array items => exact (small items args).mono (le_callBound_of_value (Nat.le_refl _))
  | _ => exact within_error _

theorem isLimited_totalOnArray {f : List Value → Arguments → Value}
    (small : ∀ items args, (f items args).extent ≤ Value.sizeAllBy own items) :
    (totalOnArray function f).IsLimited own :=
  isLimited_onArray fun items args => within_ok (small items args)

/-- A body that gives no more elements than it gets. -/
theorem isLimited_of_fewer {f : List Value → Arguments → List Value}
    (fewer : ∀ items args, (f items args).length ≤ items.length) :
    (totalOnArray function fun items args => .array (f items args)).IsLimited own :=
  isLimited_totalOnArray fun items args =>
    (fewer items args).trans (Value.length_le_sizeAllBy items)

theorem isLimited_totalOnObject {f : Entries Value → Arguments → Value}
    (small : ∀ entries args, (f entries args).extent ≤ entries.length) :
    (totalOnObject function f).IsLimited own := by
  intro value args
  cases value with
  | object entries =>
      have counted : entries.length ≤ (Value.object entries).sizeBy own :=
        (Value.length_le_sizeEntriesBy entries).trans (Nat.le_add_left _ _)
      exact within_ok (le_callBound_of_value ((small entries args).trans counted))
  | _ => exact within_error _

end Body

namespace Value

/-- A value that counts for nothing is an absence or empty, and no number but zero is read from
it. -/
theorem toInt64_toNumber_of_sizeBy {value : Value} (none : value.sizeBy textLength = 0) :
    Number.toInt64 value.toNumber = 0 := by
  cases value with
  | undefined => decide +kernel
  | null => decide +kernel
  | bool b => cases b <;> cases none
  | number x => exact absurd none (Number.length_text_pos x).ne'
  | string s =>
      rw [String.length_eq_zero_iff.mp none]
      decide +kernel
  | array items =>
      cases items with
      | nil => decide +kernel
      | cons item rest =>
          rw [sizeBy, sizeAllBy] at none
          omega
  | object entries =>
      have named : 0 < (object entries).textLength := by
        change 0 < objectText.length
        decide
      rw [sizeBy] at none
      omega

end Value

namespace Arguments

variable {args : Arguments} {index : Nat}

theorem sizeBy_get_lt (given : args.given index = true) :
    (args.get index).sizeBy own < Value.sizeAllBy own args := by
  cases here : args[index]? with
  | none => simp [Arguments.given, get, here, Value.isNullish] at given
  | some value =>
      rw [get, here]
      exact Value.sizeBy_lt_of_mem (List.mem_of_getElem? here)

/-- An argument is a text of its own, or the default is taken. -/
theorem textOr_cases (args : Arguments) (index : Nat) (default : String) :
    (args.textOr index default).length < Value.sizeAllBy Value.textLength args ∨
      args.textOr index default = default := by
  rw [textOr]
  split
  · rename_i given
    exact .inl ((Value.length_text_le _).trans_lt (sizeBy_get_lt given))
  · exact .inr rfl

/-- An argument that is read as a number other than zero is something. -/
theorem two_le_sizeAllBy_of_integerOr {function : String} {n : Int}
    (read : args.integerOr function index 0 = .ok n) (nonzero : n ≠ 0) :
    2 ≤ Value.sizeAllBy Value.textLength args := by
  rw [integerOr] at read
  split at read
  · rename_i given
    dsimp only at read
    split at read
    · have something : (args.get index).sizeBy Value.textLength ≠ 0 := by
        intro none
        rw [Value.toInt64_toNumber_of_sizeBy none] at read
        exact nonzero (Except.ok.inj read).symm
      have inside : _ < Value.sizeAllBy Value.textLength args := sizeBy_get_lt given
      omega
    · cases read
  · exact absurd (Except.ok.inj read).symm nonzero

end Arguments

namespace Texts

theorem isLimited_onText {f : List Char → List Char}
    (shorter : ∀ text, (f text).length ≤ text.length) : (onText f).IsLimited Value.textLength := by
  refine Body.isLimited_total fun value args => le_callBound_of_value ?_
  have made := shorter value.text.toList
  rw [String.length_toList] at made
  rw [Value.extent_ofList]
  exact made.trans value.length_text_le

theorem length_trimStart_le (text : List Char) : (Text.trimStart text).length ≤ text.length :=
  List.length_dropWhile_le _ _

theorem length_trimEnd_le (text : List Char) : (Text.trimEnd text).length ≤ text.length := by
  rw [Text.trimEnd, List.length_reverse]
  exact (List.length_dropWhile_le _ _).trans_eq List.length_reverse

theorem length_trim_le (text : List Char) : (Text.trim text).length ≤ text.length :=
  (length_trimEnd_le _).trans (length_trimStart_le _)

/-- Every character of a text is dropped or kept once. -/
theorem length_stripTags_le (text : List Char) : (Text.stripTags text).length ≤ text.length := by
  have run (state : Text.Stripping) :
      (text.foldl Text.Stripping.next state).kept.length ≤ state.kept.length + text.length := by
    induction text generalizing state with
    | nil => exact Nat.le_refl _
    | cons c rest ih =>
        have step : (state.next c).kept.length ≤ state.kept.length + 1 := by
          rw [Text.Stripping.next]
          split
          · exact Nat.le_succ _
          · split
            · exact Nat.le_succ _
            · exact Nat.le_refl _
        have later := ih (state.next c)
        rw [List.foldl_cons, List.length_cons]
        omega
  rw [Text.stripTags, List.length_reverse]
  exact (run {}).trans_eq (Nat.zero_add _)

theorem isLimited_contains : contains.IsLimited own := by
  refine Body.isLimited_total fun value args => ?_
  cases value <;> exact Nat.zero_le _

theorem length_le_utf8ByteSize (s : String) : s.length ≤ s.utf8ByteSize := by
  have counted (text : List Char) : text.length ≤ String.utf8Len text := by
    induction text with
    | nil => exact Nat.le_refl 0
    | cons c rest ih =>
        have bytes := c.utf8Size_pos
        rw [List.length_cons, String.utf8Len_cons]
        omega
  have bytes := counted s.toList
  rwa [String.length_toList, ← String.utf8ByteSize_ofList, String.ofList_toList] at bytes

theorem isLimited_pad (function : String) {add : List Char → List Char → List Char}
    (adds : ∀ text padding, (add text padding).length = text.length + padding.length) :
    (pad function add).IsLimited Value.textLength := by
  intro value args
  refine within_bind fun count _ => ?_
  dsimp only
  split
  · refine within_ok (le_callBound_of_value ?_)
    rw [Value.extent_ofList, String.length_toList]
    exact value.length_text_le
  · rename_i more
    rw [not_or, not_le] at more
    refine within_limit fun small => within_ok (le_callBound_of_limit ?_)
    have cut : (cycled (args.textOr 1 " ").toList (count.toNat - value.text.toList.length)).length ≤
        count.toNat - value.text.toList.length := List.length_take_le _ _
    rw [Value.extent_ofList, adds]
    omega

theorem isLimited_substring : substring.IsLimited Value.textLength := by
  intro value args
  refine within_bind fun start _ => within_bind fun stop _ => within_ok (le_callBound_of_value ?_)
  rw [Value.extent_ofList, Sequence.between, List.length_take, List.length_drop,
    String.length_toList]
  have whole := value.length_text_le
  omega

/-- A suffix by default has one character more than what can be left out for it and the argument
that asks for a cut; the latter is there unless everything is cut off. -/
theorem isLimited_truncate : truncate.IsLimited Value.textLength := by
  intro value args
  refine within_bind fun count read => ?_
  dsimp only
  have whole := value.length_text_le
  split
  · refine within_ok (le_callBound_of_value ?_)
    rwa [Value.extent_ofList, String.length_toList]
  · rename_i longer
    apply within_ok
    have kept := List.length_take_le count.toNat value.text.toList
    rw [String.length_toList] at longer
    change (_ ++ _ : String).length ≤ _
    rw [String.length_append, String.length_ofList]
    rcases args.textOr_cases 1 "..." with given | default
    · refine le_trans ?_ (Nat.le_max_right _ _)
      omega
    · have dots : (args.textOr 1 "...").length = 3 := by rw [default]; rfl
      by_cases nothing : count.toNat = 0
      · refine le_callBound_of_limit ?_
        have enough : 3 ≤ generationLimit := by decide
        omega
      · have asked := Arguments.two_le_sizeAllBy_of_integerOr read (by omega)
        refine le_trans ?_ (Nat.le_max_right _ _)
        omega

/-- The limit is asked for by the count of bytes, of which a character has at least one. -/
theorem isLimited_repeated : repeated.IsLimited own := by
  intro value args
  refine within_bind fun count _ => ?_
  split
  · exact within_error _
  · refine within_limit fun few => ?_
    split
    · exact within_ok (Nat.zero_le _)
    · refine within_ok (le_callBound_of_limit ?_)
      have most : generationLimit < maxCount := by decide
      have counted : value.text.utf8ByteSize * count.toNat ≤ generationLimit := by omega
      rw [Value.extent_ofList, List.length_flatten, List.map_replicate, List.sum_replicate,
        String.length_toList, smul_eq_mul, Nat.mul_comm]
      exact (Nat.mul_le_mul_right _ (length_le_utf8ByteSize _)).trans counted

end Texts

namespace Sequence

theorem isLimited_length : length.IsLimited own := by
  intro value args
  cases value with
  | bool b => exact within_error _
  | number x => exact within_error _
  | _ => exact within_ok (Nat.zero_le _)

theorem isLimited_includes : includes.IsLimited own := by
  intro value args
  cases value with
  | string s => exact within_ok (Nat.zero_le _)
  | array items => exact within_ok (Nat.zero_le _)
  | _ => exact within_error _

theorem isLimited_onParts {function : String} {ofChars : List Char → Value}
    {ofItems : List Value → Value}
    (chars : ∀ text, (ofChars text).extent ≤ text.length)
    (items : ∀ items, (ofItems items).extent ≤ Value.sizeAllBy own items) :
    (onParts function ofChars ofItems).IsLimited own := by
  intro value args
  cases value with
  | string s =>
      have small := chars s.toList
      rw [String.length_toList] at small
      exact within_ok (le_callBound_of_value small)
  | array parts => exact within_ok (le_callBound_of_value (items parts))
  | _ => exact within_error _

theorem extent_ofChar_le {text : List Char} {c : Char} (member : c ∈ text) :
    (Value.ofChar c).extent ≤ text.length :=
  String.length_singleton.trans_le (List.length_pos_of_mem member)

theorem extent_le_sizeAllBy {items : List Value} {item : Value} (member : item ∈ items) :
    item.extent ≤ Value.sizeAllBy own items :=
  item.extent_le_sizeBy.trans (Value.sizeBy_lt_of_mem member).le

theorem isLimited_first : first.IsLimited own := by
  apply isLimited_onParts
  · intro text
    cases text with
    | nil => exact Nat.zero_le _
    | cons c rest => exact extent_ofChar_le List.mem_cons_self
  · intro items
    cases items with
    | nil => exact Nat.zero_le _
    | cons item rest => exact extent_le_sizeAllBy List.mem_cons_self

theorem isLimited_last : last.IsLimited own := by
  apply isLimited_onParts
  · intro text
    cases final : text.getLast? with
    | none => exact Nat.zero_le _
    | some c => exact extent_ofChar_le (List.mem_of_getLast? final)
  · intro items
    cases final : items.getLast? with
    | none => exact Nat.zero_le _
    | some item => exact extent_le_sizeAllBy (List.mem_of_getLast? final)

theorem isLimited_reverse : reverse.IsLimited own := by
  apply isLimited_onParts
  · intro text
    rw [Value.extent_ofList, List.length_reverse]
  · intro items
    exact List.length_reverse.trans_le (Value.length_le_sizeAllBy items)

theorem length_between_le {α : Type} (parts : List α) (range : Nat × Nat) :
    (between parts range).length ≤ parts.length := by
  rw [between, List.length_take, List.length_drop]
  omega

theorem isLimited_slice : slice.IsLimited own := by
  intro value args
  cases value with
  | string s =>
      refine within_map fun range _ => le_callBound_of_value ?_
      rw [Value.extent_ofList]
      exact (length_between_le _ _).trans_eq String.length_toList
  | array items =>
      refine within_map fun range _ => le_callBound_of_value ?_
      exact (length_between_le _ _).trans (Value.length_le_sizeAllBy items)
  | _ => exact within_error _

theorem isLimited_take : take.IsLimited own := by
  refine Body.isLimited_onArray fun items args => within_map fun count _ => ?_
  exact (List.length_take_le' _ _).trans (Value.length_le_sizeAllBy items)

/-- The elements of an element count for it already. -/
theorem isLimited_flatten : flatten.IsLimited own := by
  refine Body.isLimited_totalOnArray fun items _ => ?_
  have nested (item : Value) : (unnested item).length ≤ item.sizeBy own + 1 := by
    cases item with
    | array inner => exact (Value.length_le_sizeAllBy inner).trans (Nat.le_succ _)
    | _ => exact Nat.le_add_left 1 _
  change (items.flatMap unnested).length ≤ _
  rw [List.length_flatMap, Value.sizeAllBy_eq_sum]
  exact List.sum_le_sum fun item _ => nested item

theorem length_uniqueFrom_le (kept items : List Value) :
    (uniqueFrom kept items).length ≤ kept.length + items.length := by
  induction items generalizing kept with
  | nil => exact List.length_reverse.le
  | cons item rest ih =>
      have dropped := ih kept
      have added := ih (item :: kept)
      rw [List.length_cons] at added
      rw [uniqueFrom, List.length_cons]
      split <;> omega

theorem isLimited_unique : unique.IsLimited own := by
  refine Body.isLimited_of_fewer fun items _ => ?_
  exact (length_uniqueFrom_le [] items).trans_eq (Nat.zero_add _)

theorem isLimited_range : range.IsLimited own := by
  intro value args
  rw [range]
  generalize (if args.given 0 = true then _ else _) = ends
  obtain ⟨start, stop⟩ := ends
  dsimp only
  split
  · exact within_error _
  · refine within_limit fun few => within_ok (le_callBound_of_limit ?_)
    have most : generationLimit < maxCount := by decide
    change (List.map _ (List.range _)).length ≤ _
    rw [List.length_map, List.length_range]
    omega

end Sequence

namespace Elements

theorem length_sort {α : Type} (order : α → α → Ordering) (items : List α) :
    (Sorting.sort order items).length = items.length := by
  rw [Sorting.sort]
  split
  · rw [Sorting.byInsertion_eq, List.length_reverse, List.length_insertionSort, List.length_reverse]
  · exact List.length_mergeSort _

theorem isLimited_sortBy : sortBy.IsLimited own := by
  intro value args
  refine within_bind fun reversed _ => ?_
  refine Body.isLimited_of_fewer (fun items args => ?_) value args
  rw [List.length_map, length_sort, List.length_map]

theorem isLimited_average : average.IsLimited own := by
  refine Body.isLimited_onArray fun items args => ?_
  split
  · exact within_error _
  · exact within_ok (Nat.zero_le _)

end Elements

namespace Record

theorem isLimited_merge : merge.IsLimited own := by
  intro value args
  cases value with
  | object entries => exact within_map fun _ _ => Nat.zero_le _
  | _ => exact within_error _

theorem extent_get_le (args : Arguments) (index : Nat) :
    (args.get index).extent ≤ Value.sizeAllBy own args := by
  cases here : args[index]? with
  | none =>
      rw [Arguments.get, here]
      exact Nat.zero_le _
  | some value =>
      rw [Arguments.get, here]
      exact Sequence.extent_le_sizeAllBy (List.mem_of_getElem? here)

theorem isLimited_get : get.IsLimited own := by
  refine Body.isLimited_total fun value args => ?_
  have found := Query.extent_valueAt_le value (args.textOr 0 "")
  split
  · exact le_callBound_of_args (extent_get_le args 1)
  · exact le_callBound_of_value (found.trans (Value.size_le_sizeBy value))

theorem isLimited_default : default.IsLimited own := by
  refine Body.isLimited_total fun value args => ?_
  split
  · exact le_callBound_of_args (extent_get_le args 0)
  · exact le_callBound_of_value value.extent_le_sizeBy

end Record

namespace Arithmetic

theorem isLimited_divide : divide.IsLimited own :=
  fun _ _ => within_bind fun _ _ => within_ok (Nat.zero_le _)

theorem isLimited_modulo : modulo.IsLimited own :=
  fun _ _ => within_bind fun _ _ => within_ok (Nat.zero_le _)

theorem isLimited_extremum (function : String) (choose : Float → Float → Float) :
    (extremum function choose).IsLimited own := by
  intro value args
  rw [extremum]
  split
  · exact within_error _
  · exact within_ok (Nat.zero_le _)

theorem isLimited_clamp : clamp.IsLimited own := by
  intro value args
  rw [clamp]
  split
  · exact within_error _
  · exact within_ok (Nat.zero_le _)

end Arithmetic

namespace Rounding

theorem isLimited_round : round.IsLimited own :=
  fun _ _ => within_bind fun _ _ => within_ok (Nat.zero_le _)

theorem le_of_places {function : String} {args : Arguments} {count : Nat}
    (read : places function args = .ok count) :
    count ≤ 20 := by
  obtain ⟨n, -, kept⟩ := exists_ok_of_bind read
  split at kept
  · rename_i few
    cases kept
    rw [maxPlaces] at few
    omega
  · cases kept

theorem isLimited_toFixed : toFixed.IsLimited own := by
  intro value args
  refine within_bind fun count read => within_ok (le_callBound_of_limit ?_)
  have few := le_of_places read
  have short := Number.length_fixed_le value.toNumber count
  have limit : 2000 ≤ generationLimit := by decide
  change (Number.fixed _ _).length ≤ _
  omega

theorem isLimited_percent : percent.IsLimited own := by
  intro value args
  refine within_bind fun count read => within_ok (le_callBound_of_limit ?_)
  have few := le_of_places read
  have short := Number.length_fixed_le (value.toNumber * 100.0) count
  have limit : 2000 ≤ generationLimit := by decide
  have sign : "%".length = 1 := rfl
  change (_ ++ _ : String).length ≤ _
  rw [String.length_append, sign]
  omega

end Rounding

namespace Dates

open Calendar

variable {function : String}

theorem isNear_ofMillis {millis : Int} {instant : Instant}
    (read : ofMillis function millis = .ok instant) : instant.IsNear := by
  rw [ofMillis] at read
  split at read
  · rename_i found
    cases read
    exact Instant.isNear_ofMillis? found
  · cases read

theorem isNear_instantOf {value : Value} {instant : Instant}
    (read : instantOf function value = .ok instant) : instant.IsNear := by
  cases value with
  | string text =>
      rw [instantOf, ofText] at read
      split at read
      · exact isNear_ofMillis read
      · split at read
        · rename_i found
          cases read
          exact isNear_readWritten? found
        · cases read
  | number x =>
      rw [instantOf] at read
      split at read
      · exact isNear_ofMillis read
      · cases read
  | _ => cases read

theorem isLimited_onInstant {f : Instant → Value} (none : ∀ instant, (f instant).extent = 0) :
    (onInstant function f).IsLimited own :=
  fun _ _ => within_map fun instant _ => (none instant).trans_le (Nat.zero_le _)

theorem isLimited_component (f : Instant → Int) : (component function f).IsLimited own :=
  isLimited_onInstant fun _ => rfl

theorem isLimited_shift (unit : Float) : (shift function unit).IsLimited own := by
  refine fun value args => within_bind fun instant _ => ?_
  dsimp only
  split
  · exact within_error _
  · split
    · exact within_error _
    · exact within_map fun _ _ => Nat.zero_le _

theorem isLimited_addMonths : addMonths.IsLimited own := by
  refine fun value args => within_bind fun instant _ => within_bind fun months _ => ?_
  dsimp only
  split
  · exact within_error _
  · generalize (ite (0 ≤ months) _ _ : Option Instant) = shifted
    cases shifted with
    | some shifted => exact within_ok (Nat.zero_le _)
    | none => exact within_error _

theorem isLimited_diffDays : diffDays.IsLimited own :=
  fun _ _ => within_bind fun _ _ => within_bind fun _ _ => within_ok (Nat.zero_le _)

theorem within_midnight {bound : Nat} (date : Date) :
    Within bound (midnight function date) := by
  rw [midnight]
  split
  · exact within_ok (Nat.zero_le _)
  · exact within_error _

theorem isLimited_startOfDay : startOfDay.IsLimited own :=
  fun _ _ => within_bind fun instant _ => within_midnight instant.date

theorem isLimited_startOfMonth : startOfMonth.IsLimited own := by
  refine fun value args => within_bind fun instant _ => ?_
  split
  · exact within_midnight _
  · exact within_error _

theorem isLimited_toIso : toIso.IsLimited own := by
  intro value args
  refine within_map fun instant read => le_callBound_of_limit ?_
  rw [Value.extent_ofList]
  exact (length_isoText_le (isNear_instantOf read)).trans (by decide)

end Dates

end Stencil
