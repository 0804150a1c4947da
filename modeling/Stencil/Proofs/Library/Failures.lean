import Mathlib
import Stencil.Proofs.Library.Generation
/-!
# Failures of the standard library

A function of the library names itself in its failures, and what several functions share is told for
which of them it works. So whoever raises a failure, it bears the name under which the function is
registered: each entry of the library is gone through once, and what its body calls is asked to fail
under the name of the entry.

This is about calls that give a failure, not about calls that break off. The functions `sort` and
`sortBy` are taken to give a result, which for more than twenty elements without a consistent order
they need not.
-/

namespace Stencil

/-- Whatever fails in an outcome is the function of a name, and not for want of a function. -/
def FailsAs {α : Type} (name : String) (outcome : Except FunctionError α) : Prop :=
  ∀ error, outcome = .error error → error.function = name ∧ error.problem ≠ .unknown

/-- Every failure of a body is a failure of the function of a name. -/
def Body.FailsAs (body : Body) (name : String) : Prop :=
  ∀ value args, Stencil.FailsAs name (body value args)

section Outcomes

variable {α β : Type} {name : String} {first : Except FunctionError α}

theorem failsAs_ok (result : α) : FailsAs name (.ok result) := nofun

theorem failsAs_error {problem : FunctionProblem} (known : problem ≠ .unknown) :
    FailsAs name (.error ⟨name, problem⟩ : Except FunctionError α) := by
  rintro error ⟨⟩
  exact ⟨rfl, known⟩

/-- What is done in two steps fails in the first or in the second. -/
theorem FailsAs.bind {next : α → Except FunctionError β} (ahead : FailsAs name first)
    (behind : ∀ a, FailsAs name (next a)) : FailsAs name (first >>= next) := by
  intro error failed
  cases first with
  | error earlier =>
      cases failed
      exact ahead _ rfl
  | ok a => exact behind a error failed

theorem FailsAs.map (ahead : FailsAs name first) (f : α → β) : FailsAs name (first.map f) := by
  intro error failed
  cases first with
  | error earlier =>
      cases failed
      exact ahead _ rfl
  | ok a => cases failed

theorem failsAs_checkGenerated (count : Nat) : FailsAs name (checkGenerated name count) := by
  unfold checkGenerated
  split
  · exact failsAs_error nofun
  · exact failsAs_ok ()

theorem Arguments.failsAs_integerOr (args : Arguments) (index : Nat) (default : Int) :
    FailsAs name (args.integerOr name index default) := by
  unfold integerOr
  split
  · dsimp only
    split
    · exact failsAs_ok _
    · exact failsAs_error nofun
  · exact failsAs_ok default

end Outcomes

namespace Body

variable {name : String}

theorem failsAs_total (f : Value → Arguments → Value) : (total f).FailsAs name :=
  fun value args => failsAs_ok (f value args)

theorem failsAs_onArray {body : List Value → Arguments → Except FunctionError Value}
    (inner : ∀ items args, Stencil.FailsAs name (body items args)) :
    (onArray name body).FailsAs name := by
  intro value args
  cases value with
  | array items => exact inner items args
  | _ => exact failsAs_error nofun

theorem failsAs_onObject {body : Entries Value → Arguments → Except FunctionError Value}
    (inner : ∀ entries args, Stencil.FailsAs name (body entries args)) :
    (onObject name body).FailsAs name := by
  intro value args
  cases value with
  | object entries => exact inner entries args
  | _ => exact failsAs_error nofun

theorem failsAs_totalOnArray (f : List Value → Arguments → Value) :
    (totalOnArray name f).FailsAs name :=
  failsAs_onArray fun items args => failsAs_ok (f items args)

theorem failsAs_totalOnObject (f : Entries Value → Arguments → Value) :
    (totalOnObject name f).FailsAs name :=
  failsAs_onObject fun entries args => failsAs_ok (f entries args)

end Body

namespace Texts

theorem failsAs_pad (name : String) (add : List Char → List Char → List Char) :
    (pad name add).FailsAs name := by
  intro value args
  apply (args.failsAs_integerOr 0 0).bind
  intro count
  dsimp only
  split
  · exact failsAs_ok _
  · apply (failsAs_checkGenerated _).bind
    exact fun _ => failsAs_ok _

theorem failsAs_substring : substring.FailsAs "substring" := by
  intro value args
  apply (args.failsAs_integerOr 0 0).bind
  intro start
  apply (args.failsAs_integerOr 1 _).bind
  exact fun stop => failsAs_ok _

theorem failsAs_truncate : truncate.FailsAs "truncate" := by
  intro value args
  apply (args.failsAs_integerOr 0 0).bind
  intro count
  dsimp only
  split
  · exact failsAs_ok _
  · exact failsAs_ok _

theorem failsAs_repeated : repeated.FailsAs "repeat" := by
  intro value args
  apply (args.failsAs_integerOr 0 0).bind
  intro count
  split
  · exact failsAs_error nofun
  · apply (failsAs_checkGenerated _).bind
    intro _
    split
    · exact failsAs_ok _
    · exact failsAs_ok _

end Texts

theorem Patterns.failsAs_regexReplace : regexReplace.FailsAs "regexReplace" := by
  intro value args
  unfold regexReplace
  split
  · exact failsAs_error nofun
  · exact failsAs_ok _

namespace Arithmetic

variable {name : String}

theorem failsAs_divisor (args : Arguments) : FailsAs name (divisor name args) := by
  unfold divisor
  dsimp only
  split
  · exact failsAs_error nofun
  · exact failsAs_ok _

theorem failsAs_divide : divide.FailsAs "divide" :=
  fun _ args => (failsAs_divisor args).bind fun _ => failsAs_ok _

theorem failsAs_modulo : modulo.FailsAs "mod" :=
  fun _ args => (failsAs_divisor args).bind fun _ => failsAs_ok _

theorem failsAs_extremum (name : String) (choose : Float → Float → Float) :
    (extremum name choose).FailsAs name := by
  intro value args
  unfold extremum
  split
  · exact failsAs_error nofun
  · exact failsAs_ok _

theorem failsAs_clamp : clamp.FailsAs "clamp" := by
  intro value args
  unfold clamp
  dsimp only
  split
  · exact failsAs_error nofun
  · exact failsAs_ok _

end Arithmetic

namespace Rounding

variable {name : String}

theorem failsAs_round : round.FailsAs "round" :=
  fun _ args => (args.failsAs_integerOr 0 0).bind fun _ => failsAs_ok _

theorem failsAs_places (args : Arguments) : FailsAs name (places name args) := by
  apply (args.failsAs_integerOr 0 0).bind
  intro count
  split
  · exact failsAs_ok _
  · exact failsAs_error nofun

theorem failsAs_toFixed : toFixed.FailsAs "toFixed" :=
  fun _ args => (failsAs_places args).bind fun _ => failsAs_ok _

theorem failsAs_percent : percent.FailsAs "percent" :=
  fun _ args => (failsAs_places args).bind fun _ => failsAs_ok _

theorem failsAs_formatNumber : formatNumber.FailsAs "formatNumber" := by
  intro value args
  unfold formatNumber
  dsimp only
  split
  · apply (failsAs_places args).bind
    exact fun _ => failsAs_ok _
  · exact failsAs_ok _

end Rounding

namespace Dates

open Calendar

variable {name : String}

theorem failsAs_ofMillis (millis : Int) : FailsAs name (ofMillis name millis) := by
  unfold ofMillis
  split
  · exact failsAs_ok _
  · exact failsAs_error nofun

theorem failsAs_ofText (text : String) : FailsAs name (ofText name text) := by
  unfold ofText
  dsimp only
  split
  · exact failsAs_ofMillis _
  · split
    · exact failsAs_ok _
    · exact failsAs_error nofun

theorem failsAs_instantOf (value : Value) : FailsAs name (instantOf name value) := by
  cases value with
  | string text => exact failsAs_ofText text
  | number x =>
      unfold instantOf
      dsimp only
      split
      · exact failsAs_ofMillis _
      · exact failsAs_error nofun
  | _ => exact failsAs_error nofun

theorem failsAs_onInstant (f : Instant → Value) : (onInstant name f).FailsAs name :=
  fun value _ => (failsAs_instantOf value).map f

theorem failsAs_component (f : Instant → Int) : (component name f).FailsAs name :=
  failsAs_onInstant _

theorem failsAs_midnight (date : Date) : FailsAs name (midnight name date) := by
  unfold midnight
  split
  · exact failsAs_ok _
  · exact failsAs_error nofun

theorem failsAs_startOfDay : startOfDay.FailsAs "startOfDay" :=
  fun value _ => (failsAs_instantOf value).bind fun instant => failsAs_midnight instant.date

theorem failsAs_startOfMonth : startOfMonth.FailsAs "startOfMonth" := by
  intro value args
  apply (failsAs_instantOf value).bind
  intro instant
  split
  · exact failsAs_midnight _
  · exact failsAs_error nofun

theorem failsAs_formatDate : formatDate.FailsAs "formatDate" := by
  intro value args
  apply (failsAs_instantOf value).bind
  intro instant
  dsimp only
  split
  · exact failsAs_ok _
  · exact failsAs_error nofun

theorem failsAs_shift (unit : Float) : (shift name unit).FailsAs name := by
  intro value args
  apply (failsAs_instantOf value).bind
  intro instant
  dsimp only
  split
  · exact failsAs_error nofun
  · split
    · exact failsAs_error nofun
    · exact (failsAs_ofMillis _).map toValue

theorem failsAs_addMonths : addMonths.FailsAs "addMonths" := by
  intro value args
  apply (failsAs_instantOf value).bind
  intro instant
  apply (args.failsAs_integerOr 0 0).bind
  intro months
  dsimp only
  split
  · exact failsAs_error nofun
  · generalize (ite (0 ≤ months) _ _ : Option Instant) = shifted
    cases shifted with
    | some shifted => exact failsAs_ok _
    | none => exact failsAs_error nofun

theorem failsAs_diffDays : diffDays.FailsAs "diffDays" := by
  intro value args
  apply (failsAs_instantOf value).bind
  intro instant
  apply (failsAs_instantOf (args.get 0)).bind
  exact fun other => failsAs_ok _

end Dates

namespace Sequence

variable {name : String}

theorem failsAs_length : length.FailsAs "length" := by
  intro value args
  cases value with
  | bool b => exact failsAs_error nofun
  | number x => exact failsAs_error nofun
  | _ => exact failsAs_ok _

theorem failsAs_onParts (ofChars : List Char → Value) (ofItems : List Value → Value) :
    (onParts name ofChars ofItems).FailsAs name := by
  intro value args
  cases value with
  | string s => exact failsAs_ok _
  | array items => exact failsAs_ok _
  | _ => exact failsAs_error nofun

theorem failsAs_bounds (args : Arguments) (length : Nat) :
    FailsAs "slice" (bounds args length) := by
  apply (args.failsAs_integerOr 0 0).bind
  intro start
  apply (args.failsAs_integerOr 1 length).bind
  exact fun stop => failsAs_ok _

theorem failsAs_slice : slice.FailsAs "slice" := by
  intro value args
  cases value with
  | string s => exact (failsAs_bounds args s.length).map _
  | array items => exact (failsAs_bounds args items.length).map _
  | _ => exact failsAs_error nofun

theorem failsAs_take : take.FailsAs "take" :=
  Body.failsAs_onArray fun _ args => (args.failsAs_integerOr 0 0).map _

theorem failsAs_includes : includes.FailsAs "includes" := by
  intro value args
  cases value with
  | string s => exact failsAs_ok _
  | array items => exact failsAs_ok _
  | _ => exact failsAs_error nofun

theorem failsAs_range : range.FailsAs "range" := by
  intro value args
  unfold range
  generalize (if args.given 0 = true then _ else _) = ends
  obtain ⟨start, stop⟩ := ends
  dsimp only
  split
  · exact failsAs_error nofun
  · apply (failsAs_checkGenerated _).bind
    exact fun _ => failsAs_ok _

end Sequence

namespace Elements

theorem failsAs_descending (args : Arguments) : FailsAs "sortBy" (descending args) := by
  unfold descending
  split
  · exact failsAs_ok false
  · exact failsAs_ok true
  · exact failsAs_error nofun

theorem failsAs_sortBy : sortBy.FailsAs "sortBy" := by
  intro value args
  apply (failsAs_descending args).bind
  intro reversed
  exact Body.failsAs_totalOnArray _ value args

theorem failsAs_average : average.FailsAs "avg" := by
  apply Body.failsAs_onArray
  intro items args
  split
  · exact failsAs_error nofun
  · exact failsAs_ok _

end Elements

namespace Record

theorem failsAs_mergeOne (merged : Entries Value) (part : Value) :
    FailsAs "merge" (mergeOne merged part) := by
  cases part with
  | object entries => exact failsAs_ok _
  | _ => exact failsAs_error nofun

/-- Every argument is merged into what the ones before it have been merged into. -/
theorem failsAs_foldlM_mergeOne (merged : Entries Value) (parts : List Value) :
    FailsAs "merge" (parts.foldlM mergeOne merged) := by
  induction parts generalizing merged with
  | nil => exact failsAs_ok merged
  | cons part rest ih =>
      rw [List.foldlM_cons]
      exact (failsAs_mergeOne merged part).bind ih

theorem failsAs_merge : merge.FailsAs "merge" :=
  Body.failsAs_onObject fun entries args => (failsAs_foldlM_mergeOne entries args).map Value.object

end Record

/-- The failures of a function are errors, which bear the name under which it is registered. -/
def Function.NamesItself (function : Function) : Prop :=
  ∀ value args failure, function.handler value args = .error failure →
    ∃ problem, failure = .error ⟨function.signature.name, problem⟩ ∧ problem ≠ .unknown

namespace Library

section Entry

variable {category : Category} {name description returns : String} {parameters : List Parameter}
  {examples : List String} {body : Body}

theorem named (fails : body.FailsAs name) :
    (entry category name description returns parameters examples body).NamesItself := by
  intro value args failure failed
  change (body value args).mapError .error = .error failure at failed
  cases outcome : body value args with
  | ok result =>
      rw [outcome] at failed
      cases failed
  | error error =>
      rw [outcome] at failed
      cases failed
      obtain ⟨same, known⟩ := fails value args error outcome
      exact ⟨error.problem, by rw [entry, Function.ofBody, ← same], known⟩

theorem named_total (f : Value → Arguments → Value) :
    (entry category name description returns parameters examples (.total f)).NamesItself :=
  named (Body.failsAs_total f)

theorem named_totalOnArray (f : List Value → Arguments → Value) :
    (entry category name description returns parameters examples
      (.totalOnArray name f)).NamesItself :=
  named (Body.failsAs_totalOnArray f)

theorem named_totalOnObject (f : Entries Value → Arguments → Value) :
    (entry category name description returns parameters examples
      (.totalOnObject name f)).NamesItself :=
  named (Body.failsAs_totalOnObject f)

end Entry

theorem namesItself_texts : ∀ function ∈ texts, function.NamesItself := by
  simp only [texts, List.forall_mem_cons]
  exact ⟨named_total _, named_total _, named_total _, named_total _, named_total _, named_total _,
    named_total _, named (Texts.failsAs_pad _ _), named (Texts.failsAs_pad _ _), named_total _,
    named Patterns.failsAs_regexReplace, named_total _, named Texts.failsAs_substring,
    named Texts.failsAs_truncate, named_total _, named_total _, named_total _,
    named Texts.failsAs_repeated, named_total _, named_total _, named_total _, named_total _,
    List.forall_mem_nil _⟩

theorem namesItself_numbers : ∀ function ∈ numbers, function.NamesItself := by
  simp only [numbers, List.forall_mem_cons]
  exact ⟨named Rounding.failsAs_round, named_total _, named_total _, named_total _,
    named (Arithmetic.failsAs_extremum _ _), named (Arithmetic.failsAs_extremum _ _),
    named Arithmetic.failsAs_clamp, named Rounding.failsAs_toFixed,
    named Rounding.failsAs_percent, named_total _, named_total _, named_total _,
    named Arithmetic.failsAs_divide, named Arithmetic.failsAs_modulo, named_total _,
    named_total _, named Rounding.failsAs_formatNumber, List.forall_mem_nil _⟩

theorem namesItself_dates : ∀ function ∈ dates, function.NamesItself := by
  simp only [dates, List.forall_mem_cons]
  exact ⟨named (Dates.failsAs_onInstant _), named Dates.failsAs_formatDate,
    named (Dates.failsAs_onInstant _), named (Dates.failsAs_shift _),
    named (Dates.failsAs_shift _), named (Dates.failsAs_shift _), named Dates.failsAs_addMonths,
    named Dates.failsAs_diffDays, named (Dates.failsAs_component _),
    named (Dates.failsAs_component _), named (Dates.failsAs_component _),
    named (Dates.failsAs_component _), named (Dates.failsAs_component _),
    named (Dates.failsAs_component _), named Dates.failsAs_startOfDay,
    named Dates.failsAs_startOfMonth, List.forall_mem_nil _⟩

theorem namesItself_arrays : ∀ function ∈ arrays, function.NamesItself := by
  simp only [arrays, List.forall_mem_cons]
  exact ⟨named Sequence.failsAs_length, named (Sequence.failsAs_onParts _ _),
    named (Sequence.failsAs_onParts _ _), named_totalOnArray _, named_totalOnArray _,
    named Elements.failsAs_sortBy, named (Sequence.failsAs_onParts _ _), named_totalOnArray _,
    named Sequence.failsAs_slice, named_totalOnArray _, named_totalOnArray _,
    named_totalOnArray _, named Elements.failsAs_average, named_totalOnArray _,
    named_totalOnArray _, named_totalOnArray _, named Sequence.failsAs_includes,
    named Sequence.failsAs_take, named Sequence.failsAs_range, List.forall_mem_nil _⟩

theorem namesItself_objects : ∀ function ∈ objects, function.NamesItself := by
  simp only [objects, List.forall_mem_cons]
  exact ⟨named_totalOnObject _, named_totalOnObject _, named_totalOnObject _, named_total _,
    named_totalOnObject _, named_totalOnObject _, named_totalOnObject _,
    named Record.failsAs_merge, named_total _, named_total _, named_total _,
    List.forall_mem_nil _⟩

theorem namesItself_of_mem {function : Function} (member : function ∈ functions) :
    function.NamesItself :=
  forall_functions namesItself_texts namesItself_numbers namesItself_dates namesItself_arrays
    namesItself_objects function member

/-- The failures of the library bear the name that was called, and a function is called unknown
exactly if none is registered under the name. -/
theorem failures_bear_called_name {name : String} {value : Value} {args : List Value}
    {failure : CallFailure} (failed : standard.call name value args = .error failure) :
    ∃ problem, failure = .error ⟨name, problem⟩ ∧
      (problem = .unknown ↔ standard.contains name = false) := by
  by_cases known : name ∈ functions.map fun function => function.signature.name
  · obtain ⟨function, member, rfl⟩ := List.mem_map.mp known
    rw [call_of_mem member] at failed
    obtain ⟨problem, same, other⟩ := namesItself_of_mem member value args failure failed
    refine ⟨problem, same, iff_of_false other ?_⟩
    simp [Registry.contains, get?_of_mem member]
  · rw [call_of_notMem known] at failed
    cases failed
    refine ⟨.unknown, rfl, iff_of_true rfl ?_⟩
    simp [Registry.contains, get?_of_notMem known]

/-- The direction of a sort is refused before anything is said about what is to be sorted. -/
theorem failures_bear_called_name_sortBy :
    standard.call "sortBy" .null [.string "a", .string "down"] =
        .error (.error ⟨"sortBy", .unknownDirection "down"⟩) ∧
      ∃ problem, CallFailure.error ⟨"sortBy", .unknownDirection "down"⟩ =
          .error ⟨"sortBy", problem⟩ ∧
        (problem = .unknown ↔ standard.contains "sortBy" = false) := by
  have registered : arrays.get ⟨5, by decide⟩ ∈ functions :=
    List.mem_append_left _ (List.mem_append_right _ (List.get_mem _ _))
  have failed := call_of_mem registered .null [.string "a", .string "down"]
  exact ⟨failed, failures_bear_called_name failed⟩

end Library

end Stencil
