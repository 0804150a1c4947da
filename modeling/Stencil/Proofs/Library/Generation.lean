import Mathlib
import Stencil.Proofs.Library.Excesses
/-!
# The limit of the standard library

The functions that keep to the limit of a call are listed here by those that do not: thirteen that
exceed it, and eight more that exceed it only if values do not count for their texts. Every entry of
the library is gone through once, and a call by a name is a call of the one entry that has this
name.
-/

namespace Stencil

namespace Registry

variable (registry : Registry) {functions : List Function}

theorem get?_register (function : Function) (name : String) :
    (registry.register function).get? name =
      if function.signature.name = name then some function else registry.get? name :=
  Entries.find?_insert _ _ _ _

theorem get?_registerAll_of_notMem {name : String}
    (unknown : name ∉ functions.map fun function => function.signature.name) :
    (registry.registerAll functions).get? name = registry.get? name := by
  induction functions generalizing registry with
  | nil => rfl
  | cons function rest ih =>
      rw [List.map_cons, List.mem_cons, not_or] at unknown
      have later := ih (registry.register function) unknown.2
      rw [get?_register, if_neg (Ne.symm unknown.1)] at later
      exact later

/-- Functions with distinct names are all found. -/
theorem get?_registerAll_of_mem
    (distinct : (functions.map fun function => function.signature.name).Nodup)
    {function : Function} (member : function ∈ functions) :
    (registry.registerAll functions).get? function.signature.name = some function := by
  induction functions generalizing registry with
  | nil => cases member
  | cons first rest ih =>
      rw [List.map_cons, List.nodup_cons] at distinct
      rcases List.mem_cons.mp member with rfl | later
      · have last := get?_registerAll_of_notMem (registry.register function) distinct.1
        rw [get?_register, if_pos rfl] at last
        exact last
      · exact ih (registry.register first) distinct.2 later

end Registry

namespace Function

/-- No call makes more than it may generate. -/
def IsLimited (function : Function) (own : Value → Nat) : Prop :=
  ∀ value args result, function.handler value args = .ok result →
    result.extent ≤ callBound own value args

/-- Some call makes more than it may generate. -/
def Exceeds (function : Function) (own : Value → Nat) : Prop :=
  ∃ value args result, function.handler value args = .ok result ∧
    callBound own value args < result.extent

variable {function : Function} {own : Value → Nat}

theorem Exceeds.uncounted (exceeds : function.Exceeds own) : function.Exceeds Value.uncounted := by
  obtain ⟨value, args, result, made, long⟩ := exceeds
  exact ⟨value, args, result, made, (callBound_uncounted_le value args).trans_lt long⟩

theorem Exceeds.not_isLimited (exceeds : function.Exceeds own) : ¬ function.IsLimited own := by
  obtain ⟨value, args, result, made, long⟩ := exceeds
  exact fun keeps => absurd (keeps value args result made) (not_le.mpr long)

end Function

namespace Library

/-- The functions that may make more than they are given without asking for the limit. -/
def unlimited : List String :=
  ["upper", "lower", "capitalize", "title", "replace", "regexReplace", "split", "slugify",
    "escapeHtml", "formatNumber", "formatDate", "join", "json"]

/-- The functions that give as much as there is of the text of any value, which may be longer than
the value is large. -/
def textual : List String :=
  ["trim", "trimStart", "trimEnd", "padStart", "padEnd", "substring", "truncate", "stripTags"]

/-- Which limit a function keeps to, by its name. -/
inductive Settled (function : Function) : Prop where
  /-- It exceeds the limit of a call even if values count for their texts. -/
  | exceeding (listed : function.signature.name ∈ unlimited)
      (exceeds : function.Exceeds Value.textLength)
  /-- It keeps to the limit only if values count for their texts. -/
  | asWritten (listed : function.signature.name ∈ textual)
      (unlisted : function.signature.name ∉ unlimited) (exceeds : function.Exceeds Value.uncounted)
      (limited : function.IsLimited Value.textLength)
  /-- It keeps to the limit whatever values count for themselves. -/
  | limited (unlisted : function.signature.name ∉ unlimited ++ textual)
      (limited : ∀ own, function.IsLimited own)

section Entry

variable {category : Category} {name description returns : String} {parameters : List Parameter}
  {examples : List String} {body : Body}

/-- A function succeeds where its body does. -/
theorem handler_entry_eq_ok {value result : Value} {args : Arguments} :
    (entry category name description returns parameters examples body).handler value args =
      .ok result ↔ body value args = .ok result := by
  rw [entry, Function.ofBody]
  dsimp only
  cases body value args with
  | error problem => exact ⟨nofun, nofun⟩
  | ok other =>
      exact ⟨fun made => congrArg _ (Except.ok.inj made),
        fun made => congrArg _ (Except.ok.inj made)⟩

theorem isLimited_entry {own : Value → Nat} (limited : body.IsLimited own) :
    (entry category name description returns parameters examples body).IsLimited own :=
  fun value args result made => limited value args result (handler_entry_eq_ok.mp made)

theorem exceeds_entry {own : Value → Nat} (exceeds : body.Exceeds own) :
    (entry category name description returns parameters examples body).Exceeds own := by
  obtain ⟨value, args, result, made, long⟩ := exceeds
  exact ⟨value, args, result, handler_entry_eq_ok.mpr made, long⟩

theorem exceeding (listed : name ∈ unlimited) (exceeds : body.Exceeds Value.textLength) :
    Settled (entry category name description returns parameters examples body) :=
  .exceeding listed (exceeds_entry exceeds)

theorem asWritten (listed : name ∈ textual ∧ name ∉ unlimited)
    (exceeds : body.Exceeds Value.uncounted) (limited : body.IsLimited Value.textLength) :
    Settled (entry category name description returns parameters examples body) :=
  .asWritten listed.1 listed.2 (exceeds_entry exceeds) (isLimited_entry limited)

theorem limited (unlisted : name ∉ unlimited ++ textual) (limited : ∀ {own}, body.IsLimited own) :
    Settled (entry category name description returns parameters examples body) :=
  .limited unlisted fun _ => isLimited_entry limited

end Entry

/-- What is left in the log is no part of a result. -/
theorem noted {function : Function} (settled : Settled function)
    (remarks : Value → Arguments → List String) : Settled (noting function remarks) := by
  cases settled with
  | exceeding listed exceeds => exact .exceeding listed exceeds
  | asWritten listed unlisted exceeds limited => exact .asWritten listed unlisted exceeds limited
  | limited unlisted limited => exact .limited unlisted limited

theorem settled_texts : ∀ function ∈ texts, Settled function := by
  simp only [texts, List.forall_mem_cons]
  refine ⟨exceeding (by decide) Texts.exceeds_upper,
    exceeding (by decide) Texts.exceeds_lower,
    exceeding (by decide) Texts.exceeds_capitalize,
    exceeding (by decide) Texts.exceeds_title,
    asWritten (by decide) Texts.exceeds_trim (Texts.isLimited_onText Texts.length_trim_le),
    asWritten (by decide) Texts.exceeds_trimStart
      (Texts.isLimited_onText Texts.length_trimStart_le),
    asWritten (by decide) Texts.exceeds_trimEnd (Texts.isLimited_onText Texts.length_trimEnd_le),
    asWritten (by decide) (Texts.exceeds_pad _ _)
      (Texts.isLimited_pad _ fun text padding => ?_),
    asWritten (by decide) (Texts.exceeds_pad _ _)
      (Texts.isLimited_pad _ fun text padding => List.length_append),
    exceeding (by decide) Texts.exceeds_replace,
    exceeding (by decide) Patterns.exceeds_regexReplace,
    exceeding (by decide) Texts.exceeds_split,
    asWritten (by decide) Texts.exceeds_substring Texts.isLimited_substring,
    asWritten (by decide) Texts.exceeds_truncate Texts.isLimited_truncate,
    limited (by decide) (Body.isLimited_of_scalar fun _ _ => rfl),
    limited (by decide) (Body.isLimited_of_scalar fun _ _ => rfl),
    limited (by decide) Texts.isLimited_contains,
    limited (by decide) Texts.isLimited_repeated,
    exceeding (by decide) Patterns.exceeds_slugify,
    exceeding (by decide) Texts.exceeds_escapeHtml,
    asWritten (by decide) Texts.exceeds_stripTags
      (Texts.isLimited_onText Texts.length_stripTags_le),
    limited (by decide) (Body.isLimited_of_scalar fun _ _ => rfl), List.forall_mem_nil _⟩
  rw [List.length_append, Nat.add_comm]

theorem settled_numbers : ∀ function ∈ numbers, Settled function := by
  simp only [numbers, List.forall_mem_cons]
  exact ⟨limited (by decide) Rounding.isLimited_round,
    limited (by decide) (Body.isLimited_of_scalar fun _ _ => rfl),
    limited (by decide) (Body.isLimited_of_scalar fun _ _ => rfl),
    limited (by decide) (Body.isLimited_of_scalar fun _ _ => rfl),
    limited (by decide) (Arithmetic.isLimited_extremum _ _),
    limited (by decide) (Arithmetic.isLimited_extremum _ _),
    limited (by decide) Arithmetic.isLimited_clamp,
    limited (by decide) Rounding.isLimited_toFixed,
    limited (by decide) Rounding.isLimited_percent,
    limited (by decide) (Body.isLimited_of_scalar fun _ _ => rfl),
    limited (by decide) (Body.isLimited_of_scalar fun _ _ => rfl),
    limited (by decide) (Body.isLimited_of_scalar fun _ _ => rfl),
    limited (by decide) Arithmetic.isLimited_divide,
    limited (by decide) Arithmetic.isLimited_modulo,
    limited (by decide) (Body.isLimited_of_scalar fun _ _ => rfl),
    limited (by decide) (Body.isLimited_of_scalar fun _ _ => rfl),
    exceeding (by decide) Rounding.exceeds_formatNumber,
    List.forall_mem_nil _⟩

theorem settled_dates : ∀ function ∈ dates, Settled function := by
  simp only [dates, List.forall_mem_cons]
  exact ⟨limited (by decide) (Dates.isLimited_onInstant fun _ => rfl),
    exceeding (by decide) Dates.exceeds_formatDate,
    limited (by decide) Dates.isLimited_toIso,
    limited (by decide) (Dates.isLimited_shift _),
    limited (by decide) (Dates.isLimited_shift _),
    limited (by decide) (Dates.isLimited_shift _),
    limited (by decide) Dates.isLimited_addMonths,
    limited (by decide) Dates.isLimited_diffDays,
    limited (by decide) (Dates.isLimited_component _),
    limited (by decide) (Dates.isLimited_component _),
    limited (by decide) (Dates.isLimited_component _),
    limited (by decide) (Dates.isLimited_component _),
    limited (by decide) (Dates.isLimited_component _),
    limited (by decide) (Dates.isLimited_component _),
    limited (by decide) Dates.isLimited_startOfDay,
    limited (by decide) Dates.isLimited_startOfMonth, List.forall_mem_nil _⟩

theorem settled_arrays : ∀ function ∈ arrays, Settled function := by
  simp only [arrays, List.forall_mem_cons]
  exact ⟨limited (by decide) Sequence.isLimited_length,
    limited (by decide) Sequence.isLimited_first,
    limited (by decide) Sequence.isLimited_last,
    exceeding (by decide) Sequence.exceeds_join,
    limited (by decide) (Body.isLimited_of_fewer fun _ _ => (Elements.length_sort _ _).le),
    noted (limited (by decide) Elements.isLimited_sortBy) _,
    limited (by decide) Sequence.isLimited_reverse,
    limited (by decide) Sequence.isLimited_unique,
    limited (by decide) Sequence.isLimited_slice,
    limited (by decide) Sequence.isLimited_flatten,
    limited (by decide) (Body.isLimited_of_fewer fun _ _ => List.length_filter_le _ _),
    limited (by decide) (Body.isLimited_totalOnArray fun _ _ => Nat.zero_le _),
    limited (by decide) Elements.isLimited_average,
    noted (limited (by decide) (Body.isLimited_of_fewer fun _ _ => (List.length_map _).le)) _,
    noted (limited (by decide) (Body.isLimited_of_fewer fun _ _ => List.length_filter_le _ _)) _,
    noted (limited (by decide) (Body.isLimited_totalOnArray fun _ _ => Nat.zero_le _)) _,
    limited (by decide) Sequence.isLimited_includes,
    limited (by decide) Sequence.isLimited_take,
    limited (by decide) Sequence.isLimited_range, List.forall_mem_nil _⟩

theorem settled_objects : ∀ function ∈ objects, Settled function := by
  simp only [objects, List.forall_mem_cons]
  exact ⟨limited (by decide) (Body.isLimited_totalOnObject fun _ _ => (List.length_map _).le),
    limited (by decide) (Body.isLimited_totalOnObject fun _ _ => (List.length_map _).le),
    limited (by decide) (Body.isLimited_totalOnObject fun _ _ => (List.length_map _).le),
    noted (limited (by decide) Record.isLimited_get) _,
    limited (by decide) (Body.isLimited_totalOnObject fun _ _ => Nat.zero_le _),
    limited (by decide) (Body.isLimited_totalOnObject fun _ _ => Nat.zero_le _),
    limited (by decide) (Body.isLimited_totalOnObject fun _ _ => Nat.zero_le _),
    limited (by decide) Record.isLimited_merge,
    exceeding (by decide) Record.exceeds_json,
    limited (by decide) Record.isLimited_default,
    limited (by decide) (Body.isLimited_of_scalar fun _ _ => rfl), List.forall_mem_nil _⟩

/-- All functions of the library. -/
def functions : List Function := texts ++ numbers ++ dates ++ arrays ++ objects

/-- What holds of the functions of every group holds of all functions. -/
theorem forall_functions {holds : Function → Prop} (onTexts : ∀ function ∈ texts, holds function)
    (onNumbers : ∀ function ∈ numbers, holds function)
    (onDates : ∀ function ∈ dates, holds function)
    (onArrays : ∀ function ∈ arrays, holds function)
    (onObjects : ∀ function ∈ objects, holds function) :
    ∀ function ∈ functions, holds function := by
  intro function member
  simp only [functions, List.mem_append] at member
  rcases member with (((text | number) | date) | array) | object
  · exact onTexts function text
  · exact onNumbers function number
  · exact onDates function date
  · exact onArrays function array
  · exact onObjects function object

theorem settled_of_mem {function : Function} (member : function ∈ functions) :
    Settled function :=
  forall_functions settled_texts settled_numbers settled_dates settled_arrays settled_objects
    function member

theorem nodup_names : (functions.map fun function => function.signature.name).Nodup := by
  decide +kernel

theorem get?_of_mem {function : Function} (member : function ∈ functions) :
    standard.get? function.signature.name = some function :=
  Registry.get?_registerAll_of_mem .empty nodup_names member

theorem get?_of_notMem {name : String}
    (unknown : name ∉ functions.map fun function => function.signature.name) :
    standard.get? name = none :=
  Registry.get?_registerAll_of_notMem .empty unknown

theorem call_of_mem {function : Function} (member : function ∈ functions) (value : Value)
    (args : List Value) :
    standard.call function.signature.name value args = function.handler value args := by
  rw [Registry.call, get?_of_mem member]

theorem call_of_notMem {name : String}
    (unknown : name ∉ functions.map fun function => function.signature.name) (value : Value)
    (args : List Value) : standard.call name value args = .error (.error ⟨name, .unknown⟩) := by
  rw [Registry.call, get?_of_notMem unknown]

theorem known_of_listed {name : String} (listed : name ∈ unlimited ++ textual) :
    name ∈ functions.map fun function => function.signature.name := by
  have known : ∀ name ∈ unlimited ++ textual,
      name ∈ functions.map fun function => function.signature.name := by decide +kernel
  exact known name listed

/-- Whether a function keeps to the limit of a call is read off the lists. -/
theorem Settled.keeps_iff {function : Function} (settled : Settled function) :
    (function.IsLimited Value.uncounted ↔ function.signature.name ∉ unlimited ++ textual) ∧
      (function.IsLimited Value.textLength ↔ function.signature.name ∉ unlimited) := by
  cases settled with
  | exceeding listed exceeds =>
      refine ⟨iff_of_false exceeds.uncounted.not_isLimited fun unlisted => ?_,
        iff_of_false exceeds.not_isLimited (not_not_intro listed)⟩
      exact unlisted (List.mem_append_left _ listed)
  | asWritten listed unlisted exceeds limited =>
      refine ⟨iff_of_false exceeds.not_isLimited fun unlisted => ?_, iff_of_true limited unlisted⟩
      exact unlisted (List.mem_append_right _ listed)
  | limited unlisted limited =>
      refine ⟨iff_of_true (limited _) unlisted, iff_of_true (limited _) fun listed => ?_⟩
      exact unlisted (List.mem_append_left _ listed)

/-- The texts and arrays that calls of a function give are no longer than the limit, or than the
value and the arguments are large, unless the function is one of twenty-one; and each of those has
calls that give more. What counts are the characters of texts and keys, elements, entries, and each
argument as an element. If numbers, truth values and objects count as well, for the characters that
they are written with, then only thirteen functions have such calls. -/
theorem keeps_limit_iff (name : String) :
    ((∀ value args result, standard.call name value args = .ok result →
      result.extent ≤ max generationLimit (value.size + Value.sizeAll args)) ↔
      name ∉ unlimited ++ textual) ∧
    ((∀ value args result, standard.call name value args = .ok result →
      result.extent ≤ max generationLimit (value.writtenSize + Value.writtenSizeAll args)) ↔
      name ∉ unlimited) := by
  by_cases known : name ∈ functions.map fun function => function.signature.name
  · obtain ⟨function, member, rfl⟩ := List.mem_map.mp known
    simp only [call_of_mem member]
    exact (settled_of_mem member).keeps_iff
  · have unlisted : name ∉ unlimited ++ textual := fun listed => known (known_of_listed listed)
    simp only [call_of_notMem known]
    exact ⟨iff_of_true nofun unlisted,
      iff_of_true nofun fun listed => unlisted (List.mem_append_left _ listed)⟩

/-- The empty texts of absences with a separator between them are longer than the limit. -/
theorem join_exceeds_limit :
    ∃ joined : String,
      standard.call "join" (.array (List.replicate 1100 .null))
        [.string (String.ofList (List.replicate 1000 'x'))] = .ok (.string joined) ∧
      joined.length = 1099000 ∧
      ¬ (Value.string joined).extent ≤
        max generationLimit ((Value.array (List.replicate 1100 .null)).size +
          Value.sizeAll [.string (String.ofList (List.replicate 1000 'x'))]) ∧
      ¬ (Value.string joined).extent ≤
        max generationLimit ((Value.array (List.replicate 1100 .null)).writtenSize +
          Value.writtenSizeAll [.string (String.ofList (List.replicate 1000 'x'))]) := by
  have registered : arrays.get ⟨3, by decide⟩ ∈ functions :=
    List.mem_append_left _ (List.mem_append_right _ (List.get_mem _ _))
  have made := Sequence.join_nulls (1099 + 1) 1000
  have length := length_intercalate_replicate (String.ofList (List.replicate 1000 'x')) "" 1099
  rw [length_copies] at length
  have given (own : Value → Nat) :
      Value.sizeAllBy own [.string (String.ofList (List.replicate 1000 'x'))] = 1001 := by
    rw [Value.sizeAllBy, Value.sizeAllBy, Value.sizeBy, length_copies]
  refine ⟨_, (call_of_mem registered _ _).trans (handler_entry_eq_ok.mpr made), length, ?_, ?_⟩
  · change ¬ String.length _ ≤ _
    rw [length, Value.size, sizeBy_nulls rfl, Value.sizeAll, given]
    decide
  · change ¬ String.length _ ≤ _
    rw [length, Value.writtenSize, sizeBy_nulls rfl, Value.writtenSizeAll, given]
    decide

end Library

end Stencil
