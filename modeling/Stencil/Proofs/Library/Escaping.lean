import Stencil.Library.Texts
import Stencil.Proofs.Text.Occurrences
/-!
# Escaping and reading back

An escaped text is made of entities and of characters without a meaning of their own, one for each
character of the text. No entity is the beginning of another one, and all of them begin with the
character that is itself never left as it is. So a pass from the left finds exactly the entities
that escaping wrote, also where the text had entities or parts of them before. A text that can stand
in a document is an escaped one, and of one text only.
-/

namespace Stencil

namespace Text

/-- The characters with a meaning of their own, each with the entity that stands for it. -/
def entities : List (Char × List Char) :=
  [('&', "&amp;".toList), ('<', "&lt;".toList), ('>', "&gt;".toList), ('"', "&quot;".toList),
    ('\'', "&#39;".toList)]

/-- What is read at the beginning of a text with `c` in front of `rest`: an entity that stands
there, with its character, or else `c` as it is. -/
def reading (c : Char) (rest : List Char) : Char × List Char :=
  (entities.find? fun written => written.2.isPrefixOf (c :: rest)).getD (c, [c])

/-- The pass that replaces entities by their characters. The first `skip` characters belong to what
has been read before. -/
def unescapeFrom : Nat → List Char → List Char
  | _, [] => []
  | skip + 1, _ :: rest => unescapeFrom skip rest
  | 0, c :: rest => (reading c rest).1 :: unescapeFrom ((reading c rest).2.length - 1) rest

/-- A text with its entities replaced by their characters, in one pass from the left. -/
def unescape (text : List Char) : List Char := unescapeFrom 0 text

variable {c : Char} {written : Char × List Char} {text : List Char}

/-! ## The entities -/

theorem entity_of_mem : written ∈ entities → entity written.1 = written.2 := by
  have all : ∀ written ∈ entities, entity written.1 = written.2 := by decide
  exact all written

theorem entity_of_notMem (plain : c ∉ entities.map Prod.fst) : entity c = [c] := by
  simp only [entities, List.map_cons, List.map_nil, List.mem_cons, List.not_mem_nil, or_false,
    not_or] at plain
  simp [entity, plain]

/-- A character is written as one of the entities or as itself. -/
theorem entity_cases (c : Char) :
    (c, entity c) ∈ entities ∨ c ∉ entities.map Prod.fst ∧ entity c = [c] := by
  by_cases special : c ∈ entities.map Prod.fst
  · rcases List.mem_map.mp special with ⟨written, member, rfl⟩
    exact .inl ((entity_of_mem member).symm ▸ member)
  · exact .inr ⟨special, entity_of_notMem special⟩

/-- No entity is the beginning of another one. -/
theorem entities_prefixFree : ∀ written ∈ entities, ∀ other ∈ entities,
    written.2 <+: other.2 → written = other := by decide

/-- An entity has its only ampersand in front. -/
theorem exists_eq_cons_of_mem {spelling : List Char} (member : (c, spelling) ∈ entities) :
    ∃ rest, spelling = '&' :: rest ∧ '&' ∉ rest := by
  have all : ∀ written ∈ entities,
      written.2 = '&' :: written.2.tail ∧ '&' ∉ written.2.tail := by decide
  exact ⟨_, all _ member⟩

/-! ## Reading an entity back -/

theorem entity_ne_nil (c : Char) : entity c ≠ [] := by
  rcases entity_cases c with special | ⟨_, same⟩
  · rcases exists_eq_cons_of_mem special with ⟨rest, same, _⟩
    exact same ▸ List.cons_ne_nil _ _
  · exact same ▸ List.cons_ne_nil _ _

/-- An entity is found in front of any text, since no other one can stand there. -/
theorem find?_entities (member : written ∈ entities) (text : List Char) :
    entities.find? (fun other => other.2.isPrefixOf (written.2 ++ text)) = some written := by
  cases search : entities.find? fun other => other.2.isPrefixOf (written.2 ++ text) with
  | none =>
      have absent := List.find?_eq_none.mp search written member
      exact absurd (List.isPrefixOf_iff_prefix.mpr (List.prefix_append _ _)) absent
  | some other =>
      have known := List.mem_of_find?_eq_some search
      have stands : other.2 <+: written.2 ++ text := by
        have found := List.find?_some search
        exact List.isPrefixOf_iff_prefix.mp found
      rcases List.prefix_or_prefix_of_prefix stands (List.prefix_append _ _) with short | long
      · rw [entities_prefixFree other known written member short]
      · rw [entities_prefixFree written member other known long]

/-- What a character is written as is read as that character, whatever comes behind. -/
theorem reading_entity {first : Char} {rest : List Char} (starts : entity c = first :: rest)
    (text : List Char) : reading first (rest ++ text) = (c, entity c) := by
  rw [reading, ← List.cons_append, ← starts]
  rcases entity_cases c with special | ⟨plain, same⟩
  · rw [find?_entities special]
    rfl
  · have nothing : entities.find? (fun other => other.2.isPrefixOf (entity c ++ text)) = none := by
      refine List.find?_eq_none.mpr fun other known stands => plain ?_
      rcases exists_eq_cons_of_mem known with ⟨tail, spelled, _⟩
      rw [same, spelled, List.isPrefixOf_iff_prefix, List.singleton_append,
        List.cons_prefix_cons] at stands
      rw [← stands.1]
      decide
    have itself : [c] = first :: rest := same.symm.trans starts
    rw [nothing, same, (List.cons.inj itself).1]
    rfl

theorem unescapeFrom_eq_drop (skip : Nat) (text : List Char) :
    unescapeFrom skip text = unescape (text.drop skip) := by
  induction text generalizing skip with
  | nil => rw [List.drop_nil, unescape, unescapeFrom, unescapeFrom]
  | cons c rest ih =>
      cases skip with
      | zero => rfl
      | succ skip => rw [unescapeFrom, ih, List.drop_succ_cons]

theorem unescape_entity_append (c : Char) (text : List Char) :
    unescape (entity c ++ text) = c :: unescape text := by
  rcases List.exists_cons_of_ne_nil (entity_ne_nil c) with ⟨first, rest, starts⟩
  rw [starts, List.cons_append, unescape, unescapeFrom, reading_entity starts,
    unescapeFrom_eq_drop, starts, List.length_cons, Nat.add_sub_cancel, List.drop_left]

/-! ## Escaped texts -/

theorem escapeMarkup_cons (c : Char) (text : List Char) :
    escapeMarkup (c :: text) = entity c ++ escapeMarkup text := List.flatMap_cons

theorem escapeMarkup_append (text other : List Char) :
    escapeMarkup (text ++ other) = escapeMarkup text ++ escapeMarkup other := List.flatMap_append

theorem unescape_escapeMarkup (text : List Char) : unescape (escapeMarkup text) = text := by
  induction text with
  | nil => rfl
  | cons c rest ih => rw [escapeMarkup_cons, unescape_entity_append, ih]

/-- Entities that the text had are read back as they were, and so are parts of entities. -/
example : unescape "&amp;lt;&amp &lt;".toList = "&lt;&amp <".toList := by decide

/-- The characters that can open or close a tag or a quoted value of a document. -/
def breaking : List Char := ['<', '>', '"', '\'']

theorem notMem_breaking_of_mem_entity {d : Char} (member : d ∈ entity c) : d ∉ breaking := by
  rcases entity_cases c with special | ⟨plain, same⟩
  · have all : ∀ written ∈ entities, written.2.all (· ∉ breaking) := by decide
    exact of_decide_eq_true (List.all_eq_true.mp (all _ special) d member)
  · rw [same, List.mem_singleton] at member
    subst member
    exact fun breaks => plain (List.mem_cons_of_mem '&' breaks)

/-- An ampersand in what a character is written as is the first character of an entity. -/
theorem entity_of_ampersand {index : Nat} (here : (entity c)[index]? = some '&') :
    index = 0 ∧ (c, entity c) ∈ entities := by
  rcases entity_cases c with special | ⟨plain, same⟩
  · rcases exists_eq_cons_of_mem special with ⟨rest, spelled, absent⟩
    refine ⟨?_, special⟩
    cases index with
    | zero => rfl
    | succ index =>
        rw [spelled, List.getElem?_cons_succ] at here
        exact absurd (List.mem_of_getElem? here) absent
  · have member := List.mem_of_getElem? here
    rw [same, List.mem_singleton] at member
    exact absurd (member ▸ by decide) plain

/-- Every ampersand of an escaped text begins an entity. -/
theorem exists_standsAt_of_ampersand {index : Nat}
    (here : (escapeMarkup text)[index]? = some '&') :
    ∃ written ∈ entities, StandsAt written.2 (escapeMarkup text) index := by
  induction text generalizing index with
  | nil => cases here
  | cons c rest ih =>
      rw [escapeMarkup_cons] at here ⊢
      rcases Nat.lt_or_ge index (entity c).length with inside | behind
      · rw [List.getElem?_append_left inside] at here
        rcases entity_of_ampersand here with ⟨rfl, special⟩
        exact ⟨_, special, List.prefix_append _ _⟩
      · rw [List.getElem?_append_right behind] at here
        rcases ih here with ⟨written, member, stands⟩
        refine ⟨written, member, ?_⟩
        rwa [← Nat.add_sub_cancel' behind, ← standsAt_drop, List.drop_left]

/-- That a text can stand anywhere in a document: no character of it breaks the document, and every
ampersand of it begins an entity. -/
structure IsEscaped (escaped : List Char) : Prop where
  safe : ∀ c ∈ escaped, c ∉ breaking
  ampersands : ∀ index, escaped[index]? = some '&' →
    ∃ written ∈ entities, StandsAt written.2 escaped index

/-- That `escaped` is a text as it can stand in a document, with nothing of it lost. -/
structure Escapes (text escaped : List Char) : Prop extends IsEscaped escaped where
  restored : unescape escaped = text

theorem escapes_escapeMarkup (text : List Char) : Escapes text (escapeMarkup text) where
  safe _ member := by
    rcases List.mem_flatMap.mp member with ⟨c, _, inside⟩
    exact notMem_breaking_of_mem_entity inside
  ampersands _ := exists_standsAt_of_ampersand
  restored := unescape_escapeMarkup text

namespace IsEscaped

variable {front behind escaped : List Char}

theorem of_append (whole : IsEscaped (front ++ behind)) : IsEscaped behind where
  safe c member := whole.safe c (List.mem_append_right _ member)
  ampersands index here := by
    have place : (front ++ behind)[front.length + index]? = some '&' := by
      rwa [List.getElem?_append_right (Nat.le_add_right _ _), Nat.add_sub_cancel_left]
    rcases whole.ampersands _ place with ⟨written, member, stands⟩
    rw [← standsAt_drop, List.drop_left] at stands
    exact ⟨written, member, stands⟩

/-- What can stand in a document begins with what some character is written as. -/
theorem exists_eq_entity_append (starts : IsEscaped (c :: text)) :
    ∃ first behind, c :: text = entity first ++ behind := by
  by_cases ampersand : c = '&'
  · rcases starts.ampersands 0 (congrArg some ampersand) with ⟨written, member, behind, whole⟩
    exact ⟨written.1, behind, by rw [entity_of_mem member, whole, List.drop_zero]⟩
  · have unbroken := starts.safe c List.mem_cons_self
    have plain : c ∉ entities.map Prod.fst := fun special =>
      unbroken (List.mem_of_ne_of_mem ampersand special)
    exact ⟨c, text, by rw [entity_of_notMem plain, List.singleton_append]⟩

theorem exists_eq_escapeMarkup (whole : IsEscaped escaped) :
    ∃ text, escaped = escapeMarkup text := by
  induction size : escaped.length using Nat.strongRecOn generalizing escaped with
  | ind length ih =>
      cases escaped with
      | nil => exact ⟨[], rfl⟩
      | cons c rest =>
          rcases whole.exists_eq_entity_append with ⟨first, behind, same⟩
          rw [same] at whole size ⊢
          have shorter : behind.length < length := by
            have nonempty := List.length_pos_iff.mpr (entity_ne_nil first)
            rw [← size, List.length_append]
            omega
          rcases ih _ shorter whole.of_append rfl with ⟨text, rfl⟩
          exact ⟨first :: text, (escapeMarkup_cons first text).symm⟩

end IsEscaped

/-- There is no other way for a text to stand in a document. -/
theorem escapes_iff {escaped : List Char} :
    Escapes text escaped ↔ escaped = escapeMarkup text := by
  constructor
  · intro escapes
    rcases escapes.exists_eq_escapeMarkup with ⟨other, rfl⟩
    rw [← escapes.restored, unescape_escapeMarkup]
  · rintro rfl
    exact escapes_escapeMarkup text

end Text

namespace Texts

open Text

theorem escapeHtml_eq (value : Value) (args : Arguments) :
    escapeHtml value args = .ok (.string (String.ofList (escapeMarkup value.text.toList))) := rfl

/-- Every value can be escaped. The result has no character that breaks a document, every ampersand
of it begins an entity, and putting the characters for the entities gives the text of the value
back. So values with the same result have the same text, and the result for two texts in a row is
that for the first one with that for the second one behind it. -/
theorem escapeHtml_lossless (value : Value) (args : Arguments) :
    ∃ escaped : String, escapeHtml value args = .ok (.string escaped) ∧
      Escapes value.text.toList escaped.toList ∧
      (∀ other others, escapeHtml other others = .ok (.string escaped) →
        other.text = value.text) ∧
      ∀ (second whole : Value) (others : Arguments), whole.text = value.text ++ second.text →
        ∃ more : String, escapeHtml second others = .ok (.string more) ∧
          escapeHtml whole others = .ok (.string (escaped ++ more)) := by
  refine ⟨_, escapeHtml_eq value args, ?_, ?_, ?_⟩
  · rw [String.toList_ofList]
    exact escapes_escapeMarkup _
  · intro other others same
    have written := String.ofList_injective (Value.string.inj (Except.ok.inj same))
    apply String.toList_injective
    rw [← unescape_escapeMarkup other.text.toList, written, unescape_escapeMarkup]
  · intro second whole others joined
    refine ⟨_, escapeHtml_eq second others, ?_⟩
    rw [escapeHtml_eq, joined, String.toList_append, escapeMarkup_append, String.ofList_append]

end Texts

end Stencil
