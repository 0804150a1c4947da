import Stencil.Proofs.Expr.Regions
import Stencil.Proofs.Text.Places
/-!
# Expressions stand in the text of their template

The source of an expression is a part of the text of a template, and the reader is told where that
part begins. What was cut from the source then stands in the whole text: each node is the part of
the text between two indices, its region goes from the place of the one to the place of the other,
and the expressions directly inside of it stand one behind the other between them.
-/

namespace Stencil

open Text Reference

/-- That an extent is the part of a text between two indices: its source is that part, and its
region goes from the place of the one index to that of the other. -/
structure Extent.Covers (text : List Char) (first : Nat) (extent : Extent) (last : Nat) : Prop where
  ordered : first ≤ last
  inside : last ≤ text.length
  raw : extent.raw = some (String.ofList (text.extract first last))
  span : extent.span = ⟨place text first, place text last⟩

/-- An extent covers one part of a text only. -/
theorem Extent.Covers.unique {text : List Char} {extent : Extent} {first last start stop : Nat}
    (one : extent.Covers text first last) (two : extent.Covers text start stop) :
    first = start ∧ last = stop := by
  have same := one.span.symm.trans two.span
  have ordered := one.ordered
  have orderedToo := two.ordered
  have inside := one.inside
  have insideToo := two.inside
  constructor
  · exact place_injective (by omega) (by omega) (congrArg Span.start same)
  · exact place_injective (by omega) (by omega) (congrArg Span.stop same)

namespace Expr

/-- That expressions stand in a text between two indices, each behind the one before it. -/
inductive InOrder (text : List Char) : Nat → List Expr → Nat → Prop where
  | nil {first last : Nat} (ordered : first ≤ last) : InOrder text first [] last
  | cons {first start stop last : Nat} {expr : Expr} {others : List Expr} (ahead : first ≤ start)
      (here : expr.extent.Covers text start stop) (behind : InOrder text stop others last) :
      InOrder text first (expr :: others) last

/-- That an expression is the part of a text between two indices, and that the expressions directly
inside of it stand there in order. -/
structure Stands (text : List Char) (first : Nat) (expr : Expr) (last : Nat) : Prop where
  covers : expr.extent.Covers text first last
  inside : InOrder text first expr.children last

/-- That an expression stands in a text between two indices with everything inside of it, or is none
and has no source. -/
def Placed (text : List Char) (first : Nat) (expr : Expr) (last : Nat) : Prop :=
  expr.isMalformed = true ∧ expr.raw = none ∨
    (∃ start stop, first ≤ start ∧ stop ≤ last ∧ expr.extent.Covers text start stop) ∧
      ∀ part ∈ expr.walk, ∃ start stop, part.Stands text start stop

theorem Placed.widen {text : List Char} {first start stop last : Nat} {expr : Expr}
    (placed : expr.Placed text start stop) (before : first ≤ start) (after : stop ≤ last) :
    expr.Placed text first last := by
  rcases placed with none | ⟨⟨begin, finish, ahead, behind, covers⟩, parts⟩
  · exact .inl none
  · refine .inr ⟨⟨begin, finish, ?_, ?_, covers⟩, parts⟩
    · exact Nat.le_trans before ahead
    · exact Nat.le_trans behind after

end Expr

namespace Expr.Parser

variable {text : List Char} {first last : Nat} {start rest : List Char}

/-- The index of a text at which a rest begins of the part that ends at `last`. -/
def indexOf (last : Nat) (rest : List Char) : Nat := last - rest.length

theorem eq_extract_of_suffix (ordered : first ≤ last) (inside : last ≤ text.length)
    (suffix : rest <:+ text.extract first last) :
    first ≤ indexOf last rest ∧ indexOf last rest ≤ last ∧
      rest = text.extract (indexOf last rest) last := by
  have shorter := suffix.length_le
  rw [length_extract inside] at shorter
  have after : first ≤ indexOf last rest := by
    unfold indexOf
    omega
  have before : indexOf last rest ≤ last := Nat.sub_le _ _
  refine ⟨after, before, ?_⟩
  -- Both ends of the cut have the length of the rest, so they are the same.
  have whole := extract_append_extract text after before
  rcases suffix with ⟨taken, same⟩
  rw [← same] at whole
  apply (List.append_inj_right' whole _).symm
  rw [length_extract inside]
  unfold indexOf
  omega

theorem take_extract {count : Nat} (short : first + count ≤ last) :
    (text.extract first last).take count = text.extract first (first + count) := by
  rw [List.extract_eq_take_drop, List.extract_eq_take_drop, List.take_take, Nat.add_sub_cancel_left]
  congr 1
  omega

/-- Walking over what is in front of a rest of a part of a text gives the place of the rest. -/
theorem advanced_rest (ordered : first ≤ last) (inside : last ≤ text.length)
    (suffix : rest <:+ text.extract first last) :
    (place text first).advanced
      ((text.extract first last).take ((text.extract first last).length - rest.length)) =
        place text (indexOf last rest) := by
  have shorter := suffix.length_le
  rw [length_extract inside] at shorter ⊢
  have same : first + (last - first - rest.length) = indexOf last rest := by
    unfold indexOf
    omega
  rw [take_extract (by omega), place_advanced text (by omega), same]

theorem advanced_front (ordered : first ≤ last) (inside : last ≤ text.length) {front : List Char}
    (whole : front ++ rest = text.extract first last) :
    (place text first).advanced front = place text (indexOf last rest) := by
  have walked := advanced_rest ordered inside ⟨front, whole⟩
  rwa [← whole, List.length_append, Nat.add_sub_cancel, List.take_left] at walked

theorem covers_extent (ordered : first ≤ last) (inside : last ≤ text.length)
    (begins : start <:+ text.extract first last) (taken : rest <:+ start) :
    ((Source.ofText (place text first) (text.extract first last)).extent start rest).Covers text
      (indexOf last start) (indexOf last rest) := by
  rcases eq_extract_of_suffix ordered inside begins with ⟨_, _, startText⟩
  rcases eq_extract_of_suffix ordered inside (taken.trans begins) with ⟨_, behind, restText⟩
  have ahead : indexOf last start ≤ indexOf last rest := Nat.sub_le_sub_left taken.length_le _
  refine ⟨ahead, Nat.le_trans behind inside, ?_, ?_⟩
  · apply ReadFrom.raw_extent
    conv => rhs; arg 2; rw [restText]
    rw [extract_append_extract text ahead behind]
    exact startText
  · obtain ⟨front, whole⟩ := begins
    obtain ⟨part, rfl⟩ := taken
    have begin := advanced_front ordered inside whole
    rw [← List.append_assoc] at whole
    have finish := advanced_front ordered inside whole
    rw [← whole, Source.extent, Source.span_ofText, begin, finish]

/-- The part of a text that is read as expressions lies between two indices of the whole. -/
theorem covers_of_cut (ordered : first ≤ last) (inside : last ≤ text.length) {expr : Expr}
    (cut : Cut (Source.ofText (place text first) (text.extract first last)) start expr rest)
    (begins : start <:+ text.extract first last) :
    expr.extent.Covers text (indexOf last start) (indexOf last rest) := by
  cases cut with
  | node taken extent _ =>
      rw [extent]
      exact covers_extent ordered inside begins taken

theorem inOrder_of_cutAll (ordered : first ≤ last) (inside : last ≤ text.length)
    {exprs : List Expr}
    (cuts : CutAll (Source.ofText (place text first) (text.extract first last)) start exprs rest)
    (begins : start <:+ text.extract first last) :
    InOrder text (indexOf last start) exprs (indexOf last rest) := by
  induction exprs generalizing start with
  | nil =>
      cases cuts with
      | nil taken => exact .nil (Nat.sub_le_sub_left taken.length_le _)
  | cons expr others ih =>
      cases cuts with
      | cons ahead here later =>
          have covers := covers_of_cut ordered inside here (ahead.trans begins)
          have behind := ih later (here.suffix.trans (ahead.trans begins))
          exact .cons (Nat.sub_le_sub_left ahead.length_le _) covers behind

/-- What was cut from a part of a text stands in the text, and so does everything inside of it. -/
theorem stands_of_cut (ordered : first ≤ last) (inside : last ≤ text.length) {expr : Expr}
    (cut : Cut (Source.ofText (place text first) (text.extract first last)) start expr rest)
    (begins : start <:+ text.extract first last) :
    ∀ part ∈ expr.walk, ∃ begin stop, part.Stands text begin stop := by
  intro part member
  rcases cut.within part member with ⟨begin, stop, ahead, here⟩
  have covers := covers_of_cut ordered inside here (ahead.trans begins)
  cases here with
  | node _ _ inner =>
      have inOrder := inOrder_of_cutAll ordered inside inner (ahead.trans begins)
      exact ⟨_, _, covers, inOrder⟩

/-- An expression that is read from the part of a text between two indices stands there. -/
theorem placed_of_parse (ordered : first ≤ last) (inside : last ≤ text.length) {expr : Expr}
    (read : parse (place text first) (text.extract first last) = .ok expr) :
    expr.Placed text first last := by
  rcases cut_of_parse read with ⟨start, rest, begins, cut⟩
  rcases eq_extract_of_suffix ordered inside begins with ⟨after, _, _⟩
  rcases eq_extract_of_suffix ordered inside (cut.suffix.trans begins) with ⟨_, before, _⟩
  refine .inr ⟨⟨_, _, after, before, covers_of_cut ordered inside cut begins⟩, ?_⟩
  exact stands_of_cut ordered inside cut begins

end Expr.Parser

end Stencil
