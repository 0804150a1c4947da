import Stencil.Proofs.Token.Reference
/-!
# The scan follows its rule

The scan remembers where it has seen the next opening marker of each kind. A sighting stays true for
as long as the scan has not moved past it, whatever tags and markers lie in between, and one that it
has moved past is never used. So every step finds what a search from its boundary would find, and
the scan ends as the rule says, after at most as many steps as the text has characters.
-/

namespace Stencil

open Text Reference

namespace Scan

variable {delimiters : Delimiters} {text : List Char} {scan : Scan} {tag : Tag}

/-- What a remembered sighting tells about the text from an index on: nothing if it is behind it. -/
def Sighted (marker text : List Char) (index : Nat) : Sighting → Prop
  | .unknown => True
  | .at found => index ≤ found → StandsFirst marker text index found
  | .never => StandsNowhere marker text index

/-- What a sighting tells that is up to date. -/
def Fresh (marker text : List Char) (index : Nat) : Sighting → Prop
  | .unknown => False
  | .at found => StandsFirst marker text index found
  | .never => StandsNowhere marker text index

theorem Fresh.sighted {marker : List Char} {index : Nat} {sighting : Sighting}
    (fresh : Fresh marker text index sighting) : Sighted marker text index sighting := by
  cases sighting with
  | unknown => trivial
  | «at» found => exact fun _ => fresh
  | never => exact fresh

/-- Moving on takes nothing away from what a sighting tells about the text that is left. -/
theorem Sighted.mono {marker : List Char} {index later : Nat} {sighting : Sighting}
    (sighted : Sighted marker text index sighting) (ahead : index ≤ later) :
    Sighted marker text later sighting := by
  cases sighting with
  | unknown => trivial
  | «at» found =>
      intro notPassed
      have stillFirst := sighted (Nat.le_trans ahead notPassed)
      exact ⟨notPassed, stillFirst.stands, fun earlier after =>
        stillFirst.first earlier (Nat.le_trans ahead after)⟩
  | never => exact fun further after => sighted further (Nat.le_trans ahead after)

/-- A scan of a text part way through it. -/
structure Current (delimiters : Delimiters) (text : List Char) (scan : Scan) : Prop where
  inside : scan.index ≤ text.length
  rest : scan.rest = text.drop scan.index
  offset : scan.offset = Text.byteLength (text.take scan.index)
  position : scan.position = place text scan.index
  sighted : ∀ tag, Sighted (delimiters.opening tag) text scan.index (scan.sighting tag)

theorem current_ofText (delimiters : Delimiters) (text : String) :
    Current delimiters text.toList (ofText text) where
  inside := Nat.zero_le _
  rest := rfl
  offset := rfl
  position := rfl
  sighted tag := by cases tag <;> trivial

namespace Current

theorem rest_length (current : Current delimiters text scan) :
    scan.rest.length = text.length - scan.index := by
  rw [current.rest, List.length_drop]

theorem rest_take (current : Current delimiters text scan) (count : Nat) :
    scan.rest.take count = text.extract scan.index (scan.index + count) := by
  rw [current.rest, List.extract_eq_take_drop, Nat.add_sub_cancel_left]

/-- The part of the text in front of the scan grows by what the scan takes. -/
theorem take_append (current : Current delimiters text scan) (count : Nat) :
    text.take scan.index ++ scan.rest.take count = text.take (scan.index + count) := by
  rw [current.rest_take, take_append_extract text (Nat.le_add_right ..)]

theorem skip (current : Current delimiters text scan) {count : Nat}
    (room : scan.index + count ≤ text.length) :
    (scan.skip count).index = scan.index + count ∧
      Current delimiters text (scan.skip count) := by
  have grows := current.take_append count
  have taken : (scan.rest.take count).length = count := by
    rw [List.length_take, current.rest_length]
    omega
  have index : (scan.skip count).index = scan.index + count := by
    rw [Scan.skip, taken]
  refine ⟨index, ?_, ?_, ?_, ?_, ?_⟩
  · rwa [index]
  · rw [index, ← List.drop_drop, ← current.rest]
    rfl
  · rw [index, ← grows, Text.byteLength_append, ← current.offset]
    rfl
  · rw [index, place, ← grows, Position.advanced_append]
    change scan.position.advanced _ = _
    rw [current.position]
    rfl
  · intro tag
    rw [index]
    have same : (scan.skip count).sighting tag = scan.sighting tag := by cases tag <;> rfl
    rw [same]
    exact (current.sighted tag).mono (Nat.le_add_right ..)

/-- A search answers with a sighting that is up to date. -/
theorem fresh_search (current : Current delimiters text scan)
    (marked : delimiters.opening tag ≠ []) :
    Fresh (delimiters.opening tag) text scan.index (scan.search delimiters tag) := by
  unfold search
  split
  · rename_i distance found
    rw [current.rest] at found
    exact firstOccurrence?_drop_eq_some found
  · rename_i found
    rw [current.rest] at found
    exact firstOccurrence?_drop_eq_none marked found

/-- What is remembered is only used where a search would answer the same. -/
theorem fresh_sightingNow (current : Current delimiters text scan)
    (marked : delimiters.opening tag ≠ []) :
    Fresh (delimiters.opening tag) text scan.index (scan.sightingNow delimiters tag) := by
  have sighted := current.sighted tag
  unfold sightingNow
  split
  · rename_i never
    rwa [never] at sighted
  · rename_i index found
    rw [found] at sighted
    split
    · rename_i notPassed
      exact sighted notPassed
    · exact current.fresh_search marked
  · exact current.fresh_search marked

end Current

theorem index_lookAhead (scan : Scan) (delimiters : Delimiters) :
    (scan.lookAhead delimiters).index = scan.index := rfl

theorem sighting_lookAhead (scan : Scan) (delimiters : Delimiters) (tag : Tag) :
    (scan.lookAhead delimiters).sighting tag = scan.sightingNow delimiters tag := by
  cases tag <;> rfl

theorem Current.lookAhead (current : Current delimiters text scan)
    (marked : ∀ tag, delimiters.opening tag ≠ []) :
    Current delimiters text (scan.lookAhead delimiters) where
  inside := current.inside
  rest := current.rest
  offset := current.offset
  position := current.position
  sighted tag := by
    rw [sighting_lookAhead]
    exact (current.fresh_sightingNow (marked tag)).sighted

/-- The leftmost sighting after one more kind has been looked at. -/
def nearer (scan : Scan) (best : Option (Nat × Tag)) (tag : Tag) : Option (Nat × Tag) :=
  match scan.sighting tag, best with
  | .at index, some (bestIndex, bestTag) =>
    if index < bestIndex then some (index, tag) else some (bestIndex, bestTag)
  | .at index, none => some (index, tag)
  | _, _ => best

theorem leftmost?_eq (scan : Scan) :
    scan.leftmost? =
      scan.nearer (scan.nearer (scan.nearer none .statement) .expression) .comment := rfl

/-- What is known of the leftmost sighting after some kinds have been looked at. -/
def Leftmost (scan : Scan) (seen : List Tag) : Option (Nat × Tag) → Prop
  | none => ∀ tag ∈ seen, ∀ index, scan.sighting tag ≠ .at index
  | some (index, tag) => scan.sighting tag = .at index ∧
      ∀ other ∈ seen, ∀ later, scan.sighting other = .at later →
        index ≤ later ∧ (index = later → tag.rank ≤ other.rank)

/-- A kind that is not in sight changes nothing. -/
theorem Leftmost.nearer_of_notAt {seen : List Tag} {best : Option (Nat × Tag)}
    (leftmost : Leftmost scan seen best) (notAt : ∀ index, scan.sighting tag ≠ .at index) :
    Leftmost scan (tag :: seen) best := by
  cases best with
  | none => exact List.forall_mem_cons.mpr ⟨notAt, leftmost⟩
  | some best =>
      refine ⟨leftmost.1, List.forall_mem_cons.mpr ⟨?_, leftmost.2⟩⟩
      intro later found
      exact absurd found (notAt later)

/-- Looking at one more kind keeps the leftmost sighting, if the kinds that win ties come first. -/
theorem Leftmost.nearer {seen : List Tag} {best : Option (Nat × Tag)}
    (leftmost : Leftmost scan seen best)
    (bestWins : ∀ index bestTag, best = some (index, bestTag) → bestTag.rank ≤ tag.rank) :
    Leftmost scan (tag :: seen) (scan.nearer best tag) := by
  rcases here : scan.sighting tag with _ | index | _
  · have unchanged : scan.nearer best tag = best := by simp [Scan.nearer, here]
    rw [unchanged]
    exact leftmost.nearer_of_notAt (by simp [here])
  · have own : ∀ later, scan.sighting tag = .at later →
        index ≤ later ∧ (index = later → tag.rank ≤ tag.rank) := by
      intro later found
      rw [here] at found
      cases found
      exact ⟨Nat.le_refl _, fun _ => Nat.le_refl _⟩
    rcases best with _ | ⟨bestIndex, bestTag⟩
    · simp only [Scan.nearer, here]
      refine ⟨here, List.forall_mem_cons.mpr ⟨own, ?_⟩⟩
      intro other member later found
      exact absurd found (leftmost other member later)
    · rcases leftmost with ⟨there, least⟩
      simp only [Scan.nearer, here]
      split
      · refine ⟨here, List.forall_mem_cons.mpr ⟨own, ?_⟩⟩
        intro other member later found
        have bound := (least other member later found).1
        exact ⟨by omega, by omega⟩
      · refine ⟨there, List.forall_mem_cons.mpr ⟨?_, least⟩⟩
        intro later found
        rw [here] at found
        cases found
        exact ⟨by omega, fun _ => bestWins _ _ rfl⟩
  · have unchanged : scan.nearer best tag = best := by simp [Scan.nearer, here]
    rw [unchanged]
    exact leftmost.nearer_of_notAt (by simp [here])

/-- Every kind looked at is one of those seen, so its rank is at most that of the next kind. -/
theorem rank_nearer {best : Option (Nat × Tag)} {rank : Nat}
    (before : ∀ index bestTag, best = some (index, bestTag) → bestTag.rank ≤ rank)
    (here : tag.rank ≤ rank) (index : Nat) (bestTag : Tag)
    (found : scan.nearer best tag = some (index, bestTag)) : bestTag.rank ≤ rank := by
  unfold Scan.nearer at found
  split at found
  · split at found
    · cases found
      exact here
    · cases found
      exact before _ _ rfl
  · cases found
    exact here
  · exact before _ _ found

theorem leftmost_all (scan : Scan) :
    Leftmost scan [.comment, .expression, .statement] scan.leftmost? := by
  rw [leftmost?_eq]
  have nothing : Leftmost scan [] none := List.forall_mem_nil _
  have noBest (rank index : Nat) (bestTag : Tag)
      (found : (none : Option (Nat × Tag)) = some (index, bestTag)) : bestTag.rank ≤ rank := by
    cases found
  have statement : Leftmost scan [.statement] (scan.nearer none .statement) :=
    nothing.nearer (noBest _)
  have expression : Leftmost scan [.expression, .statement]
      (scan.nearer (scan.nearer none .statement) .expression) :=
    statement.nearer (rank_nearer (noBest _) (Nat.zero_le _))
  exact expression.nearer
    (rank_nearer (rank_nearer (noBest _) (Nat.zero_le _)) (Nat.le_succ 1))

/-- If all sightings are up to date, the leftmost of them is the next tag. -/
theorem nextTag_of_leftmost? {opens : Nat}
    (fresh : ∀ tag, Fresh (delimiters.opening tag) text scan.index (scan.sighting tag))
    (found : scan.leftmost? = some (opens, tag)) :
    NextTag delimiters text scan.index tag opens := by
  have leftmost := scan.leftmost_all
  rw [found] at leftmost
  rcases leftmost with ⟨here, least⟩
  have seen (other : Tag) : other ∈ [Tag.comment, .expression, .statement] := by
    cases other <;> decide
  have first := fresh tag
  rw [here] at first
  refine ⟨first, ?_, ?_⟩
  · intro other earlier after before
    have known := fresh other
    rcases there : scan.sighting other with _ | later | _
    · rw [there] at known
      exact known.elim
    · rw [there] at known
      have bound := (least other (seen other) later there).1
      exact known.first earlier after (by omega)
    · rw [there] at known
      exact known earlier after
  · intro other stands
    have known := fresh other
    rcases there : scan.sighting other with _ | later | _
    · rw [there] at known
      exact known.elim
    · rw [there] at known
      have bound := least other (seen other) later there
      have notLater : ¬opens < later := fun before =>
        known.first opens first.after before stands
      exact bound.2 (Nat.le_antisymm bound.1 (Nat.le_of_not_lt notLater))
    · rw [there] at known
      exact absurd stands (known opens first.after)

theorem noTag_of_leftmost?
    (fresh : ∀ tag, Fresh (delimiters.opening tag) text scan.index (scan.sighting tag))
    (found : scan.leftmost? = none) : NoTag delimiters text scan.index := by
  intro tag
  have leftmost := scan.leftmost_all
  rw [found] at leftmost
  have known := fresh tag
  rcases there : scan.sighting tag with _ | index | _
  · rw [there] at known
    exact known.elim
  · exact absurd there (leftmost tag (by cases tag <;> decide) index)
  · rwa [there] at known

end Scan

namespace Reference

variable {delimiters : Delimiters} {text : List Char} {start opens : Nat} {tag : Tag}

/-- A boundary has at most one next tag. -/
theorem NextTag.unique {otherTag : Tag} {otherOpens : Nat}
    (one : NextTag delimiters text start tag opens)
    (two : NextTag delimiters text start otherTag otherOpens) :
    opens = otherOpens ∧ tag = otherTag := by
  have same : opens = otherOpens := by
    rcases Nat.lt_trichotomy opens otherOpens with less | same | more
    · exact absurd one.first.stands (two.leftmost tag opens one.first.after less)
    · exact same
    · exact absurd two.first.stands (one.leftmost otherTag otherOpens two.first.after more)
  subst same
  refine ⟨rfl, Tag.rank_injective ?_⟩
  have smaller := one.wins otherTag two.first.stands
  have larger := two.wins tag one.first.stands
  omega

/-- A tag lies behind the boundary that it is found from. -/
theorem NextTag.start_lt_endOf {closes : Nat} (next : NextTag delimiters text start tag opens)
    (marked : delimiters.opening tag ≠ []) (closed : ClosesAt delimiters text tag opens closes) :
    start < endOf delimiters tag closes := by
  have opening : 0 < (delimiters.opening tag).length := List.length_pos_iff.mpr marked
  have ahead := next.first.after
  have behind := closed.after
  unfold bodyOf at behind
  unfold endOf
  omega

theorem NextTag.not_noTag (next : NextTag delimiters text start tag opens) :
    ¬NoTag delimiters text start := fun none => next.first.not_nowhere (none tag)

end Reference

namespace Scan

variable {delimiters : Delimiters} {text : List Char} {scan : Scan} {tag : Tag}
  {opens closes : Nat}

namespace Current

theorem fresh_lookAhead (current : Current delimiters text scan)
    (marked : ∀ tag, delimiters.opening tag ≠ []) (tag : Tag) :
    Fresh (delimiters.opening tag) text (scan.lookAhead delimiters).index
      ((scan.lookAhead delimiters).sighting tag) := by
  rw [sighting_lookAhead]
  exact current.fresh_sightingNow (marked tag)

/-- A scan that has looked ahead sees the next tag, or that there is none. -/
theorem nextTag_or_noTag (current : Current delimiters text scan)
    (marked : ∀ tag, delimiters.opening tag ≠ []) :
    (∃ opens tag, (scan.lookAhead delimiters).leftmost? = some (opens, tag) ∧
        NextTag delimiters text scan.index tag opens) ∨
      (scan.lookAhead delimiters).leftmost? = none ∧ NoTag delimiters text scan.index := by
  have fresh := current.fresh_lookAhead marked
  rw [← index_lookAhead scan delimiters]
  rcases found : (scan.lookAhead delimiters).leftmost? with _ | ⟨opens, tag⟩
  · exact .inr ⟨rfl, noTag_of_leftmost? fresh found⟩
  · exact .inl ⟨opens, tag, rfl, nextTag_of_leftmost? fresh found⟩

theorem leftmost?_of_nextTag (current : Current delimiters text scan)
    (marked : ∀ tag, delimiters.opening tag ≠ [])
    (next : NextTag delimiters text scan.index tag opens) :
    (scan.lookAhead delimiters).leftmost? = some (opens, tag) := by
  rcases current.nextTag_or_noTag marked with ⟨_, _, found, other⟩ | ⟨_, last⟩
  · rcases next.unique other with ⟨rfl, rfl⟩
    exact found
  · exact absurd last next.not_noTag

theorem leftmost?_of_noTag (current : Current delimiters text scan)
    (marked : ∀ tag, delimiters.opening tag ≠ []) (last : NoTag delimiters text scan.index) :
    (scan.lookAhead delimiters).leftmost? = none := by
  rcases current.nextTag_or_noTag marked with ⟨_, _, _, next⟩ | ⟨found, _⟩
  · exact absurd last next.not_noTag
  · exact found

/-- The text in front of a boundary as a token. -/
theorem takeText_eq (current : Current delimiters text scan) {last : Nat}
    (ahead : scan.index ≤ last) (inside : last ≤ text.length) :
    scan.takeText (last - scan.index) = textBetween text scan.index last := by
  have taken : scan.rest.take (last - scan.index) = text.extract scan.index last := by
    rw [current.rest_take, Nat.add_sub_cancel' ahead]
  have length : (text.extract scan.index last).length = last - scan.index := by
    rw [← taken, List.length_take, current.rest_length]
    omega
  by_cases empty : scan.index < last
  · have nonempty : (text.extract scan.index last).isEmpty = false := by
      rw [List.isEmpty_eq_false_iff, ← List.length_pos_iff, length]
      omega
    simp only [takeText, taken, nonempty, textBetween, if_pos empty, current.position,
      current.offset, place_advanced text ahead]
    rfl
  · have nothing : (text.extract scan.index last).isEmpty = true := by
      rw [List.isEmpty_iff, ← List.length_eq_zero_iff, length]
      omega
    simp only [takeText, taken, nothing, textBetween, if_neg empty, if_true]

/-- What stands behind the opening marker of a tag that opens here. -/
theorem drop_opening (current : Current delimiters text scan) (tag : Tag) :
    scan.rest.drop (delimiters.opening tag).length =
      text.drop (bodyOf delimiters tag scan.index) := by
  rw [current.rest, List.drop_drop, bodyOf]

/-- The body of a tag goes up to the first closing marker. -/
theorem closesAt_or_unclosed (current : Current delimiters text scan)
    (marked : delimiters.closing tag ≠ []) :
    (∃ length, scan.bodyLength? delimiters tag = some length ∧
        ClosesAt delimiters text tag scan.index (bodyOf delimiters tag scan.index + length)) ∨
      scan.bodyLength? delimiters tag = none ∧ Unclosed delimiters text tag scan.index := by
  have search : scan.bodyLength? delimiters tag = firstOccurrence? (delimiters.closing tag)
      (text.drop (bodyOf delimiters tag scan.index)) := by
    rw [bodyLength?, current.drop_opening]
  rw [search]
  rcases found : firstOccurrence? (delimiters.closing tag)
    (text.drop (bodyOf delimiters tag scan.index)) with _ | length
  · exact .inr ⟨rfl, firstOccurrence?_drop_eq_none marked found⟩
  · exact .inl ⟨length, rfl, firstOccurrence?_drop_eq_some found⟩

theorem bodyLength?_of_closesAt (current : Current delimiters text scan)
    (marked : delimiters.closing tag ≠ [])
    (closed : ClosesAt delimiters text tag scan.index closes) :
    scan.bodyLength? delimiters tag = some (closes - bodyOf delimiters tag scan.index) := by
  rcases current.closesAt_or_unclosed marked with ⟨length, found, closed'⟩ | ⟨_, open_⟩
  · rw [found, closed.index_eq closed', Nat.add_sub_cancel_left]
  · exact absurd open_ closed.not_nowhere

theorem bodyLength?_of_unclosed (current : Current delimiters text scan)
    (marked : delimiters.closing tag ≠ [])
    (open_ : Unclosed delimiters text tag scan.index) :
    scan.bodyLength? delimiters tag = none := by
  rcases current.closesAt_or_unclosed marked with ⟨_, _, closed⟩ | ⟨found, _⟩
  · exact absurd open_ closed.not_nowhere
  · exact found

/-- A tag that opens here is taken whole, and the scan goes on behind it. -/
theorem takeTag_eq (current : Current delimiters text scan)
    (marked : delimiters.closing tag ≠ [])
    (opensHere : StandsAt (delimiters.opening tag) text scan.index)
    (closed : ClosesAt delimiters text tag scan.index closes) :
    scan.takeTag delimiters tag (closes - bodyOf delimiters tag scan.index) =
        tagToken delimiters text tag scan.index closes ∧
      (scan.skipTag delimiters tag (closes - bodyOf delimiters tag scan.index)).index =
          endOf delimiters tag closes ∧
        Current delimiters text
          (scan.skipTag delimiters tag (closes - bodyOf delimiters tag scan.index)) := by
  have bodyAhead : bodyOf delimiters tag scan.index ≤ closes := closed.after
  have opensAhead : scan.index ≤ bodyOf delimiters tag scan.index := Nat.le_add_right ..
  have closesAhead : closes ≤ endOf delimiters tag closes := Nat.le_add_right ..
  have inside : endOf delimiters tag closes ≤ text.length := closed.stands.le_length marked
  have opening : delimiters.opening tag =
      text.extract scan.index (bodyOf delimiters tag scan.index) := opensHere.extract_eq.symm
  have closing : delimiters.closing tag = text.extract closes (endOf delimiters tag closes) :=
    closed.stands.extract_eq.symm
  have body : (scan.rest.drop (delimiters.opening tag).length).take
      (closes - bodyOf delimiters tag scan.index) =
        text.extract (bodyOf delimiters tag scan.index) closes := by
    rw [current.drop_opening, List.extract_eq_take_drop]
  have whole : delimiters.opening tag ++ text.extract (bodyOf delimiters tag scan.index) closes ++
      delimiters.closing tag = text.extract scan.index (endOf delimiters tag closes) := by
    rw [opening, closing, extract_append_extract text opensAhead bodyAhead,
      extract_append_extract text (Nat.le_trans opensAhead bodyAhead) closesAhead]
  have bodyStart : (place text scan.index).advanced (delimiters.opening tag) =
      place text (bodyOf delimiters tag scan.index) := by
    rw [opening, place_advanced text opensAhead]
  have stop : ((place text (bodyOf delimiters tag scan.index)).advanced
      (text.extract (bodyOf delimiters tag scan.index) closes)).advanced (delimiters.closing tag) =
        place text (endOf delimiters tag closes) := by
    rw [closing, place_advanced text bodyAhead, place_advanced text closesAhead]
  have length : scan.index + ((delimiters.opening tag).length +
      (closes - bodyOf delimiters tag scan.index) + (delimiters.closing tag).length) =
        endOf delimiters tag closes := by
    unfold bodyOf at bodyAhead ⊢
    unfold endOf
    omega
  refine ⟨?_, ?_⟩
  · simp only [takeTag, body, whole, current.position, current.offset, bodyStart, stop]
    rfl
  · rw [← length]
    exact current.skip (by rwa [length])

/-- Where a next tag begins, something is left of the text. -/
theorem rest_nonempty (current : Current delimiters text scan)
    (marked : delimiters.opening tag ≠ [])
    (next : NextTag delimiters text scan.index tag opens) : scan.rest.isEmpty = false := by
  have inside := next.first.stands.le_length marked
  have opening : 0 < (delimiters.opening tag).length := List.length_pos_iff.mpr marked
  have ahead := next.first.after
  rw [List.isEmpty_eq_false_iff, ← List.length_pos_iff, current.rest_length]
  omega

/-- The scan in front of the next tag, which has taken the text up to there. -/
theorem skip_to_nextTag (current : Current delimiters text scan)
    (marked : ∀ tag, delimiters.opening tag ≠ [])
    (next : NextTag delimiters text scan.index tag opens) :
    ((scan.lookAhead delimiters).skip (opens - scan.index)).index = opens ∧
      Current delimiters text ((scan.lookAhead delimiters).skip (opens - scan.index)) := by
  have inside := next.first.stands.le_length (marked tag)
  have same : scan.index + (opens - scan.index) = opens := Nat.add_sub_cancel' next.first.after
  have room : (scan.lookAhead delimiters).index + (opens - scan.index) ≤ text.length := by
    change scan.index + _ ≤ _
    omega
  have skipped := (current.lookAhead marked).skip room
  exact ⟨skipped.1.trans same, skipped.2⟩

/-- Where no further tag begins, the rest is text. -/
theorem tokens_of_noTag (current : Current delimiters text scan)
    (marked : ∀ tag, delimiters.opening tag ≠ []) (last : NoTag delimiters text scan.index)
    (steps : Nat) : tokens delimiters (steps + 1) scan =
      .ok (textBetween text scan.index text.length) := by
  have texts := (current.lookAhead marked).takeText_eq current.inside (Nat.le_refl text.length)
  have length : (scan.lookAhead delimiters).rest.length =
      text.length - (scan.lookAhead delimiters).index := current.rest_length
  rw [tokens]
  split
  · rename_i nothing
    have finished : ¬scan.index < text.length := by
      rw [List.isEmpty_iff, ← List.length_eq_zero_iff, current.rest_length] at nothing
      omega
    rw [textBetween, if_neg finished]
  · simp only [current.leftmost?_of_noTag marked last, length, texts]
    rfl

/-- A tag that nothing closes ends the scan. -/
theorem tokens_of_unclosed (current : Current delimiters text scan)
    (marked : ∀ tag, delimiters.opening tag ≠ []) (closable : delimiters.closing tag ≠ [])
    (next : NextTag delimiters text scan.index tag opens)
    (open_ : Unclosed delimiters text tag opens) (steps : Nat) :
    tokens delimiters (steps + 1) scan = .error (.unclosed tag (place text opens)) := by
  rcases current.skip_to_nextTag marked next with ⟨index, there⟩
  have body := there.bodyLength?_of_unclosed closable (by rwa [index])
  have position := there.position
  rw [index] at position
  rw [tokens, current.rest_nonempty (marked tag) next, if_neg (by decide)]
  simp only [current.leftmost?_of_nextTag marked next, index_lookAhead, body, position]

/-- A closed tag is taken with the text in front of it, and the scan goes on behind it. -/
theorem tokens_of_closed (current : Current delimiters text scan)
    (marked : ∀ tag, delimiters.opening tag ≠ []) (closable : delimiters.closing tag ≠ [])
    (next : NextTag delimiters text scan.index tag opens)
    (closed : ClosesAt delimiters text tag opens closes) : ∃ behind,
      behind.index = endOf delimiters tag closes ∧ Current delimiters text behind ∧
        ∀ steps, tokens delimiters (steps + 1) scan = (tokens delimiters steps behind).map
          fun later => textBetween text scan.index opens ++
            tagToken delimiters text tag opens closes :: later := by
  rcases current.skip_to_nextTag marked next with ⟨index, there⟩
  have opensHere := next.first.stands
  have inside := opensHere.le_length (marked tag)
  have texts := (current.lookAhead marked).takeText_eq next.first.after (by omega)
  rw [← index] at closed opensHere
  have body := there.bodyLength?_of_closesAt closable closed
  rcases there.takeTag_eq closable opensHere closed with ⟨taken, behindIndex, behind⟩
  refine ⟨_, behindIndex, behind, ?_⟩
  intro steps
  rw [tokens, current.rest_nonempty (marked tag) next, if_neg (by decide)]
  rw [index_lookAhead] at texts
  rw [index] at body taken
  simp only [current.leftmost?_of_nextTag marked next, index_lookAhead, body, texts, taken, index]

end Current

variable {start : Nat} {before : List Token}

/-- Tokens put in front of those that a step and the rest of a scan give. -/
theorem map_map_append (outcome : Except ScanError (List Token)) (texts : List Token)
    (token : Token) :
    (outcome.map fun later => texts ++ token :: later).map (before ++ ·) =
      outcome.map ((before ++ (texts ++ [token])) ++ ·) := by
  cases outcome with
  | error error => rfl
  | ok later => simp [Except.map]

/-- From a boundary that the rule reaches, a scan with a step for each character that is left ends
as the rule says. -/
theorem ends_tokens (marked : ∀ tag, delimiters.opening tag ≠ [])
    (closable : ∀ tag, delimiters.closing tag ≠ []) (steps : Nat) (scan : Scan)
    (current : Current delimiters text scan)
    (reached : Reaches delimiters text scan.index before)
    (enough : text.length < scan.index + steps) :
    Ends delimiters text ((tokens delimiters steps scan).map (before ++ ·)) := by
  induction steps generalizing scan before with
  | zero => exact absurd current.inside (by omega)
  | succ steps ih =>
      rcases current.nextTag_or_noTag marked with ⟨opens, tag, _, next⟩ | ⟨_, last⟩
      · by_cases open_ : Unclosed delimiters text tag opens
        · rw [current.tokens_of_unclosed marked (closable tag) next open_]
          exact .unclosed reached next open_
        · rcases current.skip_to_nextTag marked next with ⟨index, there⟩
          rcases there.closesAt_or_unclosed (closable tag) with ⟨length, _, closed⟩ | ⟨_, unclosed⟩
          · rw [index] at closed
            rcases current.tokens_of_closed marked (closable tag) next closed with
              ⟨behind, behindIndex, currentBehind, taken⟩
            have further := reached.tag next closed
            rw [← behindIndex] at further
            -- A tag has one character at least, so the steps that are left cover the rest.
            have advanced := next.start_lt_endOf (marked tag) closed
            rw [taken, map_map_append]
            exact ih behind currentBehind further (by omega)
          · rw [index] at unclosed
            exact absurd unclosed open_
      · rw [current.tokens_of_noTag marked last]
        exact .tokens reached last

/-- The scan gets to every boundary that the rule reaches, with steps for the rest of the text. -/
theorem tokens_of_reaches (marked : ∀ tag, delimiters.opening tag ≠ [])
    (closable : ∀ tag, delimiters.closing tag ≠ []) {text : String}
    (reached : Reaches delimiters text.toList start before) (steps : Nat)
    (enough : text.length < steps) : ∃ scan left,
      scan.index = start ∧ Current delimiters text.toList scan ∧ text.length < start + left ∧
        tokens delimiters steps (ofText text) =
          (tokens delimiters left scan).map (before ++ ·) := by
  induction reached with
  | start =>
      refine ⟨ofText text, steps, rfl, current_ofText delimiters text, by omega, ?_⟩
      cases tokens delimiters steps (ofText text) <;> rfl
  | tag _ next closed ih =>
      rcases ih with ⟨scan, left, rfl, current, leftEnough, same⟩
      rcases current.tokens_of_closed marked (closable _) next closed with
        ⟨behind, behindIndex, currentBehind, taken⟩
      have inside := current.inside
      rw [String.length_toList] at inside
      rcases Nat.exists_eq_add_one.mpr (show 0 < left by omega) with ⟨fewer, rfl⟩
      refine ⟨behind, fewer, behindIndex, currentBehind, ?_, ?_⟩
      · have advanced := next.start_lt_endOf (marked _) closed
        omega
      · rw [same, taken, map_map_append]

end Scan

namespace Reference

variable {delimiters : Delimiters}

/-- The rule ends in one way only, which is the way that the scan ends. -/
theorem Ends.eq_tokens (marked : ∀ tag, delimiters.opening tag ≠ [])
    (closable : ∀ tag, delimiters.closing tag ≠ []) {text : String}
    {outcome : Except ScanError (List Token)} (ends : Ends delimiters text.toList outcome)
    (steps : Nat) (enough : text.length < steps) :
    Scan.tokens delimiters steps (Scan.ofText text) = outcome := by
  cases ends with
  | tokens reached last =>
      rcases Scan.tokens_of_reaches marked closable reached steps enough with
        ⟨scan, left, rfl, current, leftEnough, same⟩
      have inside := current.inside
      rw [String.length_toList] at inside
      rcases Nat.exists_eq_add_one.mpr (show 0 < left by omega) with ⟨fewer, rfl⟩
      rw [same, current.tokens_of_noTag marked last]
      rfl
  | unclosed reached next open_ =>
      rcases Scan.tokens_of_reaches marked closable reached steps enough with
        ⟨scan, left, rfl, current, leftEnough, same⟩
      have inside := current.inside
      rw [String.length_toList] at inside
      rcases Nat.exists_eq_add_one.mpr (show 0 < left by omega) with ⟨fewer, rfl⟩
      rw [same, current.tokens_of_unclosed marked (closable _) next open_]
      rfl

end Reference

theorem tokenize_of_marked {delimiters : Delimiters} (marked : ∀ tag, delimiters.opening tag ≠ [])
    (closable : ∀ tag, delimiters.closing tag ≠ []) (text : String) :
    tokenize delimiters text =
      Scan.tokens delimiters (text.length + 1) (Scan.ofText text) := by
  have fine (tag : Tag) :
      ((delimiters.opening tag).isEmpty || (delimiters.closing tag).isEmpty) = false := by
    simp [marked tag, closable tag]
  have checked : delimiters.check = .ok () := by
    simp [Delimiters.check, Tag.all, fine]
  rw [tokenize, checked]
  rfl

/-- The scan of a whole text ends as the rule says. -/
theorem ends_tokenize {delimiters : Delimiters} (marked : ∀ tag, delimiters.opening tag ≠ [])
    (closable : ∀ tag, delimiters.closing tag ≠ []) (text : String) :
    Reference.Ends delimiters text.toList (tokenize delimiters text) := by
  have current := Scan.current_ofText delimiters text
  have enough : text.toList.length < (Scan.ofText text).index + (text.length + 1) := by
    rw [String.length_toList]
    exact Nat.lt_add_left 0 (Nat.lt_succ_self _)
  have ended := Scan.ends_tokens marked closable _ _ current .start enough
  rw [tokenize_of_marked marked closable]
  cases outcome : Scan.tokens delimiters (text.length + 1) (Scan.ofText text) <;>
    rwa [outcome] at ended

/-- A text has tokens only if no marker is empty. -/
theorem marked_of_tokenize {delimiters : Delimiters} {text : String} {tokens : List Token}
    (read : tokenize delimiters text = .ok tokens) (tag : Tag) :
    delimiters.opening tag ≠ [] ∧ delimiters.closing tag ≠ [] := by
  cases found : Tag.all.find? fun tag =>
      (delimiters.opening tag).isEmpty || (delimiters.closing tag).isEmpty with
  | some tag =>
      simp only [tokenize, Delimiters.check, found] at read
      cases read
  | none =>
      have member : tag ∈ Tag.all := by cases tag <;> decide
      simpa using List.find?_eq_none.mp found tag member

/-- With markers that are not empty, a text has the tokens that the rule without a memory gives, and
has none just if the rule gets to a tag that nothing closes, which is then the one complained of.
More steps than characters change nothing. -/
theorem tokenize_iff_ends (delimiters : Delimiters)
    (marked : ∀ tag, delimiters.opening tag ≠ [] ∧ delimiters.closing tag ≠ []) (text : String) :
    (∀ outcome, tokenize delimiters text = outcome ↔
        Reference.Ends delimiters text.toList outcome) ∧
      (∀ error, tokenize delimiters text = .error error ↔
        ∃ start tokens tag opens, Reference.Reaches delimiters text.toList start tokens ∧
          Reference.NextTag delimiters text.toList start tag opens ∧
          Reference.Unclosed delimiters text.toList tag opens ∧
          error = .unclosed tag (Reference.place text.toList opens)) ∧
      ∀ steps, text.length < steps →
        Scan.tokens delimiters steps (Scan.ofText text) = tokenize delimiters text := by
  have opening (tag : Tag) := (marked tag).1
  have closing (tag : Tag) := (marked tag).2
  have ends := ends_tokenize opening closing text
  have same (outcome : Except ScanError (List Token)) :
      tokenize delimiters text = outcome ↔ Reference.Ends delimiters text.toList outcome := by
    refine ⟨fun equal => equal ▸ ends, fun other => ?_⟩
    rw [tokenize_of_marked opening closing]
    exact other.eq_tokens opening closing _ (Nat.lt_succ_self _)
  refine ⟨same, ?_, fun steps enough => ends.eq_tokens opening closing steps enough⟩
  intro error
  rw [same]
  constructor
  · intro failed
    cases failed with
    | unclosed reached next open_ => exact ⟨_, _, _, _, reached, next, open_, rfl⟩
  · rintro ⟨start, tokens, tag, opens, reached, next, open_, rfl⟩
    exact .unclosed reached next open_

/-- Markers that overlap: that of statements is the beginning of that of expressions, and that of
comments stands inside both. -/
def alikeDelimiters : Delimiters where
  statement := ⟨"<%", "%>"⟩
  expression := ⟨"<%=", "%>"⟩
  comment := ⟨"%", "%"⟩

theorem tokenize_iff_ends_alike :
    (∀ tag, alikeDelimiters.opening tag ≠ [] ∧ alikeDelimiters.closing tag ≠ []) ∧
      Reference.Ends alikeDelimiters "<%=b%>%c%".toList
        (.ok
          [⟨some .statement, "<%=b%>", "=b", 0, ⟨1, 2⟩, ⟨1, 0⟩, ⟨1, 6⟩⟩,
            ⟨some .comment, "%c%", "c", 6, ⟨1, 7⟩, ⟨1, 6⟩, ⟨1, 9⟩⟩]) ∧
        ∃ start tokens tag opens,
          Reference.Reaches alikeDelimiters "a<%= b %>c%d".toList start tokens ∧
            Reference.NextTag alikeDelimiters "a<%= b %>c%d".toList start tag opens ∧
              Reference.Unclosed alikeDelimiters "a<%= b %>c%d".toList tag opens ∧
                ScanError.unclosed .comment ⟨1, 10⟩ =
                  .unclosed tag (Reference.place "a<%= b %>c%d".toList opens) := by
  have marked : ∀ tag, alikeDelimiters.opening tag ≠ [] ∧ alikeDelimiters.closing tag ≠ [] := by
    intro tag
    cases tag <;> decide
  have read := tokenize_iff_ends alikeDelimiters marked "<%=b%>%c%"
  have failed := tokenize_iff_ends alikeDelimiters marked "a<%= b %>c%d"
  exact ⟨marked, (read.1 _).mp rfl, (failed.2.1 _).mp rfl⟩

end Stencil
