import Stencil.Proofs.Template.Moves
/-!
# Constructs that are never closed

Where a template without problems ends too early, what is still open is closed at the end of the
text. The result is the same, but for places, as if the tags that close it had been there: both ways
the innermost construct is finished first, with the choices that it continues. It takes that each of
them can be finished without a problem, which is told by the rest of the template, where it is.
-/

namespace Stencil

namespace Statement

/-- The keyword of the tag that closes what this tag opens. -/
def closer (head : Statement) : String :=
  if head.keyword = "for" then "endfor"
  else if head.keyword = "block" then "endblock"
  else "endif"

/-- That a tag closes what this tag opens, and carries nothing else. -/
structure ClosedBy (head : Statement) (token : Token) : Prop where
  closes : (ofToken token).Says head.closer
  bare : (ofToken token).Bare

theorem closedBy_iff {head : Statement} {token : Token} : head.ClosedBy token ↔
    token.tag? = some .statement ∧ (ofToken token).keyword = head.closer ∧
      (ofToken token).isBare = true := by
  constructor
  · rintro ⟨closes, bare⟩
    exact ⟨closes.tag, closes.word, isBare_iff.mpr bare⟩
  · rintro ⟨tag, word, bare⟩
    have closes := says_ofToken tag
    rw [word] at closes
    exact ⟨closes, isBare_iff.mp bare⟩

instance {head : Statement} {token : Token} : Decidable (head.ClosedBy token) :=
  decidable_of_iff _ closedBy_iff.symm

end Statement

namespace Template

/-- The tags of the constructs that are open after one more token, innermost first. A further
condition stands for the whole choice. -/
def openAfter (opened : List Statement) (token : Token) : List Statement :=
  let statement := Statement.ofToken token
  if token.tag? ≠ some .statement then opened
  else if ["if", "for", "block"].contains statement.keyword then statement :: opened
  else if statement.keyword = "elif" then statement :: opened.tail
  else if ["endif", "endfor", "endblock"].contains statement.keyword then opened.tail
  else opened

/-- The tags of the constructs that tokens leave open, innermost first. -/
def openTags (tokens : List Token) : List Statement := tokens.foldl openAfter []

end Template

/-- An extent without its place. -/
def Extent.unplaced (extent : Extent) : Extent := { extent with span := Span.empty }

namespace Node

mutual

/-- A node without its place and those of the nodes inside of it. -/
def unplaced : Node → Node
  | text extent content => text extent.unplaced content
  | choice extent condition body none =>
    choice extent.unplaced condition (unplacedAll body) none
  | choice extent condition body (some otherwise) =>
    choice extent.unplaced condition (unplacedAll body) (some (unplacedAll otherwise))
  | loop extent iterator iterable body =>
    loop extent.unplaced iterator iterable (unplacedAll body)
  | assignment extent name value => assignment extent.unplaced name value
  | block extent name body => block extent.unplaced name (unplacedAll body)
  | output extent value => output extent.unplaced value
  | malformed extent message => malformed extent.unplaced message

def unplacedAll : List Node → List Node
  | [] => []
  | node :: rest => unplaced node :: unplacedAll rest

end

theorem unplacedAll_concat (nodes : List Node) (node : Node) :
    unplacedAll (nodes ++ [node]) = unplacedAll nodes ++ [node.unplaced] := by
  induction nodes with
  | nil => rfl
  | cons first rest ih => rw [List.cons_append, unplacedAll, unplacedAll, ih, List.cons_append]

end Node

namespace Template.Parser

open Node

variable {state after : State} {token : Token} {head : Statement} {frame : Frame}
  {outer : List Frame} {node : Node} {name? : Option String} {stop : Position}
  {opened : List Statement}

section Tags

/-! What is open is told by the tags alone. -/

/-- The tags of the constructs that are open, with the keywords of those that will close them. -/
def ownTags : List Frame → List (Statement × String)
  | [] => []
  | .continued _ _ _ :: outer => ownTags outer
  | frame :: outer => (frame.opening, frame.closer) :: ownTags outer

theorem ownTags_cons (own : frame.isContinued = false) (outer : List Frame) :
    ownTags (frame :: outer) = (frame.opening, frame.closer) :: ownTags outer := by
  cases frame with
  | continued => cases own
  | _ => rfl

theorem ownTags_attachTo (children : List Node) (node : Node) (stack : List Frame) :
    ownTags (State.attachTo children node stack).2 = ownTags stack := by
  induction stack generalizing node with
  | nil => rfl
  | cons frame outer ih =>
      cases frame with
      | continued head condition body => exact ih _
      | _ => rfl

/-- That tags are those of what is open. -/
def Tells (opened : List Statement) (state : State) : Prop :=
  opened.map (fun head => (head, head.closer)) = ownTags state.stack

theorem openAfter_plain (plain : token.tag? ≠ some .statement) :
    openAfter opened token = opened := by
  rw [openAfter, if_pos plain]

variable {keyword : String}

theorem openAfter_opening (opens : (Statement.ofToken token).Says keyword)
    (opening : keyword ∈ ["if", "for", "block"]) :
    openAfter opened token = Statement.ofToken token :: opened := by
  have tag : token.tag? = some .statement := opens.tag
  rw [openAfter, if_neg (not_not_intro tag), opens.word, if_pos (List.contains_iff_mem.mpr opening)]

theorem openAfter_elif (continues : (Statement.ofToken token).Says "elif") :
    openAfter opened token = Statement.ofToken token :: opened.tail := by
  have tag : token.tag? = some .statement := continues.tag
  rw [openAfter, if_neg (not_not_intro tag), continues.word, if_neg (by decide), if_pos rfl]

theorem openAfter_closing (closes : (Statement.ofToken token).Says keyword)
    (closing : keyword ∈ ["endif", "endfor", "endblock"]) :
    openAfter opened token = opened.tail := by
  have tag : token.tag? = some .statement := closes.tag
  have apart : ∀ word ∈ ["endif", "endfor", "endblock"],
      ¬["if", "for", "block"].contains word = true ∧ word ≠ "elif" := by decide
  rw [openAfter, if_neg (not_not_intro tag), closes.word, if_neg (apart keyword closing).1,
    if_neg (apart keyword closing).2, if_pos (List.contains_iff_mem.mpr closing)]

theorem openAfter_inside (inside : (Statement.ofToken token).Says keyword)
    (other : keyword ∈ ["else", "set"]) : openAfter opened token = opened := by
  have tag : token.tag? = some .statement := inside.tag
  have apart : ∀ word ∈ ["else", "set"], ¬["if", "for", "block"].contains word = true ∧
      word ≠ "elif" ∧ ¬["endif", "endfor", "endblock"].contains word = true := by decide
  rw [openAfter, if_neg (not_not_intro tag), inside.word, if_neg (apart keyword other).1,
    if_neg (apart keyword other).2.1, if_neg (apart keyword other).2.2]

theorem openAfter_leaf (leaf : Leaf token node) : openAfter opened token = opened := by
  rcases leaf.plain_or_set with plain | opens
  · exact openAfter_plain plain
  · exact openAfter_inside opens (by decide)

theorem openAfter_opens (opening : Opening (Statement.ofToken token) frame) :
    openAfter opened token = Statement.ofToken token :: opened := by
  rcases opening.says with ⟨keyword, member, opens⟩
  exact openAfter_opening opens member

/-- A tag that opens a construct is closed as the construct is. -/
theorem closer_opens (opening : Opening head frame) :
    (head, head.closer) = (frame.opening, frame.closer) := by
  cases opening with
  | choice opens _ =>
      rw [Statement.closer, opens.word]
      rfl
  | loop opens =>
      rw [Statement.closer, opens.word]
      rfl
  | block opens =>
      rw [Statement.closer, opens.word]
      rfl

/-- The tags keep telling what is open. -/
theorem Tells.move (tells : Tells opened state) (move : Moves token state after) :
    Tells (openAfter opened token) after := by
  cases move with
  | comment tag =>
      rw [openAfter_plain (by rw [tag]; decide)]
      exact tells
  | leaf leaf =>
      rw [openAfter_leaf leaf]
      exact tells.trans (ownTags_attachTo _ _ _).symm
  | opens opening =>
      rw [openAfter_opens opening, Tells, State.push, ownTags_cons opening.own, List.map_cons,
        closer_opens opening]
      exact congrArg _ tells
  | further continues stack reads =>
      rename_i head condition next body outer
      rw [Tells, stack, ownTags_cons rfl] at tells
      rw [openAfter_elif continues, Tells, List.map_cons, List.map_tail, tells]
      have closer : (Statement.ofToken token).closer = "endif" := by
        rw [Statement.closer, continues.word]
        rfl
      rw [closer]
      rfl
  | middle continues bare stack =>
      rw [Tells, stack] at tells
      rw [openAfter_inside continues (by decide)]
      exact tells
  | closes stack tag finishes quiet new =>
      rename_i frame outer node name?
      rw [Tells, stack, ownTags_cons finishes.active] at tells
      rw [openAfter_closing tag frame.closer_mem, Tells, List.map_tail, tells]
      exact (ownTags_attachTo _ _ _).symm

theorem Tells.run {tokens : List Token} (tells : Tells opened state)
    (run : Run tokens state after) : Tells (tokens.foldl openAfter opened) after := by
  induction run generalizing opened with
  | nil => exact tells
  | cons move _ ih => exact ih (tells.move move)

end Tags

section Due

/-! What is open can be finished, as far as its first tag is concerned. -/

namespace Frame

/-- The name that a construct records when it is closed. -/
def recorded : Frame → Option String
  | block head _ => head.blockName?
  | _ => none

/-- That the first tag of a construct is in order. -/
def Sound : Frame → Prop
  | loop head _ => ∃ iterator source iterable, head.loopHead? = some (iterator, source) ∧
      bindingErrors iterator head = [] ∧ requiredExpression head source = (iterable, [])
  | block head _ => ∃ name, head.blockName? = some name
  | choice _ _ _ | otherwise _ _ _ _ | continued _ _ _ => True

theorem Finishes.sound (finishes : frame.Finishes stop node name?) :
    frame.Sound ∧ frame.recorded = name? := by
  cases finishes with
  | loop read free reads => exact ⟨⟨_, _, _, read, free, reads⟩, rfl⟩
  | block read => exact ⟨⟨_, read⟩, read⟩
  | _ => exact ⟨trivial, rfl⟩

theorem Sound.finishes (sound : frame.Sound) (own : frame.isContinued = false) (stop : Position) :
    ∃ node, frame.Finishes stop node frame.recorded := by
  cases frame with
  | choice head condition body => exact ⟨_, .choice⟩
  | otherwise head condition body others => exact ⟨_, .otherwise⟩
  | continued head condition body => cases own
  | loop head body =>
      rcases sound with ⟨iterator, source, iterable, read, free, reads⟩
      exact ⟨_, .loop read free reads⟩
  | block head body =>
      rcases sound with ⟨name, read⟩
      rw [Frame.recorded, read]
      exact ⟨_, .block read⟩

end Frame

/-- That everything that is open can be finished, and records names that are new. -/
structure Due (stack : List Frame) (names : List String) : Prop where
  sound : ∀ frame ∈ stack, frame.Sound
  distinct : (stack.filterMap Frame.recorded ++ names).Nodup

theorem sound_attachTo {children : List Node} {stack : List Frame} :
    (∀ frame ∈ (State.attachTo children node stack).2, frame.Sound) ↔
      ∀ frame ∈ stack, frame.Sound := by
  induction stack generalizing node with
  | nil => rfl
  | cons frame outer ih =>
      cases frame with
      | continued head condition body =>
          rw [State.attachTo, ih, List.forall_mem_cons]
          exact ⟨fun sound => ⟨trivial, sound⟩, fun sound => sound.2⟩
      | _ =>
          rw [State.attachTo, List.forall_mem_cons, List.forall_mem_cons]
          rfl

theorem recorded_attachTo (children : List Node) (node : Node) (stack : List Frame) :
    (State.attachTo children node stack).2.filterMap Frame.recorded =
      stack.filterMap Frame.recorded := by
  induction stack generalizing node with
  | nil => rfl
  | cons frame outer ih =>
      cases frame with
      | continued head condition body => exact ih _
      | _ => rfl

/-- Of what is open, a finished node changes the contents only, and finishes choices. -/
theorem due_attachTo {children : List Node} {stack : List Frame} {names : List String} :
    Due (State.attachTo children node stack).2 names ↔ Due stack names := by
  constructor
  · rintro ⟨sound, distinct⟩
    rw [recorded_attachTo] at distinct
    exact ⟨sound_attachTo.mp sound, distinct⟩
  · rintro ⟨sound, distinct⟩
    rw [← recorded_attachTo children node] at distinct
    exact ⟨sound_attachTo.mpr sound, distinct⟩

/-- A construct can be finished if it is, and its name is new if it is recorded. -/
theorem due_cons {names : List String} (finishes : frame.Finishes stop node name?) :
    Due (frame :: outer) names ↔ Due outer (name?.toList ++ names) := by
  have moved : (name?.toList ++ outer.filterMap Frame.recorded ++ names).Perm
      (outer.filterMap Frame.recorded ++ (name?.toList ++ names)) := by
    rw [← List.append_assoc]
    exact List.perm_append_comm.append_right names
  have first : (frame :: outer).filterMap Frame.recorded =
      name?.toList ++ outer.filterMap Frame.recorded := by
    rw [List.filterMap_cons, finishes.sound.2]
    cases name? <;> rfl
  constructor
  · rintro ⟨sound, distinct⟩
    rw [first, moved.nodup_iff] at distinct
    exact ⟨(List.forall_mem_cons.mp sound).2, distinct⟩
  · rintro ⟨sound, distinct⟩
    rw [← moved.nodup_iff, ← first] at distinct
    exact ⟨List.forall_mem_cons.mpr ⟨finishes.sound.1, sound⟩, distinct⟩

theorem Due.new {names : List String} (due : Due (frame :: outer) names)
    (finishes : frame.Finishes stop node name?) : ∀ name ∈ name?, name ∉ names := by
  have distinct := ((due_cons finishes).mp due).distinct
  rintro name ⟨⟩
  exact (List.nodup_cons.mp (List.nodup_append.mp distinct).2.1).1

/-- What can be finished after a token could be before. -/
theorem due_of_move (move : Moves token state after) (due : Due after.stack after.blockNames) :
    Due state.stack state.blockNames := by
  cases move with
  | comment _ => exact due
  | leaf _ => exact due_attachTo.mp due
  | opens opening =>
      rename_i frame
      rcases due with ⟨sound, distinct⟩
      refine ⟨(List.forall_mem_cons.mp sound).2, distinct.sublist ?_⟩
      exact ((List.sublist_cons_self frame state.stack).filterMap _).append_right _
  | further continues stack reads =>
      rcases due with ⟨sound, distinct⟩
      rw [stack]
      refine ⟨List.forall_mem_cons.mpr ⟨trivial, ?_⟩, distinct⟩
      exact (List.forall_mem_cons.mp (List.forall_mem_cons.mp sound).2).2
  | middle continues bare stack =>
      rcases due with ⟨sound, distinct⟩
      rw [stack]
      exact ⟨List.forall_mem_cons.mpr ⟨trivial, (List.forall_mem_cons.mp sound).2⟩, distinct⟩
  | closes stack tag finishes quiet new =>
      rw [stack]
      exact (due_cons finishes).mpr (due_attachTo.mp due)

theorem due_of_run {tokens : List Token} (run : Run tokens state after)
    (due : Due after.stack after.blockNames) : Due state.stack state.blockNames := by
  induction run with
  | nil => exact due
  | cons move _ ih => exact due_of_move move (ih due)

/-- A name is recorded once. -/
theorem nodup_of_run {tokens : List Token} (run : Run tokens state after)
    (distinct : state.blockNames.Nodup) : after.blockNames.Nodup := by
  induction run with
  | nil => exact distinct
  | cons move _ ih =>
      refine ih ?_
      cases move with
      | @closes frame outer node name? stack tag finishes quiet new =>
          cases name? with
          | none => exact distinct
          | some name => exact List.nodup_cons.mpr ⟨new name rfl, distinct⟩
      | _ => exact distinct

end Due

section Mapped

/-! A construct with other contents is of the same kind. -/

namespace Frame

variable {change : List Node → List Node} {condition : Expr} {body others : List Node}

theorem eq_of_mapped_choice (same : frame.mapped change = .choice head condition body) :
    ∃ inside, frame = .choice head condition inside ∧ change inside = body := by
  cases frame with
  | choice =>
      cases same
      exact ⟨_, rfl, rfl⟩
  | _ => cases same

theorem eq_of_mapped_otherwise
    (same : frame.mapped change = .otherwise head condition body others) :
    ∃ inside further, frame = .otherwise head condition inside further ∧ change inside = body ∧
      change further = others := by
  cases frame with
  | otherwise =>
      cases same
      exact ⟨_, _, rfl, rfl, rfl⟩
  | _ => cases same

theorem eq_of_mapped_continued (same : frame.mapped change = .continued head condition body) :
    ∃ inside, frame = .continued head condition inside ∧ change inside = body := by
  cases frame with
  | continued =>
      cases same
      exact ⟨_, rfl, rfl⟩
  | _ => cases same

theorem eq_of_mapped_loop (same : frame.mapped change = .loop head body) :
    ∃ inside, frame = .loop head inside ∧ change inside = body := by
  cases frame with
  | loop =>
      cases same
      exact ⟨_, rfl, rfl⟩
  | _ => cases same

theorem eq_of_mapped_block (same : frame.mapped change = .block head body) :
    ∃ inside, frame = .block head inside ∧ change inside = body := by
  cases frame with
  | block =>
      cases same
      exact ⟨_, rfl, rfl⟩
  | _ => cases same

end Frame

end Mapped

section Together

/-! Closed at the end of the text or by their tags, constructs give the same but for places. -/

variable {a b : State} {stack other : List Frame} {children others : List Node} {twin : Node}

/-- That states are the same but for places and problems. -/
structure Alike (a b : State) : Prop where
  finished : unplacedAll a.children = unplacedAll b.children
  stack : a.stack.map (Frame.mapped unplacedAll) = b.stack.map (Frame.mapped unplacedAll)
  names : a.blockNames = b.blockNames

theorem alike_attachTo (finished : unplacedAll children = unplacedAll others)
    (same : stack.map (Frame.mapped unplacedAll) = other.map (Frame.mapped unplacedAll))
    (nodes : node.unplaced = twin.unplaced) :
    unplacedAll (State.attachTo children node stack).1 =
        unplacedAll (State.attachTo others twin other).1 ∧
      (State.attachTo children node stack).2.map (Frame.mapped unplacedAll) =
        (State.attachTo others twin other).2.map (Frame.mapped unplacedAll) := by
  induction stack generalizing node twin other with
  | nil =>
      rw [List.map_nil] at same
      rw [List.map_eq_nil_iff.mp same.symm]
      simp [State.attachTo, unplacedAll_concat, finished, nodes]
  | cons frame outer ih =>
      cases other with
      | nil => cases same
      | cons frame' outer' =>
          rcases List.cons.inj same with ⟨first, rest⟩
          cases frame with
          | choice head condition body =>
              rcases Frame.eq_of_mapped_choice first.symm with ⟨inside, rfl, bodies⟩
              simp [State.attachTo, Frame.mapped, unplacedAll_concat, finished, nodes, bodies, rest]
          | otherwise head condition body further =>
              rcases Frame.eq_of_mapped_otherwise first.symm with
                ⟨inside, more, rfl, bodies, further⟩
              simp [State.attachTo, Frame.mapped, unplacedAll_concat, finished, nodes, bodies,
                further, rest]
          | continued head condition body =>
              rcases Frame.eq_of_mapped_continued first.symm with ⟨inside, rfl, bodies⟩
              rw [State.attachTo, State.attachTo]
              refine ih rest ?_
              simp [unplaced, unplacedAll, Extent.unplaced, Statement.extentTo, nodes, bodies]
          | loop head body =>
              rcases Frame.eq_of_mapped_loop first.symm with ⟨inside, rfl, bodies⟩
              simp [State.attachTo, Frame.mapped, unplacedAll_concat, finished, nodes, bodies, rest]
          | block head body =>
              rcases Frame.eq_of_mapped_block first.symm with ⟨inside, rfl, bodies⟩
              simp [State.attachTo, Frame.mapped, unplacedAll_concat, finished, nodes, bodies, rest]

/-- Constructs that are the same but for places make such nodes. -/
theorem twin_of_finishes {frame' : Frame}
    (same : frame'.mapped unplacedAll = frame.mapped unplacedAll)
    (finishes : frame.Finishes stop node name?) (place : Position) :
    ∃ twin, frame'.Finishes place twin name? ∧ node.unplaced = twin.unplaced := by
  cases finishes with
  | choice =>
      rcases Frame.eq_of_mapped_choice same with ⟨inside, rfl, bodies⟩
      exact ⟨_, .choice, by simp [unplaced, Extent.unplaced, Statement.extentTo, bodies]⟩
  | otherwise =>
      rcases Frame.eq_of_mapped_otherwise same with ⟨inside, more, rfl, bodies, further⟩
      exact ⟨_, .otherwise,
        by simp [unplaced, Extent.unplaced, Statement.extentTo, bodies, further]⟩
  | loop read free reads =>
      rcases Frame.eq_of_mapped_loop same with ⟨inside, rfl, bodies⟩
      exact ⟨_, .loop read free reads,
        by simp [unplaced, Extent.unplaced, Statement.extentTo, bodies]⟩
  | block read =>
      rcases Frame.eq_of_mapped_block same with ⟨inside, rfl, bodies⟩
      exact ⟨_, .block read, by simp [unplaced, Extent.unplaced, Statement.extentTo, bodies]⟩

/-- What is open innermost in a settled state is no choice that waits for another. -/
theorem own_of_settled (settled : Settled (frame :: outer)) : frame.isContinued = false := by
  cases frame with
  | continued => exact absurd settled id
  | _ => rfl

/-- What is noticed of a construct that is never closed. -/
theorem closingProblems_none (own : frame.isContinued = false) :
    frame.closingProblems none =
      [⟨.neverClosed frame.opening.keyword frame.closer, frame.opening.span⟩] := by
  cases frame with
  | continued => cases own
  | block head body =>
      have matching : mismatchErrors head.blockName? none = [] := by
        cases head.blockName? <;> rfl
      rw [Frame.closingProblems, matching, List.nil_append]
      rfl
  | _ => rfl

/-- A closing tag with nothing else in it closes any construct of its kind. -/
theorem closingProblems_bare {close : Statement} (bare : close.Bare) :
    frame.closingProblems (some close) = [] := by
  cases frame with
  | continued => rfl
  | block head body =>
      have matching : mismatchErrors head.blockName? (some close) = [] := by
        cases read : head.blockName? with
        | none => rfl
        | some found =>
            rcases Statement.blockName?_eq_some_iff.mp read with ⟨name, rfl, _⟩
            exact mismatchErrors_eq_nil_iff.mpr (.inl bare)
      rw [Frame.closingProblems, matching, closingErrors_of_bare bare, List.append_nil]
  | _ => rw [Frame.closingProblems, closingErrors_of_bare bare]

/-- The innermost constructs are closed alike. -/
theorem alike_finished (alike : Alike a b) {outer' : List Frame} {frame' : Frame}
    (stack : a.stack = frame :: outer) (stack' : b.stack = frame' :: outer')
    (nodes : node.unplaced = twin.unplaced) (problems problems' : List ParseError) :
    Alike (a.finished outer node name? problems) (b.finished outer' twin name? problems') := by
  have same := alike.stack
  rw [stack, stack'] at same
  rcases alike_attachTo alike.finished (List.cons.inj same).2 nodes with ⟨finished, rest⟩
  exact ⟨finished, rest, congrArg (name?.toList ++ ·) alike.names⟩

theorem finish_nil (nothing : state.stack = []) (fuel : Nat) :
    State.finish stop fuel state = state := by
  cases fuel with
  | zero => rfl
  | succ fuel => rw [State.finish, nothing, List.isEmpty_nil, if_pos rfl]

/-- Where no tags are told, nothing is open. -/
theorem stack_of_tells (tells : Tells [] state) (settled : Settled state.stack) :
    state.stack = [] := by
  cases stack : state.stack with
  | nil => rfl
  | cons frame outer =>
      rw [stack] at settled
      rw [Tells, stack, ownTags_cons (own_of_settled settled)] at tells
      cases tells

/-- What is open innermost is closed by the end of the text, and by a tag of its own, alike. -/
theorem close_alike (stop : Position) (alike : Alike a b) (stack : a.stack = frame :: outer)
    (own : frame.isContinued = false) (noSkip : b.skip = none)
    (tag : (Statement.ofToken token).Says frame.closer) (bare : (Statement.ofToken token).Bare)
    (due : Due a.stack a.blockNames) :
    Alike (a.close none stop) (b.take token) ∧ Due (a.close none stop).stack
        (a.close none stop).blockNames ∧ Settled (a.close none stop).stack ∧
      (a.close none stop).stack.length ≤ outer.length ∧
      ownTags (a.close none stop).stack = ownTags outer ∧
      (a.close none stop).errors = a.errors ++
        [⟨.neverClosed frame.opening.keyword frame.closer, frame.opening.span⟩] ∧
      (b.take token).errors = b.errors ∧ (b.take token).skip = none := by
  have same := alike.stack
  rw [stack] at due same
  cases stack' : b.stack with
  | nil =>
      rw [stack'] at same
      cases same
  | cons frame' outer' =>
      rw [stack'] at same
      have first := (List.cons.inj same).1
      have own' : frame'.isContinued = false := by
        rw [← Frame.isContinued_mapped unplacedAll, ← first, Frame.isContinued_mapped, own]
      have tag' : (Statement.ofToken token).Says frame'.closer := by
        rwa [← Frame.closer_mapped unplacedAll, ← first, Frame.closer_mapped]
      rcases (due.sound frame List.mem_cons_self).finishes own stop with ⟨node, finishes⟩
      rcases twin_of_finishes first.symm finishes token.stop with ⟨twin, finishes', nodes⟩
      have new := due.new finishes
      have new' : ∀ name ∈ frame.recorded, name ∉ b.blockNames := by
        rwa [← alike.names]
      rw [take_closing noSkip stack' own' tag', close_of_finishes stack finishes new,
        close_of_finishes stack' finishes' new', closingProblems_none own,
        closingProblems_bare bare]
      refine ⟨alike_finished alike stack stack' nodes _ _,
        due_attachTo.mpr ((due_cons finishes).mp due), settled_attachTo _ _ _,
        length_attachTo _ _ _, ownTags_attachTo _ _ _, ?_, ?_, noSkip⟩
      · simp [State.finished, State.attach, State.notice]
      · simp [State.finished, State.attach, State.notice]

/-- The end of the text closes all that is open as tags would. -/
theorem finish_alike (stop : Position) {closers : List Token}
    (closed : List.Forall₂ Statement.ClosedBy opened closers) (alike : Alike a b)
    (settled : Settled a.stack) (noSkip : b.skip = none) (tells : Tells opened a)
    (due : Due a.stack a.blockNames) {fuel : Nat} (enough : a.stack.length ≤ fuel) :
    Alike (State.finish stop fuel a) (closers.foldl State.take b) ∧
      (State.finish stop fuel a).stack = [] ∧ (closers.foldl State.take b).skip = none ∧
      (State.finish stop fuel a).errors = a.errors ++ opened.map (fun head =>
        ⟨.neverClosed head.keyword head.closer, head.span⟩) ∧
      (closers.foldl State.take b).errors = b.errors := by
  induction closed generalizing a b fuel with
  | nil =>
      have nothing := stack_of_tells tells settled
      rw [finish_nil nothing]
      exact ⟨alike, nothing, noSkip, (List.append_nil _).symm, rfl⟩
  | @cons head token opened closers close closed ih =>
      cases stack : a.stack with
      | nil =>
          rw [Tells, stack] at tells
          cases tells
      | cons frame outer =>
          rw [stack] at settled enough
          have own := own_of_settled settled
          rw [Tells, stack, ownTags_cons own, List.map_cons] at tells
          rcases List.cons.inj tells with ⟨first, rest⟩
          rcases Prod.mk.inj first with ⟨rfl, keyword⟩
          have tag : (Statement.ofToken token).Says frame.closer := by
            rw [← keyword]
            exact close.closes
          rcases Nat.exists_eq_add_one.mpr (Nat.zero_lt_of_lt enough) with ⟨fuel, rfl⟩
          rcases close_alike stop alike stack own noSkip tag close.bare due with
            ⟨alike, due, settled, shorter, left, told, silent, noSkip⟩
          have next := ih alike settled noSkip (rest.trans left.symm) due
            (Nat.le_trans shorter (Nat.le_of_succ_le_succ enough))
          rw [State.finish, stack, List.isEmpty_cons, if_neg (by decide), List.foldl_cons]
          refine ⟨next.1, next.2.1, next.2.2.1, ?_, next.2.2.2.2.trans silent⟩
          rw [next.2.2.2.1, told, List.append_assoc, ← keyword]
          rfl

end Together

/-- What has been taken of tokens that make a template without problems, and what then follows. -/
theorem runs_of_parse {before later : List Token} (clean : (parse (before ++ later)).errors = []) :
    Run before {} (before.foldl State.take {}) ∧ ∃ last,
      Run later (before.foldl State.take {}) last ∧ last.stack = [] := by
  have read := clean_of_earlier (errors_finish _ _ _) clean
  have fold := clean_of_earlier (errors_finishSkip _) read
  rw [List.foldl_append] at fold
  have early := run_take_of_clean calm_start (clean_of_earlier (errors_foldl _ later) fold)
  have late := run_take_of_clean (early.calm calm_start) fold
  have calm := late.calm (early.calm calm_start)
  refine ⟨early, _, late, ?_⟩
  simp only [parse, List.foldl_append, State.finishSkip, calm.skip] at clean
  exact stack_of_clean_finish calm.settled clean

/-- Every problem of what is never closed suggests the tag that would close it. -/
theorem suggestions_of_closed {closers : List Token}
    (closed : List.Forall₂ Statement.ClosedBy opened closers) :
    List.Forall₂ (fun error closer => error.problem.kind = .recovery ∧
        error.problem.suggestion? = some ("add `" ++ (Statement.ofToken closer).keyword ++ "`"))
      (opened.map fun head =>
        (⟨.neverClosed head.keyword head.closer, head.span⟩ : ParseError)) closers := by
  induction closed with
  | nil => exact .nil
  | cons close _ ih =>
      refine .cons ⟨rfl, ?_⟩ ih
      rw [close.closes.word]
      rfl

end Template.Parser

open Template Template.Parser

/-- Where a template without problems is cut off, what is still open is closed at the end as if the
tags that close it, and carry nothing else, were there, the innermost first. There is one problem
for each of them, which suggests it. -/
theorem parse_recovers_unclosed {tokens : List Token} (clean : (parse tokens).errors = [])
    (count : Nat) {closers : List Token}
    (closed : List.Forall₂ Statement.ClosedBy (openTags (tokens.take count)) closers) :
    (parse (tokens.take count ++ closers)).errors = [] ∧
    Node.unplacedAll (parse (tokens.take count)).template.children =
      Node.unplacedAll (parse (tokens.take count ++ closers)).template.children ∧
    (parse (tokens.take count)).errors = (openTags (tokens.take count)).map (fun head =>
      ⟨.neverClosed head.keyword head.closer, head.span⟩) ∧
    List.Forall₂ (fun error closer => error.problem.kind = .recovery ∧
        error.problem.suggestion? = some ("add `" ++ (Statement.ofToken closer).keyword ++ "`"))
      (parse (tokens.take count)).errors closers := by
  rw [← List.take_append_drop count tokens] at clean
  generalize tokens.take count = before at clean closed ⊢
  rcases runs_of_parse clean with ⟨early, last, late, nothing⟩
  have calm := early.calm calm_start
  have start : Tells [] {} := rfl
  have ended : Due last.stack last.blockNames := by
    refine ⟨?_, ?_⟩
    · rw [nothing]
      exact fun frame member => nomatch member
    · rw [nothing]
      exact nodup_of_run late (nodup_of_run early List.nodup_nil)
  have same : Alike (before.foldl State.take {}) (before.foldl State.take {}) := ⟨rfl, rfl, rfl⟩
  rcases finish_alike (spanOf before).stop closed same calm.settled calm.skip (start.run early)
    (due_of_run late ended) (Nat.le_refl _) with ⟨alike, empty, noSkip, told, silent⟩
  rw [calm.clean] at told silent
  have left : (closers.foldl State.take (before.foldl State.take {})).stack = [] := by
    have stack := alike.stack
    rw [empty, List.map_nil] at stack
    exact List.map_eq_nil_iff.mp stack.symm
  have whole : parse (before ++ closers) =
      ⟨⟨(closers.foldl State.take (before.foldl State.take {})).children,
        spanOf (before ++ closers)⟩, []⟩ := by
    simp only [parse, List.foldl_append, State.finishSkip, noSkip, left, List.length_nil,
      State.finish, silent]
  have problems : (parse before).errors = (openTags before).map (fun head =>
      ⟨.neverClosed head.keyword head.closer, head.span⟩) := by
    simp only [parse, State.finishSkip, calm.skip]
    exact told
  have children : (parse before).template.children = (State.finish (spanOf before).stop
      (before.foldl State.take {}).stack.length (before.foldl State.take {})).children := by
    simp only [parse, State.finishSkip, calm.skip]
  rw [whole, problems, children]
  exact ⟨rfl, alike.finished, rfl, suggestions_of_closed closed⟩

/-- A loop in the second branch of a choice, and a named part in the loop. -/
def nestedTags : List Token :=
  ["if a", "elif b", "for c in d", "block e", "set f = c", "endblock", "endfor", "else",
    "endif"].map placelessTag

theorem parse_recovers_unclosed_nested : (parse nestedTags).errors = [] ∧
    List.Forall₂ Statement.ClosedBy (openTags (nestedTags.take 5))
      (["endblock", "endfor", "endif"].map placelessTag) ∧
    Node.unplacedAll (parse (nestedTags.take 5)).template.children =
      Node.unplacedAll (parse (nestedTags.take 5 ++
        ["endblock", "endfor", "endif"].map placelessTag)).template.children ∧
    (parse (nestedTags.take 5)).errors.length = 3 := by
  have clean : (parse nestedTags).errors = [] := by decide +kernel
  have closed : List.Forall₂ Statement.ClosedBy (openTags (nestedTags.take 5))
      (["endblock", "endfor", "endif"].map placelessTag) := by decide +kernel
  have recovered := parse_recovers_unclosed clean 5 closed
  exact ⟨clean, closed, recovered.2.1, recovered.2.2.2.length_eq⟩

end Stencil
