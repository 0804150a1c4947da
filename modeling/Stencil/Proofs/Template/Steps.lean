import Stencil.Proofs.Template.Headers
/-!
# The steps of the machine

What a token can do, whatever is wrong with it: it is passed over, is a node of its own, opens a
construct or begins a block that is passed over, goes on with a choice, or closes the innermost
construct. `Step` has one case for each, with all that is known of the state there, so what every
token keeps is proved by these cases.
-/

namespace Stencil.Template.Parser

variable {state : State} {token : Token} {keyword : String}

namespace Frame

/-- Whether a choice waits for the one that a further condition has begun. -/
def isContinued : Frame → Bool
  | continued _ _ _ => true
  | _ => false

/-- The keyword of the tag that closes a construct. -/
def closer : Frame → String
  | choice _ _ _ | otherwise _ _ _ _ | continued _ _ _ => "endif"
  | loop _ _ => "endfor"
  | block _ _ => "endblock"

theorem closer_mem (frame : Frame) : frame.closer ∈ ["endif", "endfor", "endblock"] := by
  cases frame <;> simp [closer]

end Frame

/-- How many blocks are open after a further token of what is passed over. -/
def skipDepth (depth : Nat) (token : Token) : Nat :=
  let keyword := (Statement.ofToken token).keyword
  if token.tag? ≠ some .statement then depth
  else if ["if", "for", "block"].contains keyword then depth + 1
  else if ["endif", "endfor", "endblock"].contains keyword then depth - 1
  else depth

theorem take_skipping {skip : Skip} (skipping : state.skip = some skip) :
    state.take token =
      if skipDepth skip.depth token = 0 then
        state.closeSkip ⟨skip.head, skipDepth skip.depth token, token.stop⟩
      else { state with skip := some ⟨skip.head, skipDepth skip.depth token, token.stop⟩ } := by
  rw [State.take, skipping]
  rfl

/-- That a token is a node of its own, malformed or not. -/
inductive Single (token : Token) : Noticing Node → Prop where
  | text (plain : token.tag? = none) :
      Single token (.text ⟨token.span, some token.content⟩ token.content, [])
  | output (tag : token.tag? = some .expression) : Single token (outputNode token)
  | assignment (opens : (Statement.ofToken token).Says "set") :
      Single token (assignmentNode (Statement.ofToken token))
  | malformed (tag : token.tag? = some .statement) (problem : Problem) :
      Single token (malformedNode problem (Statement.ofToken token) token.stop)

/-- What a token can do. -/
inductive Step (token : Token) (state : State) : State → Prop where
  | passing {skip : Skip} (skipping : state.skip = some skip)
      (still : skipDepth skip.depth token ≠ 0) :
      Step token state
        { state with skip := some ⟨skip.head, skipDepth skip.depth token, token.stop⟩ }
  | passed {skip : Skip} (skipping : state.skip = some skip)
      (ends : skipDepth skip.depth token = 0) :
      Step token state
        (state.closeSkip ⟨skip.head, skipDepth skip.depth token, token.stop⟩)
  | comment (reading : state.skip = none) (tag : token.tag? = some .comment) :
      Step token state state
  | single {made : Noticing Node} (reading : state.skip = none) (single : Single token made) :
      Step token state (state.attach made)
  | choice (reading : state.skip = none) (opens : (Statement.ofToken token).Says "if")
      (room : state.stack.length < maxDepth) :
      Step token state (state.openChoice (Statement.ofToken token))
  | loop (reading : state.skip = none) (opens : (Statement.ofToken token).Says "for")
      (room : state.stack.length < maxDepth) :
      Step token state (state.push (.loop (Statement.ofToken token) []))
  | block (reading : state.skip = none) (opens : (Statement.ofToken token).Says "block")
      (room : state.stack.length < maxDepth) :
      Step token state (state.push (.block (Statement.ofToken token) []))
  | tooDeep {keyword : String} (reading : state.skip = none)
      (opens : (Statement.ofToken token).Says keyword) (opening : keyword ∈ ["if", "for", "block"])
      (full : maxDepth ≤ state.stack.length) :
      Step token state (state.openSkip (Statement.ofToken token))
  | further {head : Statement} {condition : Expr} {body : List Node} {outer : List Frame}
      (reading : state.skip = none) (continues : (Statement.ofToken token).Says "elif")
      (stack : state.stack = .choice head condition body :: outer)
      (room : state.stack.length < maxDepth) :
      Step token state
        ({ state with stack := .continued head condition body :: outer }.openChoice
          (Statement.ofToken token))
  | furtherTooDeep {head : Statement} {condition : Expr} {body : List Node} {outer : List Frame}
      (reading : state.skip = none) (continues : (Statement.ofToken token).Says "elif")
      (stack : state.stack = .choice head condition body :: outer)
      (full : maxDepth ≤ state.stack.length) :
      Step token state
        ({ state with stack := .continued head condition body :: outer }.openSkip
          (Statement.ofToken token))
  | middle {head : Statement} {condition : Expr} {body : List Node} {outer : List Frame}
      (reading : state.skip = none) (continues : (Statement.ofToken token).Says "else")
      (stack : state.stack = .choice head condition body :: outer) :
      Step token state (state.takeElse (Statement.ofToken token) head condition body outer)
  | closes {frame : Frame} {outer : List Frame} (reading : state.skip = none)
      (stack : state.stack = frame :: outer) (active : frame.isContinued = false)
      (tag : (Statement.ofToken token).Says frame.closer) :
      Step token state (state.close (some (Statement.ofToken token)) token.stop)

section Reading

variable (reading : state.skip = none)

include reading

/-- A construct opens where one more fits, and is passed over otherwise. -/
theorem step_opening {opened : State} (opens : (Statement.ofToken token).Says keyword)
    (opening : keyword ∈ ["if", "for", "block"])
    (fits : state.stack.length < maxDepth → Step token state opened) :
    Step token state (if maxDepth ≤ state.stack.length then
      state.openSkip (Statement.ofToken token) else opened) := by
  split
  · rename_i full
    exact .tooDeep reading opens opening full
  · rename_i room
    exact fits (Nat.not_le.mp room)

theorem step_takeOther (tag : token.tag? = some .statement) :
    Step token state (state.takeOther (Statement.ofToken token)) := by
  have opens := Statement.says_ofToken tag
  have malformed (problem : Problem) : Step token state
      (state.attach (malformedNode problem (Statement.ofToken token) token.stop)) :=
    .single reading (.malformed tag problem)
  unfold State.takeOther
  dsimp only
  split
  · rename_i word
    rw [word] at opens
    exact step_opening reading opens (by decide) (.choice reading opens)
  · split
    · rename_i word
      rw [word] at opens
      exact step_opening reading opens (by decide) (.loop reading opens)
    · split
      · rename_i word
        rw [word] at opens
        exact step_opening reading opens (by decide) (.block reading opens)
      · split
        · rename_i word
          rw [word] at opens
          exact .single reading (.assignment opens)
        · split
          · exact malformed _
          · split
            · exact malformed _
            · exact malformed _

theorem step_takeStatement (tag : token.tag? = some .statement) :
    Step token state (state.takeStatement (Statement.ofToken token)) := by
  have opens := Statement.says_ofToken tag
  have closing {frame : Frame} {outer : List Frame}
      (stack : state.stack = frame :: outer) (active : frame.isContinued = false)
      (word : (Statement.ofToken token).keyword = frame.closer) :
      Step token state (state.close (some (Statement.ofToken token)) token.stop) := by
    rw [word] at opens
    exact .closes reading stack active opens
  unfold State.takeStatement
  dsimp only
  split
  · rename_i word stack
    rw [word] at opens
    unfold State.takeElif
    dsimp only
    split
    · rename_i full
      exact .furtherTooDeep reading opens stack full
    · rename_i room
      exact .further reading opens stack (Nat.not_le.mp room)
  · rename_i word stack
    rw [word] at opens
    exact .middle reading opens stack
  · rename_i word stack
    exact closing stack rfl word
  · rename_i word stack
    exact closing stack rfl word
  · rename_i word stack
    exact closing stack rfl word
  · rename_i word stack
    exact closing stack rfl word
  · exact step_takeOther reading tag

end Reading

/-- Every token does one of these things. -/
theorem step_take (state : State) (token : Token) : Step token state (state.take token) := by
  cases skipping : state.skip with
  | some skip =>
      rw [take_skipping skipping]
      split
      · rename_i ends
        exact .passed skipping ends
      · rename_i still
        exact .passing skipping still
  | none =>
      unfold State.take
      rw [skipping]
      dsimp only
      split
      · rename_i plain
        exact .single skipping (.text plain)
      · rename_i tag
        exact .comment skipping tag
      · rename_i tag
        exact .single skipping (.output tag)
      · rename_i tag
        exact step_takeStatement skipping tag

end Stencil.Template.Parser
