import Stencil.Regex.Footprint
import Stencil.Regex.Parser
import Stencil.Regex.Program
/-!
# Finding matches

A program runs along a text with all its possibilities at once. They are kept in order of
preference, and no step is taken up twice at one place, so that the time is bounded by the length of
the text times that of the program.
-/

namespace Stencil.Regex

/-- The places that a possibility has noted. -/
abbrev Slots := Array (Option Nat)

/-- A possibility: the step that comes next and the places noted so far. -/
structure Thread where
  step : Nat
  slots : Slots

/-- The characters around a place of a text. -/
structure Surroundings where
  before : Option Char
  after : Option Char

/-- Whether a character, if there is one, belongs to a word. -/
def inWord (unicode : Bool) (c : Option Char) : Bool :=
  c.any fun c => if unicode then isWordChar c else isAsciiWordChar c

/-- Whether a condition holds at a place. -/
def Look.holds (around : Surroundings) : Look → Bool
  | startText => around.before.isNone
  | endText => around.after.isNone
  | startLine => around.before.all (· == '\n')
  | endLine => around.after.all (· == '\n')
  | startLineReturn =>
    match around.before with
    | none => true
    | some '\n' => true
    | some '\r' => around.after != some '\n'
    | some _ => false
  | endLineReturn =>
    match around.after with
    | none => true
    | some '\r' => true
    | some '\n' => around.before != some '\r'
    | some _ => false
  | boundary unicode => inWord unicode around.before != inWord unicode around.after
  | noBoundary unicode => inWord unicode around.before == inWord unicode around.after
  | wordStart unicode => !inWord unicode around.before && inWord unicode around.after
  | wordEnd unicode => inWord unicode around.before && !inWord unicode around.after
  | wordStartHalf unicode => !inWord unicode around.before
  | wordEndHalf unicode => !inWord unicode around.after

/-- Follows all steps that read no character. What is left are the possibilities that wait for a
character or accept, from the last one on; `seen` tells which steps have been taken up. Each turn of
`fuel` takes up one possibility. -/
def expand (program : Program) (around : Surroundings) (place : Nat) :
    Nat → List Thread → Array Bool → List Thread → List Thread
  | 0, _, _, waiting => waiting
  | _ + 1, [], _, waiting => waiting
  | fuel + 1, thread :: rest, seen, waiting =>
    if seen.getD thread.step true then expand program around place fuel rest seen waiting
    else
      let seen := seen.setIfInBounds thread.step true
      match program.steps.getD thread.step .accept with
      | .fork first second =>
        expand program around place fuel
          ({ thread with step := first } :: { thread with step := second } :: rest) seen waiting
      | .save slot next =>
        let slots := thread.slots.setIfInBounds slot (some place)
        expand program around place fuel (⟨next, slots⟩ :: rest) seen waiting
      | .check condition next =>
        if condition.holds around then
          expand program around place fuel ({ thread with step := next } :: rest) seen waiting
        else expand program around place fuel rest seen waiting
      | .one _ _ => expand program around place fuel rest seen (thread :: waiting)
      | .accept => expand program around place fuel rest seen (thread :: waiting)

/-- What the possibilities at a place come to. -/
structure Progress where
  /-- Those that are behind the next character, from the last one on. -/
  moved : List Thread := []
  /-- The first that has accepted. -/
  accepted : Option Slots := none

/-- Lets a possibility read a character. One that accepts ends all that are less preferred. -/
def advanceThread (program : Program) (c : Option Char) (progress : Progress) (thread : Thread) :
    Progress :=
  if progress.accepted.isSome then progress
  else
    match program.steps.getD thread.step .accept with
    | .one set next =>
      if c.any fun c => set.holds c then
        { progress with moved := { thread with step := next } :: progress.moved }
      else progress
    | .accept => { progress with accepted := some thread.slots }
    | _ => progress

/-- All possibilities at a place that wait for a character or accept, in order of preference. -/
def waitingAt (program : Program) (around : Surroundings) (place : Nat) (threads : List Thread) :
    List Thread :=
  let count := program.steps.size
  (expand program around place (threads.length + 2 * count + 1) threads
    (Array.replicate count false) []).reverse

/-- Runs along a text. `found` is the best match so far; as long as there is none, a match may also
begin at the place that is reached. -/
def search (program : Program) (fresh : Slots) (before : Option Char) (place : Nat)
    (threads : List Thread) (found : Option Slots) : List Char → Option Slots
  | [] =>
    let entering := if found.isSome then [] else [⟨program.start, fresh⟩]
    let waiting := waitingAt program ⟨before, none⟩ place (threads ++ entering)
    (waiting.foldl (advanceThread program none) {}).accepted <|> found
  | c :: rest =>
    let entering := if found.isSome then [] else [⟨program.start, fresh⟩]
    let waiting := waitingAt program ⟨before, some c⟩ place (threads ++ entering)
    let progress := waiting.foldl (advanceThread program (some c)) {}
    let found := progress.accepted <|> found
    if found.isSome && progress.moved.isEmpty then found
    else search program fresh (some c) (place + 1) progress.moved.reverse found rest

/-- A pattern that is ready for searching. -/
structure Matcher where
  program : Program
  names : List (String × Nat)
  captures : Nat

/-- The size of the largest pattern that is searched for. -/
def sizeLimit : Nat := 10485760

/-- Prepares a pattern for searching. A failure is told as text. -/
def compile (pattern : String) : Except String Matcher :=
  match readPattern pattern.toList with
  | .error mistake => .error (report pattern.toList mistake)
  | .ok read =>
    if sizeLimit < read.footprint then
      .error ("Compiled regex exceeds size limit of " ++ toString sizeLimit ++ " bytes.")
    else .ok ⟨Program.ofNode read.node, read.names, read.captures⟩

/-- A match: the places at which it and its captures begin and end. -/
structure Match where
  start : Nat
  stop : Nat
  slots : Slots

/-- Looks for the first match in the text behind a place. -/
def Matcher.find? (matcher : Matcher) (before : Option Char) (place : Nat) (rest : List Char) :
    Option Match := do
  let fresh := Array.replicate (2 * (matcher.captures + 1)) none
  let slots ← search matcher.program fresh before place [] none rest
  some ⟨← slots.getD 0 none, ← slots.getD 1 none, slots⟩

/-- A place of a text with the character before it and the characters after it. -/
structure Place where
  before : Option Char := none
  index : Nat := 0
  rest : List Char

/-- The place some characters on. -/
def Place.forward (place : Place) (count : Nat) : Place :=
  if count = 0 then place
  else
    { before := place.rest[count - 1]? <|> place.before
      index := place.index + count
      rest := place.rest.drop count }

/-- All matches from a place on, from left to right and none of them touching another. `last` is the
end of the match before; an empty match there is passed over. The matches found so far are given
from the last one on. -/
def Matcher.matchesFrom (matcher : Matcher) :
    Nat → List Match → Option Nat → Place → List Match
  | 0, done, _, _ => done.reverse
  | fuel + 1, done, last, place =>
    match matcher.find? place.before place.index place.rest with
    | none => done.reverse
    | some found =>
      if found.start = found.stop ∧ last = some found.stop then
        if place.rest.isEmpty then done.reverse
        else matchesFrom matcher fuel done none (place.forward 1)
      else
        matchesFrom matcher fuel (found :: done) (some found.stop)
          (place.forward (found.stop - place.index))

/-- All matches in a text. Of two searches at least one moves on by a character. -/
def Matcher.matches (matcher : Matcher) (text : List Char) : List Match :=
  matcher.matchesFrom (2 * text.length + 2) [] none { rest := text }

end Stencil.Regex
