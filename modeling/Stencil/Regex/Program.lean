import Stencil.Regex.Syntax
/-!
# Programs for matching

A pattern is turned into a program of small steps. A program is built from its end: every part is
given the step that comes after it, and gives the step at which it begins.
-/

namespace Stencil.Regex

/-- A step of a program. Steps are named by their places. -/
inductive Instruction where
  /-- Goes on behind a character of a set. -/
  | one (set : Charset) (next : Nat)
  /-- Goes on in two ways, the first of which is preferred. -/
  | fork (first second : Nat)
  /-- Notes the place in the text. -/
  | save (slot next : Nat)
  /-- Goes on only under a condition. -/
  | check (condition : Look) (next : Nat)
  | accept
deriving Inhabited

/-- A program with the step at which it begins. -/
structure Program where
  steps : Array Instruction
  start : Nat

/-- A part of a program under construction: the place of its first step. -/
abbrev Building := StateM (Array Instruction)

/-- Adds a step and gives its place. -/
def addStep (step : Instruction) : Building Nat := do
  let steps ← get
  set (steps.push step)
  return steps.size

def setStep (place : Nat) (step : Instruction) : Building Unit :=
  modify fun steps => steps.setIfInBounds place step

/-- A step that goes on in two ways. A greedy one prefers the first. -/
def preference (greedy : Bool) (inner next : Nat) : Instruction :=
  if greedy then .fork inner next else .fork next inner

/-- A part that is repeated `count` times one after another. -/
def buildTimes (part : Nat → Building Nat) : Nat → Nat → Building Nat
  | 0, next => return next
  | count + 1, next => do part (← buildTimes part count next)

/-- A part that is repeated up to `count` times, where each time is inside the one before it. -/
def buildUpTo (part : Nat → Building Nat) (greedy : Bool) (last : Nat) : Nat → Nat → Building Nat
  | 0, next => return next
  | count + 1, next => do
    let inner ← part (← buildUpTo part greedy last count next)
    addStep (preference greedy inner last)

/-- A part that is repeated at least once. -/
def buildSome (part : Nat → Building Nat) (greedy : Bool) (next : Nat) : Building Nat := do
  let loop ← addStep .accept
  let inner ← part loop
  setStep loop (preference greedy inner next)
  return inner

/-- A part that is repeated any number of times. One that can match the empty text is tried at least
once if it is tried at all. -/
def buildMany (part : Nat → Building Nat) (nullable greedy : Bool) (next : Nat) :
    Building Nat := do
  if nullable then
    let inner ← buildSome part greedy next
    addStep (preference greedy inner next)
  else
    let loop ← addStep .accept
    let inner ← part loop
    setStep loop (preference greedy inner next)
    return loop

/-- A part that is repeated between two numbers of times. -/
def buildRepetition (part : Nat → Building Nat) (nullable greedy : Bool) (least : Nat)
    (most : Option Nat) (next : Nat) : Building Nat := do
  match most with
  | some most => buildTimes part least (← buildUpTo part greedy next (most - least) next)
  | none =>
    if least = 0 then buildMany part nullable greedy next
    else buildTimes part (least - 1) (← buildSome part greedy next)

mutual

/-- The steps of a pattern. -/
def build (next : Nat) : Node → Building Nat
  | .chars set => addStep (.one set next)
  | .look condition => addStep (.check condition next)
  | .capture index inner => do
    let closing ← addStep (.save (2 * index + 1) next)
    let inside ← build closing inner
    addStep (.save (2 * index) inside)
  | .repetition least most greedy inner =>
    buildRepetition (fun next => build next inner) inner.nullable greedy least most next
  | .sequence nodes => buildSequence next nodes
  | .alternatives nodes => buildAlternatives next nodes

/-- The steps of patterns one after another. -/
def buildSequence (next : Nat) : List Node → Building Nat
  | [] => return next
  | node :: rest => do build (← buildSequence next rest) node

/-- The steps of alternatives, the first of which is preferred. -/
def buildAlternatives (next : Nat) : List Node → Building Nat
  | [] => return next
  | [node] => build next node
  | node :: other :: rest => do
    let first ← build next node
    let second ← buildAlternatives next (other :: rest)
    addStep (.fork first second)

end

/-- The program of a pattern. The whole match counts as the capture with number zero. -/
def Program.ofNode (node : Node) : Program :=
  let (start, steps) := (do build (← addStep .accept) (.capture 0 node) : Building Nat).run #[]
  ⟨steps, start⟩

end Stencil.Regex
