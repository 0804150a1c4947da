import Stencil.Function.Registry
/-!
# Arguments of functions

Functions read their input permissively: numbers are taken from numeric texts, texts from anything,
and an argument that is absent or null has its default. They fail only where no such reading makes
sense.
-/

namespace Stencil

/-- A list of arguments; positions past its end hold `undefined`. -/
abbrev Arguments := List Value

namespace Arguments

/-- The argument at a position. -/
def get (args : Arguments) (index : Nat) : Value := args[index]?.getD .undefined

/-- Whether there is an argument at a position that is no absence. -/
def given (args : Arguments) (index : Nat) : Bool := !(args.get index).isNullish

/-- The number at a position, or a default if nothing is given there. -/
def numberOr (args : Arguments) (index : Nat) (default : Float) : Float :=
  if args.given index then (args.get index).toNumber else default

/-- The text at a position, or a default if nothing is given there. -/
def textOr (args : Arguments) (index : Nat) (default : String) : String :=
  if args.given index then (args.get index).text else default

/-- The integer at a position without any fraction, brought into the 64-bit range. -/
def integerOr (args : Arguments) (function : String) (index : Nat) (default : Int) :
    Except FunctionError Int :=
  if args.given index then
    let x := (args.get index).toNumber
    if x.isFinite then .ok (Number.toInt64 x)
    else .error ⟨function, .argumentNotNumber index (args.get index).text⟩
  else .ok default

end Arguments

/-- What a function of the library does with the value sent into it and its arguments. A failure
names the function, so what is shared among functions is told for which of them it works. -/
abbrev Body := Value → Arguments → Except FunctionError Value

namespace Body

/-- A body that always has a result. -/
def total (result : Value → Arguments → Value) : Body := fun value args => .ok (result value args)

/-- A body that works on the elements of an array. -/
def onArray (function : String) (body : List Value → Arguments → Except FunctionError Value) :
    Body :=
  fun value args =>
    match value with
    | .array items => body items args
    | other => .error ⟨function, .notArray other.kind⟩

/-- A body that works on the entries of an object. -/
def onObject (function : String)
    (body : Entries Value → Arguments → Except FunctionError Value) : Body :=
  fun value args =>
    match value with
    | .object entries => body entries args
    | other => .error ⟨function, .notObject other.kind⟩

/-- A body that always has a result for an array. -/
def totalOnArray (function : String) (result : List Value → Arguments → Value) : Body :=
  onArray function fun items args => .ok (result items args)

/-- A body that always has a result for an object. -/
def totalOnObject (function : String) (result : Entries Value → Arguments → Value) : Body :=
  onObject function fun entries args => .ok (result entries args)

end Body

/-- A function of the library. It gives what its body gives, failures included. -/
def Function.ofBody (signature : Signature) (body : Body) : Function :=
  { signature
    handler := fun value args => (body value args).mapError .error }

/-- The longest text or array that a function makes out of less. -/
def generationLimit : Nat := Nat.pow 2 20

/-- Refuses results with too many parts. -/
def checkGenerated (function : String) (count : Nat) : Except FunctionError Unit :=
  if generationLimit < count then .error ⟨function, .tooLong count generationLimit⟩ else .ok ()

/-- The largest count of 64 bits. Counts beyond it are reported as this one. -/
def maxCount : Nat := Nat.pow 2 64 - 1

end Stencil
