import Stencil.Number.Text
/-!
# Failures of functions

A function fails only where its input has no sensible reading. A failure names the function and
its cause.
-/

namespace Stencil

/-- Why a function fails. -/
inductive FunctionProblem where
  | unknown
  /-- The argument at an index is no finite number. -/
  | argumentNotNumber (index : Nat) (shown : String)
  | notArray (kind : String)
  | notObject (kind : String)
  /-- The result would have too many parts. -/
  | tooLong (count limit : Nat)
  | noLength (kind : String)
  | unknownDirection (shown : String)
  | emptyAverage
  | badRange
  | nothingToCompare
  | emptyInterval (low high : Float)
  | badPlaces
  | badDivisor (shown : String)
  | badPattern (report : String)
  | negativeCount
  | notDate (kind : String)
  | millisOutOfRange (millis : Int)
  | unreadableDate (text : String)
  | badFormat (pattern : String)
  | badAmount
  | resultOutOfRange
  | tooManyMonths
  | noMidnight
  | noFirstDay
  /-- Whatever a function added by a user says. -/
  | custom (message : String)

/-- What is said about a failure. -/
def FunctionProblem.message : FunctionProblem → String
  | unknown => "unknown function"
  | argumentNotNumber index shown =>
    "argument " ++ toString (index + 1) ++ " must be a number, got '" ++ shown ++ "'"
  | notArray kind => "expected an array, got " ++ kind
  | notObject kind => "expected an object, got " ++ kind
  | tooLong count limit =>
    "result of " ++ toString count ++ " items exceeds the limit of " ++ toString limit
  | noLength kind => "a " ++ kind ++ " has no length"
  | unknownDirection shown => "direction must be 'asc' or 'desc', got '" ++ shown ++ "'"
  | emptyAverage => "cannot average an empty array"
  | badRange => "start, end and a non-zero step must be numbers"
  | nothingToCompare => "no values to compare"
  | emptyInterval low high => "invalid range " ++ Number.text low ++ ".." ++ Number.text high
  | badPlaces => "digits must be between 0 and 20"
  | badDivisor shown => "cannot divide by '" ++ shown ++ "'"
  | badPattern report => "invalid pattern: " ++ report
  | negativeCount => "count must not be negative"
  | notDate kind => "expected epoch milliseconds or a date string, got " ++ kind
  | millisOutOfRange millis => toString millis ++ " is outside the supported range"
  | unreadableDate text => "cannot parse '" ++ text ++ "' as a date"
  | badFormat pattern => "invalid format '" ++ pattern ++ "'"
  | badAmount => "amount must be a number"
  | resultOutOfRange => "result is outside the supported range"
  | tooManyMonths => "month count is too large"
  | noMidnight => "no midnight for this date"
  | noFirstDay => "no first day for this month"
  | custom message => message

/-- The failure of a function. -/
structure FunctionError where
  function : String
  problem : FunctionProblem

/-- What is said about the failure of a function. -/
def FunctionError.message (error : FunctionError) : String :=
  "Function '" ++ error.function ++ "' error: " ++ error.problem.message

end Stencil
