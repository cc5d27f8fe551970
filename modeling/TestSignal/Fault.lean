import TestSignal.Target.Flaw

namespace TestSignal

/-!
# Faults

A fault is the cause for which an operation gives no answer.  Most faults are
about a number that has no place in the result; the others concern the files
and programs outside.  A caller that tolerates some faults chooses by their
family, so the family is part of what a fault means.
-/

/-- The families by which callers decide whether to tolerate a fault. -/
inductive FaultFamily where
  /-- An arithmetic result leaves the range of its type. -/
  | overflow
  /-- A well-typed value is not acceptable, unreadable text included. -/
  | invalid
  /-- A value of the wrong type is used as a look-up key. -/
  | mistyped
  /-- The operating system refuses. -/
  | system
  /-- An operation of the program itself cannot proceed. -/
  | runtime
  /-- A started program does not finish properly. -/
  | process
  deriving DecidableEq

/-- Who reports a fault that comes with its own wording. -/
inductive Reporter where
  | system | invalid | runtime | sinkQuery | process | deadline
  deriving DecidableEq

inductive Fault where
  /-- An integer beyond the finite binary64 numbers is needed as one of them. -/
  | integerTooLarge
  /-- The quotient of two integers is beyond the finite binary64 numbers. -/
  | quotientTooLarge
  /-- An infinite number is needed as an integer. -/
  | infiniteInteger
  /-- A number that is not one is needed as an integer. -/
  | undefinedInteger
  /-- An instant falls in a year outside 1 to 9999. -/
  | yearOutOfRange (year : Int)
  /-- A local date falls outside the years 1 to 9999. -/
  | dateOutOfRange
  /-- An instant is not a number. -/
  | undefinedInstant
  /-- An instant does not fit into a count of seconds. -/
  | instantTooLarge
  /-- An instant's year does not fit into a calendar date. -/
  | instantBeyondCalendar
  /-- A list or mapping is used as a look-up key. -/
  | unusableKey (typeName : String)
  | emptyGraph
  | configNotObject
  | malformedJson
  /-- A list or object of JSON text stands in too many others. -/
  | nestedTooDeeply (isList : Bool)
  /-- An integer is written with more digits than are converted. -/
  | integerTextTooLong (digits : Nat)
  /-- An integer has more digits than are written. -/
  | integerTooLongToWrite
  | undecodableBytes
  | missingFile
  | isDirectory
  /-- A file stands where a path needs a directory. -/
  | notDirectory
  /-- A path holds the character that ends paths. -/
  | nulInPath
  /-- A request names its target wrongly. -/
  | targetFlaw (flaw : Target.Flaw)
  /-- A header of a request goes on in another line. -/
  | lineEndInHeader
  | sinkQueryFailed (device : String) (exitCode : Int)
  | executableMissing (path : String)
  | timedOut (command : List String) (seconds : Nat)
  /-- A fault in the words of who reports it. -/
  | reported (reporter : Reporter) (message : String)
  deriving DecidableEq

namespace Fault

/-- A list is read beyond its end. -/
def beyondEnd : Fault := .reported .runtime "list index out of range"

def family : Fault → FaultFamily
  | integerTooLarge | quotientTooLarge | infiniteInteger | dateOutOfRange | instantTooLarge =>
      .overflow
  | undefinedInteger | yearOutOfRange _ | undefinedInstant | emptyGraph | configNotObject
  | malformedJson | integerTextTooLong _ | integerTooLongToWrite | undecodableBytes | nulInPath
  | targetFlaw _ | lineEndInHeader => .invalid
  | unusableKey _ => .mistyped
  | instantBeyondCalendar | missingFile | isDirectory | notDirectory => .system
  | sinkQueryFailed _ _ | executableMissing _ | nestedTooDeeply _ => .runtime
  | timedOut _ _ => .process
  | reported reporter _ =>
      match reporter with
      | .system => .system
      | .invalid => .invalid
      | .runtime | .sinkQuery => .runtime
      | .process | .deadline => .process

/-- The wording of a fault, as it is logged and reported. -/
def message : Fault → String
  | integerTooLarge => "int too large to convert to float"
  | quotientTooLarge => "integer division result too large for a float"
  | infiniteInteger => "cannot convert float infinity to integer"
  | undefinedInteger => "cannot convert float NaN to integer"
  | yearOutOfRange year => "year " ++ toString year ++ " is out of range"
  | dateOutOfRange => "date value out of range"
  | undefinedInstant => "Invalid value NaN (not a number)"
  | instantTooLarge => "timestamp out of range for platform time_t"
  | instantBeyondCalendar => "[Errno 75] Value too large for defined data type"
  | unusableKey typeName => "unhashable type: '" ++ typeName ++ "'"
  | emptyGraph => "cannot rename the output of an empty filter graph"
  | configNotObject => "Broadcast config must be a JSON object"
  | malformedJson => "malformed JSON"
  | nestedTooDeeply isList =>
      "maximum recursion depth exceeded while decoding a JSON " ++
        (if isList then "array" else "object") ++ " from a unicode string"
  | integerTextTooLong digits =>
      "Exceeds the limit (4300 digits) for integer string conversion: value has " ++
        toString digits ++ " digits; use sys.set_int_max_str_digits() to increase the limit"
  | integerTooLongToWrite =>
      "Exceeds the limit (4300 digits) for integer string conversion; " ++
        "use sys.set_int_max_str_digits() to increase the limit"
  | undecodableBytes => "undecodable bytes"
  | missingFile => "no such file"
  | isDirectory => "is a directory"
  | notDirectory => "not a directory"
  | nulInPath => "embedded null byte"
  | targetFlaw flaw => flaw.message
  | lineEndInHeader => "Header values must not contain newline characters."
  | sinkQueryFailed device exitCode =>
      "ffmpeg -sinks " ++ device ++ " failed (rc=" ++ toString exitCode ++ ")"
  | executableMissing path => path ++ " not found on PATH"
  | timedOut command seconds =>
      "Command '" ++ Text.quotedList command ++ "' timed out after " ++ toString seconds ++
        " seconds"
  | reported _ message => message

end Fault

end TestSignal
