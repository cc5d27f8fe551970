import TestSignal.Host
import TestSignal.Text.Blank

namespace TestSignal

namespace Device

/-!
# Listing the output sinks

The engine lists the sinks of a kind of output card, one to a line, each with its
name in square brackets at the end of the line.  A name may hold brackets itself:
it reaches from the first opening bracket of the line to the closing one at its
end.  Other lines are passed over.
-/

/-- The text after the first opening bracket. -/
def afterBracket? : List Char → Option (List Char)
  | [] => none
  | c :: rest => if c == '[' then some rest else afterBracket? rest

/-- The line up to its closing bracket, if it ends in one; blanks after it do not count. -/
def beforeFinalBracket? (line : List Char) : Option (List Char) :=
  match line.reverse.dropWhile Text.isBlank with
  | ']' :: reversed => some reversed.reverse
  | _ => none

/-- The name in brackets that ends a line, without blanks around it. -/
def sinkName? (line : String) : Option String := do
  let body ← beforeFinalBracket? line.toList
  let name ← afterBracket? body
  let trimmed := Text.trimBy Text.isBlank name
  if trimmed.isEmpty then none else some (String.ofList trimmed)

/-- The names that a listing gives, in order. -/
def sinkNames (listing : String) : List String :=
  (Text.lines listing).filterMap sinkName?

/-- The seconds that the engine may take to list sinks. -/
def listingSeconds : Nat := 10

/-- Asks the engine for the sinks of a kind of output card. -/
def listSinks (enginePath kind : String) : HostRun (List String) := do
  let (code, output) ←
    HostRun.start [enginePath, "-hide_banner", "-sinks", kind] listingSeconds
  if code = 0 then return sinkNames output else throw (.sinkQueryFailed kind code)

end Device

end TestSignal
