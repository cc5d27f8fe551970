import TestSignal.Config.Sanitize
import TestSignal.Host
import TestSignal.Json.Reader
import TestSignal.Text.Unicode

namespace TestSignal

namespace Config

/-!
# Configuration files

A configuration file holds one JSON object in UTF-8.  Bytes that are no UTF-8
are a fault of their own, so a damaged file is told apart from a malformed one.
-/

/-- The configuration that the bytes of a file hold. -/
def ofBytes (bytes : List Nat) : Except Fault Config := do
  match Text.utf8? false bytes with
  | some text => ofFileValue (← Json.ofChars text)
  | none => .error .undecodableBytes

/-- The configuration in a file. -/
def ofFile (path : String) : HostRun Config := do
  if path.toList.contains '\x00' then throw .nulInPath
  let bytes ← HostRun.readFile path
  HostRun.ofExcept (ofBytes bytes)

end Config

end TestSignal
