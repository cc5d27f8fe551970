import TestSignal.Text.Quoted

namespace TestSignal

namespace Target

/-!
# Flaws of request targets

A target that names a host can be wrong in the way it does so.  Such a target is
no request at all, so its flaw is told to whoever sends it and not answered.
-/

inductive Flaw where
  /-- A bracket without its partner, or something between a bracket and its place. -/
  | brackets
  /-- The version or the text of an address of a future version is missing. -/
  | futureAddress
  /-- An address of four numbers needs no brackets. -/
  | bracketedNumbers
  /-- What stands in brackets is no address. -/
  | noAddress (host : String)
  /-- A character of the authority looks like a delimiter. -/
  | disguisedDelimiter (authority : String)
  /-- A label of the host name is empty or has more than 63 characters. -/
  | label
  /-- The last label of the host name has more than 63 characters. -/
  | lastLabel
  | portText (port : String)
  | portRange
  deriving DecidableEq

namespace Flaw

/-- Whether a flaw concerns the writing of a host name as such. -/
def isOfName : Flaw → Bool
  | label | lastLabel => true
  | _ => false

def message : Flaw → String
  | brackets => "Invalid IPv6 URL"
  | futureAddress => "IPvFuture address is invalid"
  | bracketedNumbers => "An IPv4 address cannot be in brackets"
  | noAddress host => Text.quoted host ++ " does not appear to be an IPv4 or IPv6 address"
  | disguisedDelimiter authority =>
      "netloc '" ++ authority ++ "' contains invalid characters under NFKC normalization"
  | label => "encoding with 'idna' codec failed (UnicodeError: label empty or too long)"
  | lastLabel => "encoding with 'idna' codec failed (UnicodeError: label too long)"
  | portText port => "Port could not be cast to integer value as " ++ Text.quoted port
  | portRange => "Port out of range 0-65535"

end Flaw

end Target

end TestSignal
