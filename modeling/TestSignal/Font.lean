import TestSignal.Filter
import TestSignal.Host

namespace TestSignal

/-!
# Fonts

A text is drawn with a font file or with a font that the system knows by name.
A family lists the files that may hold it, in order of preference, and the name
to ask for when none of them exists.  When neither helps, the installation's
default file is used without a look at whether it exists.
-/

inductive Font where
  | file (path : String)
  | named (name : String)
  deriving DecidableEq

namespace Font

/-- The option that chooses the font. -/
def param : Font → String × OptionValue
  | file path => ("fontfile", .quoted path)
  | named name => ("font", .text name)

end Font

/-- Where a family may be found, and the name that stands for it otherwise. -/
structure FontFamily where
  candidates : List String := []
  fallbackName : Option String := none
  deriving DecidableEq

structure Fonts where
  defaultPath : String
  families : List (String × FontFamily)

namespace Fonts

/-- The family of clocks and technical overlays, and of every unknown name. -/
def defaultFamily : String := "sf_mono"

/-- The directories of installed fonts, in order of preference. -/
def installedAt (fileName : String) : List String :=
  ["/Library/Fonts/" ++ fileName, "/System/Library/Fonts/Supplemental/" ++ fileName,
    "/System/Library/Fonts/" ++ fileName]

/-- The families that a configuration can name, for a default font file. -/
def standard (defaultPath : String) : Fonts where
  defaultPath := defaultPath
  families :=
    [ (defaultFamily, { candidates := [defaultPath] }),
      ("arial_bold",
        { candidates := installedAt "Arial Bold.ttf", fallbackName := some "Arial-BoldMT" }),
      ("arial_black",
        { candidates := installedAt "Arial Black.ttf", fallbackName := some "Arial-Black" }),
      ("impact", { candidates := installedAt "Impact.ttf", fallbackName := some "Impact" }) ]

/-- The font of clocks and technical overlays. -/
def default (fonts : Fonts) : Font := .file fonts.defaultPath

/-- The family that a value names, or the default one, or an empty one. -/
def family (fonts : Fonts) (name : Value) : FontFamily :=
  let named :=
    match name with
    | .string text => fonts.families.lookup text
    | _ => none
  (named.orElse fun _ => fonts.families.lookup defaultFamily).getD {}

/--
Whether a font file exists.  A check that the system refuses, or that cannot be
made of such a path, is logged and counts as no.
-/
def isInstalled (path : String) : HostRun Bool := do
  match ← HostRun.attempt (HostRun.fileExists path) with
  | .ok found => return found
  | .error fault =>
      if fault.family = .system || fault.family = .invalid then
        HostRun.logLine .warning .fonts
          ("Font path check failed for " ++ path ++ ": " ++ fault.message)
        return false
      else throw fault

/-- The first of some files that exists. -/
def firstInstalled : List String → HostRun (Option String)
  | [] => pure none
  | path :: rest => do
      if ← isInstalled path then return some path else firstInstalled rest

/-- The font of a family: an existing file, else its name, else the default file. -/
def resolve (fonts : Fonts) (name : Value) : HostRun Font := do
  let family := fonts.family name
  match ← firstInstalled family.candidates with
  | some path => return .file path
  | none =>
      match family.fallbackName.filter fun fallback => !fallback.isEmpty with
      | some fallback => return .named fallback
      | none => return fonts.default

end Fonts

end TestSignal
