import ProseLint.Exemption
import ProseLint.Options.Reader
import ProseLint.Options.Writer

/-!
# Options

The options of a run are the patterns of calls that the user leaves alone.
-/

namespace ProseLint

/-- The options of a run. -/
structure Options where
  /-- Patterns of calls to leave alone, in the order given. -/
  excludes : List String := []
deriving Repr, DecidableEq, Inhabited

namespace Options

/-- The options that a text gives. -/
def ofText (text : String) : Except Fault Options := (read text.toList).map Options.mk

/-- The text that stands for the options. -/
def toText (o : Options) : String := String.ofList (write o.excludes)

/-- The options with more excludes behind their own. -/
def withExcludes (o : Options) (more : List String) : Options := ⟨o.excludes ++ more⟩

/-- The exemptions that the options ask for. -/
def exemptions (o : Options) : Exemptions := Exemptions.ofStrings o.excludes

end Options

end ProseLint
