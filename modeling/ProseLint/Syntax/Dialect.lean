/-!
# Dialects

The forms of the language that a source text may be written in.
-/

namespace ProseLint.Syntax

/-- A form of the language. -/
inductive Dialect where
  /-- Without types, with markup. -/
  | untyped
  /-- With types and angle-bracket casts, without markup. -/
  | typed
  /-- With types and markup. -/
  | typedMarkup
deriving Repr, DecidableEq, Inhabited

namespace Dialect

/-- May types be written? -/
def hasTypes : Dialect → Bool
  | untyped => false
  | typed | typedMarkup => true

/-- May markup be written? -/
def hasMarkup : Dialect → Bool
  | typed => false
  | untyped | typedMarkup => true

end Dialect

end ProseLint.Syntax
