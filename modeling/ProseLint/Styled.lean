/-!
# Styled text

Output is a sequence of segments, some of which have a style. A terminal that shows styles gets each
styled segment between the sequence that starts the style and the one that ends it; otherwise only
the texts are written.
-/

namespace ProseLint

/-- How a segment of output looks. -/
inductive Style where
  | bold
  | red
  | boldRed
  | green
  | boldYellow
  | blue
  | cyan
  | dimCyan
  | yellow
  /-- The heading of a paragraph of help. -/
  | heading
  /-- The word before a complaint about the command line. -/
  | failure
deriving Repr, DecidableEq, Inhabited

namespace Style

/-- The parameters of the sequences that start a style, one after the other. -/
def codes : Style → List String
  | bold => ["1"]
  | red => ["31"]
  | boldRed => ["1;31"]
  | green => ["32"]
  | boldYellow => ["1;33"]
  | blue => ["34"]
  | cyan => ["36"]
  | dimCyan => ["2;36"]
  | yellow => ["33"]
  | heading => ["1", "4"]
  | failure => ["1", "31"]

end Style

/-- A piece of output. -/
structure Segment where
  style? : Option Style
  text : String
deriving Repr, DecidableEq, Inhabited

/-- Output in pieces. -/
abbrev Styled := List Segment

namespace Styled

/-- Text without a style. -/
def plain (text : String) : Segment := ⟨none, text⟩

/-- Text in a style. -/
def styled (style : Style) (text : String) : Segment := ⟨some style, text⟩

/-- The sequence with these parameters. -/
def sequence (parameters : String) : String := "\x1b[" ++ parameters ++ "m"

/-- A segment as it is written. -/
def renderSegment (color : Bool) (s : Segment) : String :=
  match s.style?, color with
  | some style, true => String.join (style.codes.map sequence) ++ s.text ++ sequence "0"
  | _, _ => s.text

/-- Output as it is written, with or without styles. -/
def render (color : Bool) (segments : Styled) : String :=
  String.join (segments.map (renderSegment color))

theorem render_append (color : Bool) (xs ys : Styled) :
    render color (xs ++ ys) = render color xs ++ render color ys := by
  simp [render, String.join_append]

end Styled

end ProseLint
