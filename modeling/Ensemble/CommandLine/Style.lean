/-
# Styled text

Text for a terminal may be styled: a code before it and one after it that ends all styles. Where
styled text itself ends all styles, its own style starts again.
-/

namespace Ensemble

/-- How a text is shown. -/
inductive Style where
  | bold
  | dimmed
  | red
  | green
  | yellow
  | cyan
deriving DecidableEq, Repr

namespace Style

/-- The number of a style. -/
def number : Style → String
  | bold => "1"
  | dimmed => "2"
  | red => "31"
  | green => "32"
  | yellow => "33"
  | cyan => "36"

/-- The characters that start a style. -/
def start (style : Style) : List Char :=
  ['\x1b', '['] ++ style.number.toList ++ ['m']

/-- The characters that end all styles. -/
def reset : List Char := ['\x1b', '[', '0', 'm']

/-- The characters with the style started again behind every end of styles. -/
def restarted (style : Style) : List Char → List Char
  | '\x1b' :: '[' :: '0' :: 'm' :: rest => reset ++ style.start ++ restarted style rest
  | c :: rest => c :: restarted style rest
  | [] => []

/-- A text in a style, if styles are shown at all. -/
def paint (style : Style) (shown : Bool) (text : String) : String :=
  if shown then String.ofList (style.start ++ restarted style text.toList ++ reset) else text

end Style

end Ensemble
