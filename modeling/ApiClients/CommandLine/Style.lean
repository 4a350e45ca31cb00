/-!
# Styled text

Text for a terminal may be set in a style by control sequences before and after it. Where the text
itself holds the sequence that ends a style, the style is begun again after it.
-/

namespace ApiClients.CommandLine

/-- The styles. -/
inductive Style where
  | bold
  | dimmed
  | underlined
  | red
  | green
  | yellow
  | cyan
  | boldGreen
  | boldRed
deriving DecidableEq, Repr

/-- The parameters of a style in its control sequence. -/
def Style.code : Style → String
  | bold => "1"
  | dimmed => "2"
  | underlined => "4"
  | red => "31"
  | green => "32"
  | yellow => "33"
  | cyan => "36"
  | boldGreen => "1;32"
  | boldRed => "1;31"

/-- The sequence that begins a style. -/
def Style.begin (s : Style) : List Char :=
  '\x1b' :: '[' :: (s.code.toList ++ ['m'])

/-- The sequence that ends every style. -/
def endOfStyle : List Char :=
  ['\x1b', '[', '0', 'm']

/-- A text with `again` after each end of a style. -/
def restyled (again : List Char) : List Char → List Char
  | '\x1b' :: '[' :: '0' :: 'm' :: rest => endOfStyle ++ again ++ restyled again rest
  | c :: rest => c :: restyled again rest
  | [] => []

/-- A text in a style, if the terminal shows styles. -/
def styled (color : Bool) (s : Style) (text : String) : String :=
  if color then String.ofList (s.begin ++ restyled s.begin text.toList ++ endOfStyle) else text

end ApiClients.CommandLine
