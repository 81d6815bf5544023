import CoreCheck.Text.Split

/-!
# Text/Style — coloured text on a terminal

A style is a list of graphic attributes. Styled text stands between the sequence that switches them
on and the one that switches them off; without colour the text stays as it is.
-/

namespace CoreCheck.Text

/-- A graphic attribute of a terminal. -/
inductive Attribute where
  | bold | red | green | yellow | blue | magenta | cyan
deriving DecidableEq

namespace Attribute

/-- The number that switches an attribute on. -/
def onCode : Attribute → String
  | .bold => "1"
  | .red => "31"
  | .green => "32"
  | .yellow => "33"
  | .blue => "34"
  | .magenta => "35"
  | .cyan => "36"

/-- The number that switches an attribute off: bold has its own, colours go with everything. -/
def offCode : Attribute → String
  | .bold => "22"
  | _ => "0"

end Attribute

/-- A style: its attributes in the order in which they are switched on. -/
abbrev Style := List Attribute

/-- The control sequence of some numbers. -/
def controlSequence (codes : List String) : String := "\x1b[" ++ join ";" codes ++ "m"

/-- **Text in a style**, if colours are wanted. -/
def Style.paint (style : Style) (colored : Bool) (s : String) : String :=
  if colored then
    controlSequence (style.map Attribute.onCode) ++ s
      ++ controlSequence (style.map Attribute.offCode)
  else s

end CoreCheck.Text
