import Marginalia.Text

/-!
# Ink

Text for a terminal may be set in an ink: bold, dimmed or a colour. A code in front switches the ink
on and a code behind switches it off; where the text itself switches all inks off, the ink is
switched on again.
-/

namespace Marginalia

/-- How a text is set. -/
inductive Ink where
  | bold
  | dimmed
  | cyan
  | yellow
  | boldYellow
  | boldGreen
deriving DecidableEq, Repr, Inhabited

namespace Ink

/-- The number by which a terminal knows the ink. -/
def number : Ink → String
  | bold => "1"
  | dimmed => "2"
  | cyan => "36"
  | yellow => "33"
  | boldYellow => "1;33"
  | boldGreen => "1;32"

/-- Switches the ink on. -/
def start (i : Ink) : Text := '\x1b' :: '[' :: i.number.toList ++ ['m']

/-- Switches all inks off. -/
def stop : Text := ['\x1b', '[', '0', 'm']

/-- Puts `again` behind every place that switches all inks off. -/
def resume (again : Text) : Text → Text
  | '\x1b' :: '[' :: '0' :: 'm' :: rest => stop ++ again ++ resume again rest
  | c :: rest => c :: resume again rest
  | [] => []

/-- The text set in the ink, or bare. -/
def paint (colored : Bool) (i : Ink) (t : Text) : Text :=
  if colored then i.start ++ resume i.start t ++ stop else t

end Ink

end Marginalia
