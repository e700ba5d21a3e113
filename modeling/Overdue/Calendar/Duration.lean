import Overdue.Text.Blank
import Overdue.Text.Integer

/-!
# Durations

Spans of time in whole milliseconds, and how a message shows them.
-/

namespace Overdue

/-- A span of time. -/
structure Duration where
  milliseconds : Nat
deriving DecidableEq, Repr

namespace Duration

/-- The span of so many seconds. -/
def ofSeconds (n : Nat) : Duration := ⟨1000 * n⟩

/-- Below one second the milliseconds, else the seconds with the decimals that are needed. -/
def text (d : Duration) : String :=
  let seconds := d.milliseconds / 1000
  let rest := d.milliseconds % 1000
  String.ofList <|
    if d.milliseconds = 0 then ['0', 'n', 's']
    else if seconds = 0 then Text.digits rest ++ ['m', 's']
    else if rest = 0 then Text.digits seconds ++ ['s']
    else Text.digits seconds ++ '.' :: Text.dropEnding (· == '0') (Text.paddedDigits 3 rest) ++ ['s']

end Duration

end Overdue
