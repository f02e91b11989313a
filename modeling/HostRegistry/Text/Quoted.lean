import HostRegistry.Text.Unprintable

/-!
# Text in quotes, for diagnostics

A text is shown between double quotes. Quotes, backslashes, tabs, line ends and the zero character
have a short escape; any other character without a visible form is written as its code point.
-/

namespace HostRegistry.Text

/-- The digits of a number to base sixteen, in lower case. -/
def hexText (n : Nat) : String := String.ofList (Nat.toDigits 16 n)

def escapeChar (c : Char) : String :=
  match c with
  | '"' => "\\\""
  | '\\' => "\\\\"
  | '\n' => "\\n"
  | '\r' => "\\r"
  | '\t' => "\\t"
  | '\x00' => "\\0"
  | c => if isUnprintable c then "\\u\x7b" ++ hexText c.toNat ++ "\x7d" else c.toString

def quoted (s : String) : String := "\"" ++ String.join (s.toList.map escapeChar) ++ "\""

end HostRegistry.Text
