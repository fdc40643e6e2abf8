import Coordination.Text.Extender
import Coordination.Text.Hidden
import Coordination.Text.Unassigned

/-!
# Quoted text

A text between quotation marks, in which each character can be told apart: whatever would not be seen as itself is
written as an escape.
-/

namespace Coordination.Text

/-- Whether a character is seen as itself, wherever it stands. -/
def isPlain (c : Char) : Bool :=
  if c.toNat < 0x7F then 0x20 ≤ c.toNat else !(isHidden c || isExtender c || isUnassigned c)

def escape (c : Char) : String :=
  match c with
  | '\x00' => "\\0"
  | '\t' => "\\t"
  | '\n' => "\\n"
  | '\r' => "\\r"
  | '"' => "\\\""
  | '\\' => "\\\\"
  | c => if isPlain c then c.toString else "\\u\x7b" ++ String.ofList (Nat.toDigits 16 c.toNat) ++ "\x7d"

def quoted (s : String) : String := "\"" ++ s.foldl (fun out c => out ++ escape c) "" ++ "\""

end Coordination.Text
