import DeviceFleet.Text.Hex
import DeviceFleet.Text.Printing

/-! Texts between quotation marks, for people: the mark and the backslash are escaped,
and so is every character that does not print. -/

namespace DeviceFleet.Quoted

def escape (c : Char) : List Char :=
  match c with
  | '"' => ['\\', '"']
  | '\\' => ['\\', '\\']
  | '\n' => ['\\', 'n']
  | '\r' => ['\\', 'r']
  | '\t' => ['\\', 't']
  | '\x00' => ['\\', '0']
  | c => if Text.prints c then [c] else ['\\', 'u', '{'] ++ Hex.ofNat c.toNat ++ ['}']

def text (s : String) : String := String.ofList ('"' :: s.toList.flatMap escape ++ ['"'])

def list (ss : List String) : String := "[" ++ String.intercalate ", " (ss.map text) ++ "]"

end DeviceFleet.Quoted
