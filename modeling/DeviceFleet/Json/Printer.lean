import DeviceFleet.Text.Hex
import DeviceFleet.Json.Basic

/-! Writing JSON text: compact, or with each item on a line of its own, indented by
two spaces a level. Strings escape the quotation mark, the backslash and the
characters below the space, and nothing else. -/

namespace DeviceFleet.Json

def ascii (cs : List Char) : Bytes := cs.map Char.toUInt8

/-- The escaped form of one octet of a string. -/
def escape (b : UInt8) : Bytes :=
  match Char.ofUInt8 b with
  | '"' => ascii ['\\', '"']
  | '\\' => ascii ['\\', '\\']
  | '\n' => ascii ['\\', 'n']
  | '\r' => ascii ['\\', 'r']
  | '\t' => ascii ['\\', 't']
  | _ =>
    if b = 0x08 then ascii ['\\', 'b']
    else if b = 0x0c then ascii ['\\', 'f']
    else if b < 0x20 then
      ascii ['\\', 'u', '0', '0', Hex.digit (b.toNat / 16), Hex.digit (b.toNat % 16)]
    else [b]

def quote (s : String) : Bytes :=
  ascii ['"'] ++ (Text.encode s).flatMap escape ++ ascii ['"']

mutual

/-- The compact form. -/
def print : Json → Bytes
  | null => ascii ['n', 'u', 'l', 'l']
  | bool true => ascii ['t', 'r', 'u', 'e']
  | bool false => ascii ['f', 'a', 'l', 's', 'e']
  | int n => ascii (toString n).toList
  | double x => ascii x.text
  | string s => quote s
  | array [] => ascii ['[', ']']
  | array (v :: vs) => ascii ['['] ++ print v ++ printItems vs
  | object [] => ascii ['{', '}']
  | object ((n, v) :: ms) => ascii ['{'] ++ quote n ++ ascii [':'] ++ print v ++ printMembers ms
  | unreadable => ascii ['n', 'u', 'l', 'l']

/-- The items after the first, with the closing bracket. -/
def printItems : List Json → Bytes
  | [] => ascii [']']
  | v :: vs => ascii [','] ++ print v ++ printItems vs

def printMembers : Members → Bytes
  | [] => ascii ['}']
  | (n, v) :: ms => ascii [','] ++ quote n ++ ascii [':'] ++ print v ++ printMembers ms

end

def newline (level : Nat) : Bytes := ascii ('\n' :: List.replicate (2 * level) ' ')

mutual

/-- The form on several lines, with `level` levels around it. -/
def printLines (level : Nat) : Json → Bytes
  | array (v :: vs) =>
    ascii ['['] ++ newline (level + 1) ++ printLines (level + 1) v ++ lineItems level vs
  | object ((n, v) :: ms) =>
    ascii ['{'] ++ newline (level + 1) ++ quote n ++ ascii [':', ' '] ++
      printLines (level + 1) v ++ lineMembers level ms
  | v => print v

def lineItems (level : Nat) : List Json → Bytes
  | [] => newline level ++ ascii [']']
  | v :: vs =>
    ascii [','] ++ newline (level + 1) ++ printLines (level + 1) v ++ lineItems level vs

def lineMembers (level : Nat) : Members → Bytes
  | [] => newline level ++ ascii ['}']
  | (n, v) :: ms =>
    ascii [','] ++ newline (level + 1) ++ quote n ++ ascii [':', ' '] ++
      printLines (level + 1) v ++ lineMembers level ms

end

def pretty (v : Json) : Bytes := printLines 0 v

/-- The compact form of an object as devices get it: members in the order of their
names, without those of its own that are `null`. -/
def wire (members : Members) : Bytes :=
  print (.object (arrange (dropNulls (sortedMembers members))))

end DeviceFleet.Json
