import FlowCheck.Unicode.Visible

/-!
# Quoted text

A text between double quotes in which every character can be seen: quotes, backslashes and the
common controls are escaped by a letter, other invisible characters by their code point.
-/

namespace FlowCheck
namespace Text

def lowerHex (n : Nat) : List Char := Nat.toDigits 16 n

/-- The quoted form of one character. -/
def quoteChar (c : Char) : List Char :=
  match c with
  | '\x00' => ['\\', '0']
  | '\t' => ['\\', 't']
  | '\r' => ['\\', 'r']
  | '\n' => ['\\', 'n']
  | '\\' => ['\\', '\\']
  | '"' => ['\\', '"']
  | c =>
    if Unicode.isVisible c then [c]
    else '\\' :: 'u' :: '\x7b' :: lowerHex c.toNat ++ ['\x7d']

def quoted (s : String) : String :=
  String.ofList ('"' :: s.toList.flatMap quoteChar ++ ['"'])

end Text
end FlowCheck
