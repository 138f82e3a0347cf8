/-!
# Quoted texts

A text between quotation marks, in which quotation marks, backslashes and
control characters are escaped.
-/

namespace Runbook.Text

def hexDigits (value : Nat) : List Char :=
  Nat.toDigits 16 value

def quotedChar (character : Char) : List Char :=
  match character with
  | '"' => ['\\', '"']
  | '\\' => ['\\', '\\']
  | '\n' => ['\\', 'n']
  | '\r' => ['\\', 'r']
  | '\t' => ['\\', 't']
  | '\x00' => ['\\', '0']
  | other =>
    if other < ' ' ∨ ('\x7f' ≤ other ∧ other < '\u00a0') then
      "\\u\x7b".toList ++ hexDigits other.toNat ++ ['\x7d']
    else [other]

def quoted (text : String) : String :=
  String.ofList ('"' :: text.toList.flatMap quotedChar ++ ['"'])

end Runbook.Text
