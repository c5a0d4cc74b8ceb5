import WorkflowLaunch.Text.Hexadecimal
import WorkflowLaunch.Text.Unprintable

set_option autoImplicit false

/-!
Text between double quotes, as messages show it: quotes, backslashes and four control characters
have short escapes, every other unprintable character is written by its code point.
-/

namespace WorkflowLaunch.Text

def quotedChar (c : Char) : List Char :=
  match c with
  | '\x00' => ['\\', '0']
  | '\t' => ['\\', 't']
  | '\n' => ['\\', 'n']
  | '\r' => ['\\', 'r']
  | '"' => ['\\', '"']
  | '\\' => ['\\', '\\']
  | c =>
    if isUnprintable c then ['\\', 'u', '{'] ++ hexadecimal c.toNat ++ ['}'] else [c]

def quoted (text : String) : String :=
  String.ofList ('"' :: text.toList.flatMap quotedChar ++ ['"'])

end WorkflowLaunch.Text
