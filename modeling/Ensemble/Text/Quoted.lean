/-
# Quoted text

A text between double quotes, as messages show it: quotes, backslashes and the common controls
behind a backslash, and every character that does not show by itself as its number in
hexadecimal.
-/

import Ensemble.Text.CaseTable
import Ensemble.Text.HiddenTable

namespace Ensemble.Text

/-- How a character is written between quotes. -/
def quoteChar (c : Char) : List Char :=
  match c with
  | '\t' => ['\\', 't']
  | '\r' => ['\\', 'r']
  | '\n' => ['\\', 'n']
  | '"' => ['\\', '"']
  | '\\' => ['\\', '\\']
  | '\x00' => ['\\', '0']
  | _ =>
    if inRanges hiddenRanges c.toNat then
      ['\\', 'u', '\x7b'] ++ Nat.toDigits 16 c.toNat ++ ['\x7d']
    else [c]

/-- A text between quotes. -/
def quoted (text : String) : String :=
  String.ofList ('"' :: text.toList.flatMap quoteChar ++ ['"'])

end Ensemble.Text
