import NetworkPlugin.Text.Hidden
import NetworkPlugin.Text.Numeral

/-!
# Quoted text

A text is shown between double quotes.  Quote and backslash are escaped with a
backslash, the usual control characters have letters, and every other hidden
character is shown as its number in braces.
-/

namespace NetworkPlugin.Text

def shortEscape? : Char → Option Char
  | '"' => some '"'
  | '\\' => some '\\'
  | '\n' => some 'n'
  | '\r' => some 'r'
  | '\t' => some 't'
  | '\x00' => some '0'
  | _ => none

def encodeChar (c : Char) : List Char :=
  match shortEscape? c with
  | some escape => ['\\', escape]
  | none =>
      if isHidden c then
        ['\\', 'u', '\x7b'] ++ encodeNumeral 16 c.toNat ++ ['\x7d']
      else [c]

def quote (text : String) : String :=
  String.ofList ('"' :: text.toList.flatMap encodeChar ++ ['"'])

end NetworkPlugin.Text
