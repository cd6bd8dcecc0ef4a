/-!
# Capital letters

Names of log levels are compared in capitals. Only letters whose capitals are
written in ASCII can take part in such a name; every other character is left as
it is, and so keeps the text different from every ASCII name. Letters in a template
for the time have one capital each.
-/

namespace RoleAccess.Text

/-- The capital form of a character, when it is written in ASCII; a ligature has
more than one letter, and any other character stands for itself. -/
def capital (c : Char) : List Char :=
  match c with
  | 'ı' => ['I']
  | 'ſ' => ['S']
  | 'ß' => ['S', 'S']
  | 'ﬀ' => ['F', 'F']
  | 'ﬁ' => ['F', 'I']
  | 'ﬂ' => ['F', 'L']
  | 'ﬃ' => ['F', 'F', 'I']
  | 'ﬄ' => ['F', 'F', 'L']
  | 'ﬅ' => ['S', 'T']
  | 'ﬆ' => ['S', 'T']
  | _ => [c.toUpper]

/-- A text with each character in its capital form. -/
def capitals (text : String) : String :=
  String.ofList (text.toList.flatMap capital)

/-- The one capital of a letter of ASCII, of the Latin letters up to U+00FE, or of
the Greek and the Russian alphabet; any other character stands for itself. -/
def upper (c : Char) : Char :=
  let n := c.toNat
  if (0xe0 ≤ n && n ≤ 0xfe && n ≠ 0xf7) || (0x3b1 ≤ n && n ≤ 0x3cb && n ≠ 0x3c2) ||
      (0x430 ≤ n && n ≤ 0x44f) then
    Char.ofNat (n - 0x20)
  else if 0x450 ≤ n && n ≤ 0x45f then Char.ofNat (n - 0x50)
  else if n = 0x3c2 then Char.ofNat 0x3a3
  else c.toUpper

end RoleAccess.Text
