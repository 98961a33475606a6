import AsmLayout.Text.Octets

/-! # Texts in quotes

A text is shown in quotes so that a shell would read it as it is, or so that it is clear where it ends.
-/

namespace AsmLayout.Host

open Text (Octets)

/-- Whether a character cannot be printed. -/
def isUnprintable (c : Char) : Bool :=
  c.toNat < 32 || 127 ≤ c.toNat

/-- Whether a text needs quotes to be read as one word that stands for itself. -/
def needsQuotes (text : Octets) : Bool :=
  text.isEmpty || text == ['\x7b'] || text == ['\x7d'] ||
    text.head? = some '#' || text.head? = some '~' ||
    text.any fun c => isUnprintable c || c.toNat == 0x60 || " !\"$&'()*;<=>?[\\^|".toList.contains c

/-- An unprintable character behind a backslash: as a letter or its number. -/
def visibleEscape (c : Char) : Octets :=
  let n := c.toNat
  if 7 ≤ n && n ≤ 13 then ['\\', "abtnvfr".toList.getD (n - 7) 'a']
  else ['\\', Char.ofNat (48 + n / 64), Char.ofNat (48 + n / 8 % 8), Char.ofNat (48 + n % 8)]

/-- The inside of quotes; `escaping` tells whether the last character was unprintable. -/
def insideQuotes : (escaping : Bool) → Octets → Octets
  | _, [] => []
  | escaping, c :: rest =>
    if isUnprintable c then
      (if escaping then [] else ['\'', '$', '\'']) ++ visibleEscape c ++ insideQuotes true rest
    else
      (if escaping then ['\'', '\''] else []) ++ (if c = '\'' then ['\'', '\\', '\'', '\''] else [c]) ++
        insideQuotes false rest

/-- A text in quotes, so that a shell reads it as it is. -/
def inQuotes (text : Octets) : Octets :=
  let isPlain (c : Char) : Bool :=
    !(isUnprintable c || c == '"' || c == '$' || c == '\\' || c.toNat == 0x60)
  if text.contains '\'' && text.all isPlain then '"' :: text ++ ['"']
  else '\'' :: insideQuotes false text ++ ['\'']

/-- A text in single quotes, with a backslash in front of what would not be clear. -/
def inMarks (text : Octets) : Octets :=
  '\'' :: (text.flatMap fun c =>
    if c = '\'' || c = '\\' then ['\\', c] else if isUnprintable c then visibleEscape c else [c]) ++
    ['\'']

end AsmLayout.Host
