/-!
# Upper and lower case

Names of severities, pillars and options are compared in one case. All of them are
written in ASCII, so a case map has to be exact only where its result has an ASCII
letter: the ASCII letters themselves and the few characters whose counterpart is
written with one, such as the dotless i and the long s. Any other character is kept;
neither it nor its counterpart can occur in a name.
-/

namespace InfraReview.Text

/-- The characters beyond ASCII whose upper case has an ASCII letter. -/
def upperToAscii : List (Char × List Char) :=
  [('\u00df', ['S', 'S']), ('\u0131', ['I']), ('\u0149', ['\u02bc', 'N']), ('\u017f', ['S']),
    ('\u01f0', ['J', '\u030c']), ('\u1e96', ['H', '\u0331']), ('\u1e97', ['T', '\u0308']),
    ('\u1e98', ['W', '\u030a']), ('\u1e99', ['Y', '\u030a']), ('\u1e9a', ['A', '\u02be']),
    ('\ufb00', ['F', 'F']), ('\ufb01', ['F', 'I']), ('\ufb02', ['F', 'L']),
    ('\ufb03', ['F', 'F', 'I']), ('\ufb04', ['F', 'F', 'L']), ('\ufb05', ['S', 'T']),
    ('\ufb06', ['S', 'T'])]

/-- The characters beyond ASCII whose lower case has an ASCII letter: the capital I
with a dot, and the sign of the kelvin. -/
def lowerToAscii : List (Char × List Char) :=
  [('\u0130', ['i', '\u0307']), ('\u212a', ['k'])]

/-- The upper case of one character. -/
def upperChar (c : Char) : List Char :=
  if c.toNat < 0x80 then [c.toUpper] else (upperToAscii.lookup c).getD [c]

/-- The lower case of one character. -/
def lowerChar (c : Char) : List Char :=
  if c.toNat < 0x80 then [c.toLower] else (lowerToAscii.lookup c).getD [c]

/-- A text in upper case, as far as names are concerned. -/
def upper (text : String) : String := String.ofList (text.toList.flatMap upperChar)

/-- A text in lower case, as far as names are concerned. -/
def lower (text : String) : String := String.ofList (text.toList.flatMap lowerChar)

end InfraReview.Text
