import RelPlan.Text.CodeRange

/-!
# Plain text

A text for a terminal holds characters to be shown, and control functions: single control
characters, and sequences of characters that begin with the escape character. The plain text
is what is left without them. White space is kept, also in the middle of a sequence unless the
sequence is a string; the sequence is then put off up to the next control character.
-/

namespace RelPlan.Text

/-- What a text is in the middle of. -/
inductive Passage where
  /-- Characters to be shown. -/
  | plain
  /-- A sequence of which only the escape character has been read. -/
  | escape
  /-- An escape sequence that waits for its last character. -/
  | escapeTail
  /-- A control sequence, which ends with a letter or the like. -/
  | control
  /-- A device control string of which only the beginning has been read. -/
  | device
  /-- The parameters of a device control string. -/
  | deviceParameters
  /-- The characters between the parameters and the data of a device control string. -/
  | deviceTail
  /-- A string up to its terminator. -/
  | string
  /-- A string for the operating system, which a bell ends too. -/
  | systemCommand
deriving DecidableEq

/-- Whether the character lies between two others. -/
def isBetween (first last c : Char) : Bool := first ≤ c && c ≤ last

/-- Whether the byte that ends a string is among the bytes of the character. -/
def hasTerminator (c : Char) : Bool := (String.utf8EncodeChar c).contains 0x9C

/-- What the text is in the middle of behind a character that is not shown. -/
def Passage.next (passage : Passage) (c : Char) : Passage :=
  if c = '\x1b' then escape
  else if c = '\x18' ∨ c = '\x1a' then plain
  else
    match passage with
    | plain => plain
    | escape =>
      if isBetween ' ' '/' c then escapeTail
      else if c = '[' then control
      else if c = ']' then systemCommand
      else if c = 'P' then device
      else if c = 'X' ∨ c = '^' ∨ c = '_' then string
      else if isBetween '0' '~' c then plain
      else escape
    | escapeTail => if isBetween '0' '~' c then plain else escapeTail
    | control => if isBetween '@' '~' c then plain else control
    | device =>
      if isBetween ' ' '/' c then deviceTail
      else if isBetween '0' '?' c then deviceParameters
      else if isBetween '@' '~' c then string
      else device
    | deviceParameters =>
      if isBetween ' ' '/' c then deviceTail
      else if isBetween '<' '~' c then string
      else deviceParameters
    | deviceTail => if isBetween '0' '~' c then string else deviceTail
    | string => if hasTerminator c then plain else string
    | systemCommand => if c = '\x07' then plain else systemCommand

/-- Whether the character is white space that keeps its effect among plain characters. -/
def isLayout (c : Char) : Bool := c == '\t' || c == '\n' || c == '\x0c' || c == '\r'

/-- Whether white space is kept in the middle of the passage. -/
def Passage.keepsLayout : Passage → Bool
  | plain | escape | escapeTail | control => true
  | device | deviceParameters | deviceTail | string | systemCommand => false

/-- Whether the character is shown among plain characters. -/
def isShown (c : Char) : Bool := isBeyondAscii c || isBetween ' ' '~' c || isLayout c

/-- The characters that are shown of a text which begins in the middle of a passage. White
space has put the passage off if `deferred` holds. -/
def shownChars (passage : Passage) (deferred : Bool) : List Char → List Char
  | [] => []
  | c :: cs =>
    if passage = .plain ∨ deferred then
      if isShown c then c :: shownChars (if isBeyondAscii c then .plain else passage) deferred cs
      else shownChars (passage.next c) false cs
    else if isLayout c ∧ passage.keepsLayout then c :: shownChars passage true cs
    else shownChars (passage.next c) false cs

/-- The text without control functions. -/
def plain (s : String) : String := String.ofList (shownChars .plain false s.toList)

end RelPlan.Text
