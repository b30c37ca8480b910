/-!
# Control sequences

A text that is meant for a terminal can hold control characters and sequences that set its colours
or its title. What is left of it where no terminal reads it are the characters that show and the
white space.
-/

namespace RecordSql.Text

/-! ## Characters -/

/-- The white space among the control characters. -/
def isLayout (c : Char) : Bool :=
  c == '\t' || c == '\n' || c == '\x0c' || c == '\r'

/-- A character of the text itself. Beyond ASCII every character is. -/
def isVisible (c : Char) : Bool :=
  isLayout c || (0x20 ≤ c.toNat && c.toNat != 0x7f)

/-- The character that starts a sequence. -/
def escape : Char := '\x1b'

/-- A character that breaks off a sequence. -/
def isCancel (c : Char) : Bool :=
  c == '\x18' || c == '\x1a'

/-- Whether one of the bytes of the character ends a control string. -/
def endsString (c : Char) : Bool :=
  (String.utf8EncodeChar c).contains 0x9c

/-- Whether the code point of the character is in a range. -/
def inRange (low high : Nat) (c : Char) : Bool :=
  low ≤ c.toNat && c.toNat ≤ high

/-! ## Sequences -/

/-- How far a sequence has come. -/
inductive ControlSequence
  /-- Nothing but the escape. -/
  | start
  /-- An escape that goes on with intermediate characters. -/
  | intermediate
  /-- The parameters of a control function. -/
  | control
  /-- A command to the system, such as a title. -/
  | command
  /-- The head of a control string for the device, before any parameter of it. -/
  | deviceHead
  | deviceParameters
  | deviceIntermediates
  /-- The content of a control string. -/
  | string
  deriving DecidableEq, Repr

namespace ControlSequence

/-- The sequence that a character after the escape goes on with, if it does not end there. -/
def afterEscape (c : Char) : Option ControlSequence :=
  if c = '[' then some .control
  else if c = ']' then some .command
  else if c = 'P' then some .deviceHead
  else if c = 'X' ∨ c = '^' ∨ c = '_' then some .string
  else if inRange 0x20 0x2f c then some .intermediate
  else if inRange 0x30 0x7e c then none
  else some .start

/-- The head of a control string after one more character, where its parameters are the characters
    from `0` up to the given code point. -/
def afterDevice (here : ControlSequence) (lastParameter : Nat) (c : Char) : ControlSequence :=
  if inRange 0x20 0x2f c then .deviceIntermediates
  else if inRange 0x30 lastParameter c then .deviceParameters
  else if inRange 0x30 0x7e c then .string
  else here

/-- The sequence after one more character, unless the character is its last one. -/
def next (c : Char) : ControlSequence → Option ControlSequence
  | .start => afterEscape c
  | .intermediate => if inRange 0x30 0x7e c then none else some .intermediate
  | .control => if inRange 0x40 0x7e c then none else some .control
  | .command => if c = '\x07' then none else some .command
  | .deviceHead => some (afterDevice .deviceHead 0x3f c)
  | .deviceParameters => some (afterDevice .deviceParameters 0x3b c)
  | .deviceIntermediates => some (afterDevice .deviceIntermediates 0x2f c)
  | .string => if endsString c then none else some .string

/-- Whether white space shows though it stands within the sequence. -/
def showsLayout : ControlSequence → Bool
  | .start | .intermediate | .control => true
  | _ => false

end ControlSequence

/-! ## Reading -/

/-- What a reader is in the middle of. -/
inductive Passage
  /-- Text that shows. A sequence that white space interrupted is taken up again at the next control
      character, unless a character beyond ASCII came first. -/
  | text (interrupted : Option ControlSequence)
  /-- A sequence. -/
  | hidden (s : ControlSequence)
  deriving DecidableEq, Repr

namespace Passage

/-- Reads a character within a sequence; tells whether it shows. -/
def readHidden (s : ControlSequence) (c : Char) : Passage × Bool :=
  if c = escape then (.hidden .start, false)
  else if isCancel c then (.text none, false)
  else if isLayout c && s.showsLayout then (.text (some s), true)
  else ((s.next c).elim (.text none) .hidden, false)

/-- Reads a character; tells whether it shows. -/
def read (c : Char) : Passage → Passage × Bool
  | .hidden s => readHidden s c
  | .text interrupted =>
    if isVisible c then (.text (if c.toNat < 0x80 then interrupted else none), true)
    else if c = escape then (.hidden .start, false)
    else
      match interrupted with
      | some s => readHidden s c
      | none => (.text none, false)

/-- The characters of the text that show. -/
def visible : Passage → List Char → List Char
  | _, [] => []
  | p, c :: cs =>
    let (after, shows) := p.read c
    if shows then c :: after.visible cs else after.visible cs

end Passage

/-- The text without control characters and sequences. -/
def visible (s : String) : String :=
  String.ofList (Passage.visible (.text none) s.toList)

/-! ## Emphasis -/

/-- The text, set off from what stands around it by sequences of its own. -/
def emphasised (s : String) : String :=
  "\x1b[1m" ++ s ++ "\x1b[0m"

end RecordSql.Text
