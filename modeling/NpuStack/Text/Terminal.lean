/-! Text as a terminal shows it, without the control characters and the control
sequences that steer the terminal. -/

set_option autoImplicit false

namespace NpuStack.Text

inductive TerminalMode where
  /-- As text. -/
  | text
  /-- As the kind of a sequence, right after an escape character. -/
  | escape
  /-- As part of a short sequence. -/
  | short
  /-- As part of a control sequence, which a letter ends. -/
  | control
  /-- As part of a command, which a bell ends. -/
  | command
  /-- As the start of a device string. -/
  | deviceStart
  /-- As part of the numbers before a device string. -/
  | deviceNumbers
  /-- As a mark right before a device string. -/
  | deviceMark
  /-- As part of a string for the terminal. -/
  | string
  deriving DecidableEq, Repr

def escapeChar : Char := '\x1b'
def bell : Char := '\x07'

def isCancel (c : Char) : Bool := c == '\x18' || c == '\x1a'

/-- Blanks among the control characters: tab, line feed, form feed and carriage return. -/
def isLayout (c : Char) : Bool := c == '\t' || c == '\n' || c == '\x0c' || c == '\r'

def isWide (c : Char) : Bool := 0x80 ≤ c.toNat

/-- Characters whose encoding holds the byte that ends a string. -/
def endsString (c : Char) : Bool := isWide c && (String.singleton c).toUTF8.data.contains 0x9c

namespace TerminalMode

/-- Whether a character is shown. Layout characters act within sequences too, strings and commands
apart. -/
def shows (mode : TerminalMode) (c : Char) : Bool :=
  match mode with
  | .text => isLayout c || isWide c || (' ' ≤ c && c ≤ '~')
  | .escape | .short | .control => isLayout c
  | .command | .deviceStart | .deviceNumbers | .deviceMark | .string => false

def next (mode : TerminalMode) (c : Char) : TerminalMode :=
  if c = escapeChar then .escape
  else if isCancel c then .text
  else
    match mode with
    | .text => .text
    | .escape =>
      if c = '[' then .control
      else if c = ']' then .command
      else if c = 'P' then .deviceStart
      else if c = 'X' ∨ c = '^' ∨ c = '_' then .string
      else if ' ' ≤ c ∧ c ≤ '/' then .short
      else if '0' ≤ c ∧ c ≤ '~' then .text
      else .escape
    | .short => if '0' ≤ c ∧ c ≤ '~' then .text else .short
    | .control => if '@' ≤ c ∧ c ≤ '~' then .text else .control
    | .command => if c = bell then .text else .command
    | .deviceStart =>
      if ' ' ≤ c ∧ c ≤ '/' then .deviceMark
      else if '0' ≤ c ∧ c ≤ '?' then .deviceNumbers
      else if '@' ≤ c ∧ c ≤ '~' then .string
      else .deviceStart
    | .deviceNumbers =>
      if ' ' ≤ c ∧ c ≤ '/' then .deviceMark
      else if '<' ≤ c ∧ c ≤ '~' then .string
      else .deviceNumbers
    | .deviceMark => if '0' ≤ c ∧ c ≤ '~' then .string else .deviceMark
    | .string => if endsString c then .text else .string

end TerminalMode

/-- The characters shown. A layout character within a sequence starts a run of text, and the sequence
goes on where the run ends. -/
def plainFrom (mode : TerminalMode) (running : Bool) : List Char → List Char
  | [] => []
  | c :: rest =>
    if (if running then TerminalMode.text else mode).shows c then
      c :: plainFrom (if isWide c then .text else mode) true rest
    else plainFrom (mode.next c) false rest

def plain (text : String) : String := String.ofList (plainFrom .text true text.toList)

end NpuStack.Text
