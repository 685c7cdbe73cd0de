import InterfaceDraft.Text.Utf8

set_option autoImplicit false

namespace InterfaceDraft.Text

inductive SequenceState where
  | outside
  -- Inside a character, of which `left` bytes and one more are missing.
  | character (left : Nat)
  | escaped
  | intermediate
  | control
  | device
  | deviceNumbers
  | deviceIntermediate
  | string
  | command
  deriving DecidableEq, Repr

namespace SequenceState

def isLayout (b : Nat) : Bool :=
  b == 0x09 || b == 0x0a || b == 0x0c || b == 0x0d

def stepOutside (b : Nat) : SequenceState × Bool :=
  if b < 0x20 then (outside, isLayout b)
  else if b < 0x7f then (outside, true)
  else
    match announced b with
    | some (count, _, _) => (character (count - 1), true)
    | none => (outside, false)

-- A control character inside a sequence takes effect at once; layout then ends the sequence.
def stepControl (state : SequenceState) (b : Nat) : SequenceState × Bool :=
  if isLayout b then (outside, true) else (state, false)

def ofEscaped (b : Nat) : SequenceState :=
  if b < 0x30 then intermediate
  else if b == 0x5b then control
  else if b == 0x5d then command
  else if b == 0x50 then device
  else if b == 0x58 || b == 0x5e || b == 0x5f then string
  else if b < 0x7f then outside
  else escaped

-- `numbers` is the state for a byte that may stand between numbers.
def ofDevice (state numbers : SequenceState) (b : Nat) : SequenceState :=
  if b < 0x20 then state
  else if b < 0x30 then deviceIntermediate
  else if b < 0x3c then (if state == deviceIntermediate then string else deviceNumbers)
  else if b < 0x40 then numbers
  else if b < 0x7f then string
  else state

-- Cancelling and escape work everywhere.
def step (state : SequenceState) (b : Nat) : SequenceState × Bool :=
  if b == 0x18 || b == 0x1a then (outside, false)
  else if b == 0x1b then (escaped, false)
  else
    match state with
    | outside => stepOutside b
    | character 0 => (outside, true)
    | character (left + 1) => (character left, true)
    | escaped => if b < 0x20 then stepControl state b else (ofEscaped b, false)
    | intermediate =>
      if b < 0x20 then stepControl state b
      else if 0x30 ≤ b && b < 0x7f then (outside, false)
      else (state, false)
    | control =>
      if b < 0x20 then stepControl state b
      else if 0x40 ≤ b && b < 0x7f then (outside, false)
      else (state, false)
    | device => (ofDevice state deviceNumbers b, false)
    | deviceNumbers => (ofDevice state string b, false)
    | deviceIntermediate => (ofDevice state string b, false)
    | string => (if b == 0x9c then outside else state, false)
    | command => (if b == 0x07 then outside else state, false)

def textFrom (state : SequenceState) : Bytes → Bytes
  | [] => []
  | b :: rest =>
    match state.step b.toNat with
    | (state, true) => b :: textFrom state rest
    | (state, false) => textFrom state rest

end SequenceState

def withoutSequences (s : String) : String :=
  shown (SequenceState.outside.textFrom (bytesOf s))

end InterfaceDraft.Text
