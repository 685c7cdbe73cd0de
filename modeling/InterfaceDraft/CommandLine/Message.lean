import InterfaceDraft.Text.ControlSequence

set_option autoImplicit false

namespace InterfaceDraft.CommandLine

open Text

inductive Mark where
  | refusal
  | wrong
  | right
  | failure
  | caution
  deriving DecidableEq, Repr

-- Bold (1), red (31), green (32) and yellow (33), in the order in which they are written.
def Mark.codes : Mark → List Nat
  | .refusal => [1, 31]
  | .wrong => [33]
  | .right => [32]
  | .failure => [31, 1]
  | .caution => [33, 1]

inductive Part where
  | plain (text : String)
  | marked (mark : Mark) (text : String)
  deriving DecidableEq, Repr

abbrev Message := List Part

def colourCode (code : Nat) : String := s!"\x1b[{code}m"

def Part.coloured : Part → String
  | .plain text => text
  | .marked mark text => String.join (mark.codes.map colourCode) ++ text ++ colourCode 0

def Part.text : Part → String
  | .plain text => text
  | .marked _ text => text

def Message.coloured (message : Message) : String :=
  String.join (message.map Part.coloured)

def Message.text (message : Message) : String :=
  String.join (message.map Part.text)

structure Colours where
  usage : Bool := false
  report : Bool := false
  deriving DecidableEq, Repr

-- Colour has to be forced. For the command line an empty variable is as good as none, and colour
-- can be forbidden; for a run any value but zero forces it.
def Colours.ofEnvironment (environment : List (String × String)) : Colours :=
  let forced := environment.lookup "CLICOLOR_FORCE"
  let forbidden := environment.lookup "NO_COLOR"
  { usage := forced.getD "" != "" && forbidden.getD "" == ""
    report := forced.getD "0" != "0" }

-- Without colour there are no control sequences at all, also none that come from the arguments.
def Message.usage (message : Message) (colours : Colours) : String :=
  if colours.usage then message.coloured else withoutSequences message.coloured

def Message.report (message : Message) (colours : Colours) : String :=
  if colours.report then message.coloured else message.text

end InterfaceDraft.CommandLine
