import InterfaceDraft.Extraction.Pool

set_option autoImplicit false

namespace InterfaceDraft.Extraction

abbrev Scanned := Except Error (List (List Char))

structure Tally where
  perFile : List (List (List Char)) := []
  errors : List Error := []
  deriving DecidableEq, Repr

namespace Tally

def errorOf : PoolError → Error
  | .taskPanicked _ message => .workerPanicked message
  | error => .pool error

def absorb (tally : Tally) : Outcome Scanned → Tally
  | .ok (.ok signatures) => { tally with perFile := tally.perFile ++ [signatures] }
  | .ok (.error error) => { tally with errors := tally.errors ++ [error] }
  | .error error => { tally with errors := tally.errors ++ [errorOf error] }

def absorbAll (tally : Tally) (outcomes : List (Outcome Scanned)) : Tally :=
  outcomes.foldl absorb tally

def scanned (tally : Tally) : Nat := tally.perFile.length

def failed (tally : Tally) : Nat := tally.errors.length

-- By code points, a beginning before its extensions.
def precedes (a b : List Char) : Bool := !decide (b < a)

def signatures (tally : Tally) : List (List Char) :=
  tally.perFile.flatten.mergeSort precedes

theorem scanned_add_failed_absorb (tally : Tally) (outcome : Outcome Scanned) :
    (tally.absorb outcome).scanned + (tally.absorb outcome).failed =
      tally.scanned + tally.failed + 1 := by
  match outcome with
  | .ok (.ok _) => simp [absorb, scanned, failed]; omega
  | .ok (.error _) => simp [absorb, scanned, failed]; omega
  | .error _ => simp [absorb, scanned, failed]; omega

end Tally

end InterfaceDraft.Extraction
