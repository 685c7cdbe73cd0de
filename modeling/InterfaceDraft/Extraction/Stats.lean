import InterfaceDraft.Number.Decimal

set_option autoImplicit false

namespace InterfaceDraft.Extraction

open Number

structure Stats where
  discovered : Nat
  scanned : Nat
  failed : Nat
  found : Nat
  workers : Nat
  -- In nanoseconds.
  elapsed : Nat
  deriving DecidableEq, Repr

namespace Stats

def rounded (f : Fraction) : Fraction :=
  ((Magnitude.nearest? f).getD .zero).value

def nanos : Nat := 1000000000

-- The whole seconds and the rest are doubles, and their sum is another.
def seconds (stats : Stats) : Fraction :=
  let whole := rounded ⟨stats.elapsed / nanos, 1⟩
  let rest := rounded ⟨stats.elapsed % nanos, nanos⟩
  rounded ⟨whole.num * rest.den + rest.num * whole.den, whole.den * rest.den⟩

def rate (stats : Stats) : Fraction :=
  let files := rounded ⟨stats.scanned, 1⟩
  rounded ⟨files.num * stats.seconds.den, files.den * stats.seconds.num⟩

def secondsText (stats : Stats) : String :=
  String.ofList (stats.seconds.fixed 2)

def summary (stats : Stats) : String :=
  s!"{stats.found} signatures from {stats.scanned}/{stats.discovered} files " ++
    s!"({stats.failed} failed) in {stats.secondsText}s"

def rateLine (stats : Stats) : String :=
  if 0 < stats.scanned && 0 < stats.seconds.num then
    s!"  Performance: {String.ofList (stats.rate.fixed 0)} files/second\n"
  else ""

def report (stats : Stats) : String :=
  "\nExtraction Complete:\n" ++
    s!"  Files discovered: {stats.discovered}\n" ++
    s!"  Files scanned: {stats.scanned}\n" ++
    s!"  Files failed: {stats.failed}\n" ++
    s!"  Signatures found: {stats.found}\n" ++
    s!"  Workers: {stats.workers}\n" ++
    s!"  Time elapsed: {stats.secondsText}s\n" ++
    stats.rateLine

end Stats

end InterfaceDraft.Extraction
