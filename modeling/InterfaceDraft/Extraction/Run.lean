import InterfaceDraft.Extraction.Stats
import InterfaceDraft.Extraction.Tally
import InterfaceDraft.Signature.Reader
import InterfaceDraft.Source.Discover

set_option autoImplicit false

namespace InterfaceDraft.Extraction

open Text Files Source

def scanFile (w : Workspace) (receiver : List Char) (p : Path) : Scanned :=
  match w.read p with
  | .error cause => .error (.fileRead p cause)
  | .ok content =>
    match Signature.ofReader receiver (.ofBytes content) with
    | .ok signatures => .ok signatures
    | .error error => .error (.fileRead p (.other error.message))

structure Extractor where
  filter : Filter := {}
  poolSize : Nat := 10

structure Findings where
  signatures : List (List Char)
  errors : List Error
  stats : Stats

def Findings.isComplete (findings : Findings) : Bool :=
  findings.errors.isEmpty

def Findings.complete (findings : Findings) : Except (List Error) (List (List Char)) :=
  if findings.isComplete then .ok findings.signatures else .error findings.errors

def Findings.ofTally (discovered workers elapsed : Nat) (tally : Tally) : Findings where
  signatures := tally.signatures
  errors := tally.errors
  stats :=
    { discovered, scanned := tally.scanned, failed := tally.failed
      found := tally.signatures.length, workers, elapsed }

def submitAll {α : Type} (pool : Pool α) : List (Task α) → Except PoolError (Pool α)
  | [] => .ok pool
  | task :: more =>
    match pool.submit task with
    | .error error => .error error
    | .ok pool => submitAll pool more

def scanTask (w : Workspace) (receiver : List Char) (p : Path) : Task Scanned :=
  .returns (scanFile w receiver p)

-- `refused` says which workers cannot be started, and `elapsed` is the time that the run took.
def Extractor.run (extractor : Extractor) (w : Workspace) (receiver : List Char) (root : Path)
    (refused : Nat → Option String) (elapsed : Nat) : Except Error Findings :=
  match extractor.filter.discover w root with
  | .error error => .error error
  | .ok files =>
    match Pool.start? refused extractor.poolSize with
    | .error error => .error (.pool error)
    | .ok pool =>
      match submitAll pool (files.map (scanTask w receiver)) with
      | .error error => .error (.pool error)
      | .ok pool =>
        .ok (.ofTally files.length pool.size elapsed (Tally.absorbAll {} pool.drain.received))

def Extractor.extract (extractor : Extractor) (w : Workspace) (receiver : List Char) (root : Path) :
    Except Error Findings :=
  extractor.run w receiver root (fun _ => none) 0

end InterfaceDraft.Extraction
