import InterfaceDraft.Interface.Draft
import InterfaceDraft.Source.Filter

set_option autoImplicit false

namespace InterfaceDraft

structure ScanSettings where
  -- Zero stands for one worker per processor.
  poolSize : UInt64 := 10
  sourceExtension : String := "go"
  testSuffix : String := "_test.go"
  deriving DecidableEq, Repr

structure OutputSettings where
  fileExtension : String := "go"
  style : Interface.Style := .bare
  createDirs : Bool := true
  deriving DecidableEq, Repr

structure Settings where
  version : UInt32 := 1
  debug : Bool := false
  extraction : ScanSettings := {}
  output : OutputSettings := {}
  deriving DecidableEq, Repr

def ScanSettings.workers (settings : ScanSettings) (processors : Nat) : Nat :=
  if settings.poolSize == 0 then processors else settings.poolSize.toNat

def ScanSettings.filter (settings : ScanSettings) : Source.Filter :=
  .ofSetting settings.sourceExtension settings.testSuffix

end InterfaceDraft
