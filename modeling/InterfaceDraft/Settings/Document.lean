import InterfaceDraft.Settings.Basic
import InterfaceDraft.Toml.Text

set_option autoImplicit false

namespace InterfaceDraft

open Toml

def documentLine (key : String) (value : List Char) : List Char :=
  key.toList ++ " = ".toList ++ value ++ ['\n']

def flagText (flag : Bool) : List Char :=
  if flag then "true".toList else "false".toList

def ScanSettings.document (settings : ScanSettings) : List Char :=
  "[extraction]\n".toList ++
    documentLine "pool_size" (Nat.toDigits 10 settings.poolSize.toNat) ++
    documentLine "source_extension" (writeString settings.sourceExtension.toList) ++
    documentLine "test_suffix" (writeString settings.testSuffix.toList)

def OutputSettings.document (settings : OutputSettings) : List Char :=
  "[output]\n".toList ++
    documentLine "file_extension" (writeString settings.fileExtension.toList) ++
    documentLine "style" (writeString settings.style.name.toList) ++
    documentLine "create_dirs" (flagText settings.createDirs)

def Settings.document (settings : Settings) : List Char :=
  documentLine "version" (Nat.toDigits 10 settings.version.toNat) ++
    documentLine "debug" (flagText settings.debug) ++ ['\n'] ++
    settings.extraction.document ++ ['\n'] ++ settings.output.document

end InterfaceDraft
