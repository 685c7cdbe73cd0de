import InterfaceDraft.Files.Path

set_option autoImplicit false

namespace InterfaceDraft.Source

open Text Files

structure Filter where
  extension : String := "go"
  testSuffix : String := "_test.go"
  deriving DecidableEq, Repr

-- A setting may write the extension with dots in front.
def withoutDots (extension : String) : String :=
  String.ofList (extension.toList.dropWhile (· == '.'))

theorem withoutDots_dotted (dots : Nat) (extension : String) :
    withoutDots (.ofList (List.replicate dots '.' ++ extension.toList)) = withoutDots extension := by
  simp [withoutDots, List.dropWhile_append_of_pos]

def Filter.ofSetting (extension testSuffix : String) : Filter :=
  ⟨withoutDots extension, testSuffix⟩

-- Names that are not UTF-8 are never sources.
def Filter.accepts (filter : Filter) (p : Path) : Bool :=
  match p.extension?, p.fileName?.bind decode? with
  | some extension, some name =>
    decode? extension == some filter.extension.toList && !endsWith filter.testSuffix.toList name
  | _, _ => false

end InterfaceDraft.Source
