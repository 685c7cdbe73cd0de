import InterfaceDraft.Toml.Scalar
import InterfaceDraft.Toml.Table

set_option autoImplicit false

namespace InterfaceDraft.Toml

def skipComment : List Char → Option (List Char)
  | [] => some []
  | '\n' :: rest => some ('\n' :: rest)
  | '\r' :: '\n' :: rest => some ('\r' :: '\n' :: rest)
  | c :: rest => if isPlain c then skipComment rest else none

def readLineEnd (input : List Char) : Option (List Char) :=
  let rest :=
    match input.dropWhile isSpace with
    | '#' :: comment => skipComment comment
    | other => some other
  match rest with
  | some [] => some []
  | some ('\n' :: rest) => some rest
  | some ('\r' :: '\n' :: rest) => some rest
  | _ => none

def skipFiller (inComment : Bool) : List Char → Option (List Char)
  | [] => some []
  | '\n' :: rest => skipFiller false rest
  | '\r' :: '\n' :: rest => skipFiller false rest
  | c :: rest =>
    if inComment then (if isPlain c then skipFiller true rest else none)
    else if isSpace c then skipFiller false rest
    else if c == '#' then skipFiller true rest
    else some (c :: rest)

def isBareKeyChar (c : Char) : Bool :=
  c.isAlphanum || c == '_' || c == '-'

def readKeyPart (input : List Char) : Option (String × List Char) :=
  match input with
  | '\x22' :: rest => (readBasic rest).map fun (key, rest) => (.ofList key, rest)
  | '\x27' :: rest => (readLiteral rest).map fun (key, rest) => (.ofList key, rest)
  | _ =>
    let key := input.takeWhile isBareKeyChar
    if key.isEmpty then none else some (.ofList key, input.dropWhile isBareKeyChar)

def readKeyParts : (fuel : Nat) → List Char → Option (List String × List Char)
  | 0, _ => none
  | fuel + 1, input =>
    match readKeyPart (input.dropWhile isSpace) with
    | none => none
    | some (part, rest) =>
      match rest.dropWhile isSpace with
      | '.' :: more => (readKeyParts fuel more).map fun (parts, rest) => (part :: parts, rest)
      | rest => some ([part], rest)

def depthLimit : Nat := 80

def readKey (input : List Char) : Option ((List String × String) × List Char) :=
  match readKeyParts (input.length + 1) input with
  | none => none
  | some (parts, rest) =>
    match parts.getLast? with
    | none => none
    | some last => if depthLimit ≤ parts.length then none else some ((parts.dropLast, last), rest)

mutual

def readValue : (fuel depth : Nat) → List Char → Option (Value × List Char)
  | 0, _, _ => none
  | fuel + 1, depth, input =>
    match input with
    | '[' :: rest =>
      if depth == 0 then none
      else (readItems fuel (depth - 1) rest).map fun (items, rest) => (.sequence items, rest)
    | '\x7b' :: rest =>
      if depth == 0 then none
      else
        match rest.dropWhile isSpace with
        | '\x7d' :: rest => some (.table [], rest)
        | rest =>
          (readPairs fuel (depth - 1) [] rest).map fun (entries, rest) =>
            (.table (entriesToValues entries), rest)
    | '\x22' :: _ => (readString input).map fun (text, rest) => (.text text, rest)
    | '\x27' :: _ => (readString input).map fun (text, rest) => (.text text, rest)
    | _ => readScalar input

-- A comma may follow the last item.
def readItems : (fuel depth : Nat) → List Char → Option (List Value × List Char)
  | 0, _, _ => none
  | fuel + 1, depth, input =>
    match skipFiller false input with
    | none => none
    | some (']' :: rest) => some ([], rest)
    | some rest =>
      match readValue fuel depth rest with
      | none => none
      | some (item, rest) =>
        match skipFiller false rest with
        | some (']' :: rest) => some ([item], rest)
        | some (',' :: rest) =>
          (readItems fuel depth rest).map fun (items, rest) => (item :: items, rest)
        | _ => none

def readPairs : (fuel depth : Nat) → Entries → List Char → Option (Entries × List Char)
  | 0, _, _, _ => none
  | fuel + 1, depth, entries, input =>
    match readKey input with
    | some ((path, key), '=' :: rest) =>
      match readValue fuel depth (rest.dropWhile isSpace) with
      | none => none
      | some (value, rest) =>
        match addDotted path key value .named entries with
        | none => none
        | some entries =>
          match rest.dropWhile isSpace with
          | '\x7d' :: rest => some (entries, rest)
          | ',' :: rest => readPairs fuel depth entries rest
          | _ => none
    | _ => none

end

structure State where
  entries : Entries
  current : List String

def State.add (state : State) (path : List String) (key : String) (value : Value) :
    Option State :=
  (changeAt false (addDotted path key value) state.current .named state.entries).map fun entries =>
    { state with entries }

def State.openTable (state : State) (path : List String) (key : String) : Option State :=
  (changeAt false (fun _ => addTable key) path .named state.entries).map (⟨·, path ++ [key]⟩)

def State.openElement (state : State) (path : List String) (key : String) : Option State :=
  (changeAt false (fun _ => addElement key) path .named state.entries).map (⟨·, path ++ [key]⟩)

def readStatement (state : State) (input : List Char) : Option (State × List Char) :=
  match input with
  | '[' :: '[' :: rest =>
    match readKey rest with
    | some ((path, key), ']' :: ']' :: rest) =>
      match state.openElement path key, readLineEnd rest with
      | some state, some rest => some (state, rest)
      | _, _ => none
    | _ => none
  | '[' :: rest =>
    match readKey rest with
    | some ((path, key), ']' :: rest) =>
      match state.openTable path key, readLineEnd rest with
      | some state, some rest => some (state, rest)
      | _, _ => none
    | _ => none
  | _ =>
    match readKey input with
    | some ((path, key), '=' :: rest) =>
      match readValue (2 * rest.length + 2) (depthLimit - 1) (rest.dropWhile isSpace) with
      | none => none
      | some (value, rest) =>
        match state.add path key value, readLineEnd rest with
        | some state, some rest => some (state, rest)
        | _, _ => none
    | _ => none

-- Fuel is computed from the length of the input, which every step shortens.
def readStatements : (fuel : Nat) → State → List Char → Option State
  | 0, _, _ => none
  | fuel + 1, state, input =>
    match input.dropWhile isSpace with
    | [] => some state
    | '\n' :: rest => readStatements fuel state rest
    | '\r' :: '\n' :: rest => readStatements fuel state rest
    | '#' :: rest =>
      match skipComment rest with
      | some rest => readStatements fuel state rest
      | none => none
    | rest =>
      match readStatement state rest with
      | some (state, rest) => readStatements fuel state rest
      | none => none

-- A byte order mark in front does not count.
def read? (text : List Char) : Option (List (String × Value)) :=
  let text :=
    match text with
    | '\ufeff' :: rest => rest
    | _ => text
  (readStatements (text.length + 1) ⟨[], []⟩ text).map fun state => entriesToValues state.entries

end InterfaceDraft.Toml
