import InterfaceDraft.Settings.Value

set_option autoImplicit false

namespace InterfaceDraft.Value

-- A table in a document may hold, under a key of its own, the value that it stands for; the other
-- entries of such a table do not count. A second key is for marks that a document cannot give, so
-- that a table with it is refused.
def wrappedKey : String := "___figment_value_value"

def markKey : String := "___figment_value_id"

mutual

def unwrap? : Value → Option Value
  | .sequence items => (unwrapItems? items).map .sequence
  | .table entries =>
    (unwrapEntries? entries).map fun inner => (inner.lookup wrappedKey).getD (.table inner)
  | value => some value

def unwrapItems? : List Value → Option (List Value)
  | [] => some []
  | item :: items =>
    match unwrap? item, unwrapItems? items with
    | some item, some items => some (item :: items)
    | _, _ => none

def unwrapEntries? : List (String × Value) → Option (List (String × Value))
  | [] => some []
  | (key, value) :: entries =>
    if key == markKey then none
    else
      match unwrap? value, unwrapEntries? entries with
      | some value, some entries => some ((key, value) :: entries)
      | _, _ => none

end

-- At this level the two keys are keys like others.
def unwrapDocument? : List (String × Value) → Option (List (String × Value))
  | [] => some []
  | (key, value) :: entries =>
    match unwrap? value, unwrapDocument? entries with
    | some value, some entries => some ((key, value) :: entries)
    | _, _ => none

end InterfaceDraft.Value
