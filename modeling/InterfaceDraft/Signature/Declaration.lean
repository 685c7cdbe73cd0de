import InterfaceDraft.Text.Blank
import InterfaceDraft.Text.Search
import InterfaceDraft.Text.Uppercase

set_option autoImplicit false

namespace InterfaceDraft.Signature

open Text

def bodyOpen : Char := '\x7b'

def bodyClose : Char := '\x7d'

def keyword : List Char := "func (".toList

-- What follows the first space of the clause, or the whole clause if it has none, without one `*`
-- in front.
def receiverType (clause : List Char) : List Char :=
  let named :=
    match splitFirst? ' ' clause with
    | some (_, type) => type
    | none => clause
  let type := trim named
  (dropLead? ['*'] type).getD type

def isExported (method : List Char) : Bool :=
  method.head?.any isUppercase

def declared? (receiver line : List Char) : Option (List Char) :=
  match dropLead? keyword line with
  | none => none
  | some rest =>
    match splitFirst? ')' rest with
    | none => none
    | some (clause, after) =>
      let method := trimStart after
      if receiverType clause == receiver && isExported method then some method else none

-- A fragment ends the declaration if it opens the body at its end, or holds the body, which then
-- begins at the last opening brace.
def completed? (fragment : List Char) : Option (List Char) :=
  match dropTail? [bodyOpen] fragment with
  | some head => some head
  | none =>
    if endsWith [bodyClose] fragment then (splitLast? bodyOpen fragment).map Prod.fst else none

-- A space parts a fragment from the next one, unless it ends with an opening parenthesis.
def joined (fragment : List Char) : List Char :=
  if endsWith ['('] fragment then fragment else fragment ++ [' ']

-- Joining one item per line leaves `, )` where a list ends; a signature has `)` there.
def normalise (joinedText : List Char) : List Char :=
  replaceAll ", )".toList ")".toList joinedText

def finished (pending head : List Char) : List Char :=
  normalise (pending ++ trimEnd head)

end InterfaceDraft.Signature
