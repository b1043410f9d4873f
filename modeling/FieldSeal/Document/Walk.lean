import FieldSeal.Action
import FieldSeal.Document.Path
import FieldSeal.Json.Basic

/-!
# Changing the texts of a document

`Document.change` applies an action to every text that a path reaches, in the order of the document.
A place that is missing, that is no container of the right sort or that holds no text at the end of
the path is passed over. The document is part of the state, so that after a failure it shows what
was changed before.
-/

namespace FieldSeal.Document

variable {σ ε : Type}

/-- An action with a document at hand. -/
abbrev Walk (σ ε : Type) := Action (Json × σ) ε Unit

/-- Replace the text that the document is. -/
def changeText (f : String → Action σ ε String) : Walk σ ε
  | (.string text, s) =>
    match f text s with
    | (.ok changed, s) => (.ok (), .string changed, s)
    | (.error e, s) => (.error e, .string text, s)
  | (j, s) => (.ok (), j, s)

/-- Walk over the items one after another, up to the first failure. -/
def changeItems (walk : Walk σ ε) : Action (List Json × σ) ε Unit
  | ([], s) => (.ok (), [], s)
  | (item :: items, s) =>
    match walk (item, s) with
    | (.error e, item, s) => (.error e, item :: items, s)
    | (.ok (), item, s) =>
      match changeItems walk (items, s) with
      | (result, items, s) => (result, item :: items, s)

/-- Walk into the member with a name, if there is one. -/
def changeMember (name : String) (walk : Walk σ ε) : Action (List (String × Json) × σ) ε Unit
  | ([], s) => (.ok (), [], s)
  | ((n, value) :: members, s) =>
    if n = name then
      match walk (value, s) with
      | (result, value, s) => (result, (n, value) :: members, s)
    else
      match changeMember name walk (members, s) with
      | (result, members, s) => (result, (n, value) :: members, s)

/-- Change every text at a path. -/
def change (f : String → Action σ ε String) : Path → Walk σ ε
  | [], state => changeText f state
  | .key name :: path, (.object members, s) =>
    match changeMember name (change f path) (members, s) with
    | (result, members, s) => (result, .object members, s)
  | .item :: path, (.array items, s) =>
    match changeItems (change f path) (items, s) with
    | (result, items, s) => (result, .array items, s)
  | _, (j, s) => (.ok (), j, s)

end FieldSeal.Document
