/-!
# Media types

**Form.** `type/subtype`, then parameters behind semicolons. The part of the subtype behind its last
`+` is a suffix. A parameter is a name and a value with `=` between them, and blanks may stand in
front of it and behind a value in quotes. Only the form of parameters matters here.
-/

namespace FieldSeal.Http

structure MediaType where
  main : String
  sub : String
  /-- The part of the subtype behind the last plus sign. -/
  suffix? : Option String
  deriving DecidableEq, Repr

namespace MediaType

def isTokenChar (c : Char) : Bool :=
  c.isAlphanum ||
    c ∈ ['!', '#', '$', '%', '&', '\'', '*', '+', '-', '.', '^', '_', '\x60', '|', '~']

def isQuotedChar (c : Char) : Bool := 32 ≤ c.toNat && c.toNat < 127

/-- Behind the opening quote of a value: what follows its closing quote. The value is not empty,
and its first character may be a quote itself. -/
def afterQuoted : List Char → Option (List Char)
  | [] => none
  | c :: rest =>
    if isQuotedChar c then
      match rest.dropWhile fun c => isQuotedChar c && c != '"' with
      | '"' :: rest => some (rest.dropWhile (· = ' '))
      | _ => none
    else none

/-- Behind the equals sign of a parameter: what follows its value. -/
def afterValue : List Char → Option (List Char)
  | '"' :: rest => afterQuoted rest
  | cs =>
    match cs.takeWhile isTokenChar, cs.dropWhile isTokenChar with
    | [], _ :: _ => none
    | _, rest => some rest

/-- What follows a semicolon is a list of parameters. The number of characters bounds the steps. -/
def areParameters : (steps : Nat) → List Char → Bool
  | 0, _ => false
  | steps + 1, cs =>
    match cs.dropWhile (· = ' ') with
    | [] => true
    | cs =>
      match cs.takeWhile isTokenChar, cs.dropWhile isTokenChar with
      | _ :: _, '=' :: rest =>
        match afterValue rest with
        | some [] => true
        | some (';' :: rest) => areParameters steps rest
        | _ => false
      | _, _ => false

/-- A subtype and its suffix. A plus sign at its start does not begin a suffix. -/
def splitSuffix (sub : List Char) : List Char × Option (List Char) :=
  let behind := (sub.reverse.takeWhile (· ≠ '+')).reverse
  let before := sub.take (sub.length - behind.length - 1)
  if before.isEmpty then (sub, none) else (before, some behind)

/-- The media type that a text denotes, in lowercase letters. -/
def parse? (text : String) : Option MediaType :=
  let cs := text.toList
  let main := cs.takeWhile isTokenChar
  match cs.dropWhile isTokenChar with
  | '/' :: rest =>
    let sub := rest.takeWhile isTokenChar
    let valid : Bool := match rest.dropWhile isTokenChar with
      | [] => true
      | ';' :: rest => !sub.isEmpty && areParameters (rest.length + 1) rest
      | _ => false
    if main.isEmpty || !valid then none
    else
      let lower (cs : List Char) : String := String.ofList (cs.map Char.toLower)
      let (name, suffix?) := splitSuffix sub
      some { main := lower main, sub := lower name, suffix? := suffix?.map lower }
  | _ => none

/-- Texts of this type are JSON. -/
def isJson (m : MediaType) : Bool :=
  m.main = "application" && (m.sub = "json" || m.suffix? = some "json")

end MediaType

end FieldSeal.Http
