import FieldSeal.Pattern.Ast

/-!
# Reading patterns

From text to tree. Every reader takes the characters from where it stands and returns those that it
left; `none` means that the text is no pattern.

**Blanks.** Where the verbose flag is set, blanks and comments may stand between any two parts, even
within a number or a name. Readers take the flag as `verbose`.

**Errors.** A text is accepted or not; there is one error for all that can be wrong.
-/

namespace FieldSeal.Pattern

open FieldSeal.Unicode (isBlank)

/-! ## Blanks and runs of characters -/

/-- The characters after blanks and comments; a comment reaches to the end of its line. -/
def skipFrom : (inComment : Bool) → List Char → List Char
  | _, [] => []
  | true, c :: rest => skipFrom (c ≠ '\n') rest
  | false, c :: rest =>
    if isBlank c then skipFrom false rest
    else if c = '#' then skipFrom true rest
    else c :: rest

def skip (verbose : Bool) (cs : List Char) : List Char := if verbose then skipFrom false cs else cs

/-- At most `limit` characters that satisfy `p`, and what follows them. In verbose mode blanks and
comments before, between and after them are passed over. -/
def run (verbose : Bool) (p : Char → Bool) : (limit : Nat) → (inComment : Bool) → List Char →
    List Char × List Char
  | _, _, [] => ([], [])
  | limit, true, c :: rest => run verbose p limit (c ≠ '\n') rest
  | limit, false, c :: rest =>
    if verbose && isBlank c then run verbose p limit false rest
    else if verbose && c == '#' then run verbose p limit true rest
    else if limit = 0 || !p c then ([], c :: rest)
    else
      match run verbose p (limit - 1) false rest with
      | (taken, rest) => (c :: taken, rest)

def isHexDigit (c : Char) : Bool := (Hex.value? c).isSome

/-- A number below `2 ^ 32`; blanks around it do not count in any mode. -/
def decimal (verbose : Bool) (cs : List Char) : Option (Nat × List Char) :=
  match run verbose Char.isDigit cs.length false (cs.dropWhile isBlank) with
  | ([], _) => none
  | (digits, rest) =>
    let n := digits.foldl (fun n d => 10 * n + (d.toNat - 48)) 0
    if n < Nat.pow 2 32 then some (n, rest.dropWhile isBlank) else none

/-! ## Escapes -/

/-- A part of a pattern that is not composed of others. -/
inductive Atom where
  | literal (l : Literal)
  | assertion (a : Assertion)
  | short (negated : Bool) (c : ShortClass)
  | property (negated : Bool) (q : Unicode.Query)

/-- Every code point but surrogates is a character. -/
def charOf? (n : Nat) : Option Char := if n.isValidChar then some (Char.ofNat n) else none

/-- A character written in hexadecimal: in braces, or with exactly `digits` digits. -/
def hexLiteral (verbose : Bool) (digits : Nat) (cs : List Char) : Option (Literal × List Char) :=
  match skip verbose cs with
  | '{' :: rest =>
    match run verbose isHexDigit rest.length false rest with
    | (taken, '}' :: rest) => do
      let c ← (Hex.number? taken).bind charOf?
      return ({ char := c }, skip verbose rest)
    | _ => none
  | cs =>
    match run verbose isHexDigit digits false cs with
    | (taken, rest) =>
      if taken.length = digits then do
        let c ← (Hex.number? taken).bind charOf?
        return ({ char := c, isByte := digits = 2 }, rest)
      else none

/-- The part before the first occurrence of a word and the part after it. -/
def cutAt (word : List Char) : List Char → Option (List Char × List Char)
  | [] => none
  | c :: rest =>
    if word.isPrefixOf (c :: rest) then some ([], (c :: rest).drop word.length)
    else (cutAt word rest).map fun (before, after) => (c :: before, after)

/-- The set named in braces, and whether the name asks for its complement. -/
def propertyOfName (negated : Bool) (name : List Char) : Atom :=
  let value (p v : List Char) : Unicode.Query := .value (String.ofList p) (String.ofList v)
  match cutAt ['!', '='] name, cutAt [':'] name, cutAt ['='] name with
  | some (p, v), _, _ => .property (!negated) (value p v)
  | none, some (p, v), _ => .property negated (value p v)
  | none, none, some (p, v) => .property negated (value p v)
  | none, none, none => .property negated (.name (String.ofList name))

/-- A property: one letter, or a name in braces. -/
def property (verbose negated : Bool) (cs : List Char) : Option (Atom × List Char) :=
  match skip verbose cs with
  | '{' :: rest =>
    match run verbose (· ≠ '}') rest.length false rest with
    | (name, '}' :: rest) => some (propertyOfName negated name, rest)
    | _ => none
  | '\\' :: _ => none
  | c :: rest => some (.property negated (.name (String.ofList [c])), skip verbose rest)
  | [] => none

/-- A word boundary, which may be followed by its kind in braces. Braces with anything but letters
first are left for a repetition. -/
def boundary (verbose : Bool) (cs : List Char) : Option (Atom × List Char) :=
  match cs with
  | '{' :: rest =>
    match skip verbose rest with
    | [] => none
    | c :: more =>
      let isPart (c : Char) : Bool := c.isAlpha || c = '-'
      if isPart c then
        match run verbose isPart (more.length + 1) false (c :: more) with
        | (name, '}' :: after) =>
          match String.ofList name with
          | "start" => some (.assertion .wordStart, after)
          | "end" => some (.assertion .wordEnd, after)
          | "start-half" => some (.assertion .wordStartHalf, after)
          | "end-half" => some (.assertion .wordEndHalf, after)
          | _ => none
        | _ => none
      else some (.assertion .wordBoundary, cs)
  | _ => some (.assertion .wordBoundary, cs)

/-- ASCII characters that stand for themselves behind a backslash: all but letters, digits and angle
brackets. -/
def isEscapable (c : Char) : Bool := c.toNat < 128 && !c.isAlphanum && c ≠ '<' && c ≠ '>'

/-- What follows a backslash. -/
def escape (verbose : Bool) : List Char → Option (Atom × List Char)
  | [] => none
  | c :: rest =>
    match c with
    | 'x' => (hexLiteral verbose 2 rest).map fun (l, rest) => (.literal l, rest)
    | 'u' => (hexLiteral verbose 4 rest).map fun (l, rest) => (.literal l, rest)
    | 'U' => (hexLiteral verbose 8 rest).map fun (l, rest) => (.literal l, rest)
    | 'p' => property verbose false rest
    | 'P' => property verbose true rest
    | 'd' => some (.short false .digit, rest)
    | 'D' => some (.short true .digit, rest)
    | 's' => some (.short false .space, rest)
    | 'S' => some (.short true .space, rest)
    | 'w' => some (.short false .word, rest)
    | 'W' => some (.short true .word, rest)
    | 'a' => some (.literal { char := '\x07' }, rest)
    | 'f' => some (.literal { char := '\x0c' }, rest)
    | 't' => some (.literal { char := '\t' }, rest)
    | 'n' => some (.literal { char := '\n' }, rest)
    | 'r' => some (.literal { char := '\r' }, rest)
    | 'v' => some (.literal { char := '\x0b' }, rest)
    | 'A' => some (.assertion .textStart, rest)
    | 'z' => some (.assertion .textEnd, rest)
    | 'b' => boundary verbose rest
    | 'B' => some (.assertion .notWordBoundary, rest)
    | '<' => some (.assertion .wordStart, rest)
    | '>' => some (.assertion .wordEnd, rest)
    | c => if isEscapable c then some (.literal { char := c }, rest) else none

def Atom.toAst : Atom → Ast
  | literal l => .literal l
  | assertion a => .assertion a
  | short negated c => .short negated c
  | property negated q => .property negated q

/-- Conditions on a position are no members of a set. -/
def Atom.toMember? : Atom → Option ClassSet
  | literal l => some (.literal l)
  | assertion _ => none
  | short negated c => some (.short negated c)
  | property negated q => some (.property negated q)

/-! ## Sets in brackets -/

def AsciiClass.ofName? : String → Option AsciiClass
  | "alnum" => some alnum
  | "alpha" => some alpha
  | "ascii" => some ascii
  | "blank" => some blank
  | "cntrl" => some cntrl
  | "digit" => some digit
  | "graph" => some graph
  | "lower" => some lower
  | "print" => some print
  | "punct" => some punct
  | "space" => some space
  | "upper" => some upper
  | "word" => some word
  | "xdigit" => some xdigit
  | _ => none

/-- A named class of ASCII characters, behind its opening bracket. -/
def asciiClass (cs : List Char) : Option (ClassSet × List Char) :=
  match cs with
  | ':' :: rest =>
    let (negated, rest) := match rest with
      | '^' :: rest => (true, rest)
      | rest => (false, rest)
    let name := rest.takeWhile (· ≠ ':')
    match rest.dropWhile (· ≠ ':') with
    | ':' :: ']' :: after =>
      (AsciiClass.ofName? (String.ofList name)).map fun c => (.ascii negated c, after)
    | _ => none
  | _ => none

/-- The hyphens at the start of a set, which stand for themselves. -/
def leadingHyphens (verbose : Bool) (cs : List Char) : List ClassSet × List Char :=
  match run verbose (· = '-') cs.length false cs with
  | (hyphens, rest) => (hyphens.map fun c => .literal { char := c }, rest)

/-- The start of a set behind its opening bracket: whether it is negated, and members that stand
for themselves only here, the last one first. -/
def openSet (verbose : Bool) (cs : List Char) : Bool × List ClassSet × List Char :=
  let (negated, cs) := match skip verbose cs with
    | '^' :: rest => (true, skip verbose rest)
    | cs => (false, cs)
  match leadingHyphens verbose cs with
  | ([], ']' :: rest) => (negated, [.literal { char := ']' }], skip verbose rest)
  | (hyphens, rest) => (negated, hyphens, rest)

/-- One end of a range, or a member by itself. -/
def setAtom (verbose : Bool) : List Char → Option (Atom × List Char)
  | [] => none
  | '\\' :: rest => escape verbose rest
  | c :: rest => some (.literal { char := c }, rest)

/-- A member or a range of members. A hyphen in front of a closing bracket or of another hyphen
makes no range. -/
def setRange (verbose : Bool) (cs : List Char) : Option (ClassSet × List Char) := do
  let (first, rest) ← setAtom verbose cs
  match skip verbose rest with
  | [] => none
  | '-' :: rest =>
    match skip verbose rest with
    | [] => none
    | ']' :: _ | '-' :: _ => return (← first.toMember?, '-' :: rest)
    | next => do
      let (last, rest) ← setAtom verbose next
      match first, last with
      | .literal low, .literal high =>
        if low.char ≤ high.char then return (.range low high, rest) else none
      | _, _ => none
  | rest => return (← first.toMember?, rest)

/-- The left side of a set operation whose right side is still to be read. -/
abbrev Pending := Option (SetOp × ClassSet)

/-- Operations bind to the left and none binds tighter than another. -/
def Pending.close (pending : Pending) (members : List ClassSet) : ClassSet :=
  let right := ClassSet.ofList members.reverse
  match pending with
  | none => right
  | some (op, left) => .binary op left right

/-- The members of a set up to its closing bracket; `members` has the last one first. Each step
takes a character, so the number of characters bounds the steps. -/
def setMembers (verbose : Bool) : (steps : Nat) → List Char → List ClassSet → Pending →
    Option (ClassSet × List Char)
  | 0, _, _, _ => none
  | steps + 1, cs, members, pending =>
    let operate (op : SetOp) (rest : List Char) :=
      setMembers verbose steps rest [] (some (op, pending.close members))
    match skip verbose cs with
    | [] => none
    | ']' :: rest => some (pending.close members, rest)
    | '[' :: rest =>
      match asciiClass rest with
      | some (c, rest) => setMembers verbose steps rest (c :: members) pending
      | none =>
        match openSet verbose rest with
        | (negated, start, rest) => do
          let (inner, rest) ← setMembers verbose steps rest start none
          setMembers verbose steps rest (.nested negated inner :: members) pending
    | '&' :: '&' :: rest => operate .inter rest
    | '-' :: '-' :: rest => operate .diff rest
    | '~' :: '~' :: rest => operate .symmDiff rest
    | cs => do
      let (member, rest) ← setRange verbose cs
      setMembers verbose steps rest (member :: members) pending

/-- A set behind its opening bracket. -/
def bracket (verbose : Bool) (cs : List Char) : Option (Ast × List Char) :=
  match openSet verbose cs with
  | (negated, start, rest) => do
    let (s, rest) ← setMembers verbose (rest.length + 1) rest start none
    return (.bracket negated s, rest)

/-! ## Groups and flags -/

def Flag.ofChar? : Char → Option Flag
  | 'i' => some caseInsensitive
  | 'm' => some multiLine
  | 's' => some dotAll
  | 'U' => some swapGreed
  | 'u' => some unicode
  | 'R' => some crlf
  | 'x' => some verbose
  | _ => none

/-- Flags up to a colon or a closing parenthesis. A hyphen, at most one and not the last character,
turns the flags after it off. No flag occurs twice. -/
def flags : (on : Bool) → (change : FlagChange) → List Char → Option (FlagChange × List Char)
  | _, _, [] => none
  | on, change, c :: rest =>
    if c = ':' || c = ')' then some (change.reverse, c :: rest)
    else if c = '-' then
      match rest with
      | ':' :: _ | ')' :: _ => none
      | _ => if on then flags false change rest else none
    else
      match Flag.ofChar? c with
      | some f => if change.any (·.1 = f) then none else flags on ((f, on) :: change) rest
      | none => none

/-- Names of groups begin with a letter or an underscore. -/
def isName (name : List Char) : Bool :=
  match name with
  | [] => false
  | first :: rest =>
    (first = '_' || Unicode.Property.alphabetic.has first) &&
      rest.all fun c =>
        c = '_' || c = '.' || c = '[' || c = ']' || Unicode.Property.alphanumeric.has c

/-- What holds where a reader stands: the verbose flag and the names of groups so far. -/
structure Scope where
  verbose : Bool := false
  names : List (List Char) := []

/-- What an opening parenthesis begins. -/
inductive Opening where
  /-- Flags for the rest of the enclosing group. -/
  | change (change : FlagChange)
  /-- A group, with flags for its inside. -/
  | group (change : FlagChange)

/-- The name of a group up to its closing angle bracket, and a new one. -/
def groupName (scope : Scope) (cs : List Char) : Option (Opening × Scope × List Char) :=
  let name := cs.takeWhile (· ≠ '>')
  match cs.dropWhile (· ≠ '>') with
  | _ :: rest =>
    if isName name && !scope.names.contains name then
      some (.group [], { scope with names := name :: scope.names }, rest)
    else none
  | [] => none

/-- What stands behind an opening parenthesis before the inside of a group. There is no looking
ahead or behind. -/
def opening (scope : Scope) (cs : List Char) : Option (Opening × Scope × List Char) :=
  match skip scope.verbose cs with
  | '?' :: 'P' :: '<' :: rest => groupName scope rest
  | '?' :: '<' :: '=' :: _ | '?' :: '<' :: '!' :: _ => none
  | '?' :: '<' :: rest => groupName scope rest
  | '?' :: rest =>
    match flags true [] rest with
    | some (change, ':' :: rest) => some (.group change, scope, rest)
    | some (change, _ :: rest) =>
      if change.isEmpty then none else some (.change change, scope, rest)
    | _ => none
  | rest => some (.group [], scope, rest)

/-- The scope inside a group, or after flags. -/
def Scope.apply (scope : Scope) (change : FlagChange) : Scope :=
  { scope with verbose := (change.lookup .verbose).getD scope.verbose }

/-! ## Repetition -/

/-- Flags and nothing cannot be repeated. -/
def repeatLast (items : List Ast) (min : Nat) (max : Option Nat) : Option (List Ast) :=
  match items with
  | [] | .empty :: _ | .setFlags _ :: _ => none
  | last :: before => some (.repeated last min max :: before)

/-- A question mark directly behind a repetition makes it lazy, which does not change what is
matched. -/
def dropLazy : List Char → List Char
  | '?' :: rest => rest
  | cs => cs

/-- The bounds of a repetition behind its opening brace. -/
def bounds (verbose : Bool) (cs : List Char) : Option (Nat × Option Nat × List Char) := do
  let close (min : Nat) (max : Option Nat) : List Char → Option (Nat × Option Nat × List Char)
    | '}' :: rest => some (min, max, dropLazy (skip verbose rest))
    | _ => none
  let (min, rest) ← decimal verbose (skip verbose cs)
  match rest with
  | ',' :: rest =>
    match skip verbose rest with
    | '}' :: rest => close min none ('}' :: rest)
    | rest => do
      let (max, rest) ← decimal verbose rest
      if min ≤ max then close min (some max) rest else none
  | rest => close min (some min) rest

/-! ## Whole patterns -/

/-- The inside of a group, or a whole pattern, up to a closing parenthesis or the end. `items` is
the sequence so far and `branches` the alternatives before it, both with the last one first. Each
step takes a character, so the number of characters bounds the steps. -/
def body : (steps : Nat) → Scope → List Char → List Ast → List Ast →
    Option (Ast × Scope × List Char)
  | 0, _, _, _, _ => none
  | steps + 1, scope, cs, items, branches =>
    let finish : Ast := Ast.ofBranches (Ast.ofSequence items.reverse :: branches).reverse
    let add (a : Ast) (rest : List Char) := body steps scope rest (a :: items) branches
    let again (min : Nat) (max : Option Nat) (rest : List Char) := do
      body steps scope rest (← repeatLast items min max) branches
    match skip scope.verbose cs with
    | [] => some (finish, scope, [])
    | ')' :: rest => some (finish, scope, ')' :: rest)
    | '|' :: rest => body steps scope rest [] (Ast.ofSequence items.reverse :: branches)
    | '(' :: rest => do
      let (start, inner, rest) ← opening scope rest
      match start with
      | .change change => body steps (inner.apply change) rest (.setFlags change :: items) branches
      | .group change =>
        let (a, after, rest) ← body steps (inner.apply change) rest [] []
        match rest with
        | _ :: rest =>
          body steps { after with verbose := scope.verbose } rest (.group change a :: items)
            branches
        | [] => none
    | '[' :: rest => do
      let (a, rest) ← bracket scope.verbose rest
      add a rest
    | '?' :: rest => again 0 (some 1) (dropLazy rest)
    | '*' :: rest => again 0 none (dropLazy rest)
    | '+' :: rest => again 1 none (dropLazy rest)
    | '{' :: rest => do
      let (min, max, rest) ← bounds scope.verbose rest
      again min max rest
    | '\\' :: rest => do
      let (a, rest) ← escape scope.verbose rest
      add a.toAst rest
    | '.' :: rest => add .dot rest
    | '^' :: rest => add (.assertion .lineStart) rest
    | '$' :: rest => add (.assertion .lineEnd) rest
    | c :: rest => add (.literal { char := c }) rest

/-- The tree of a pattern that is not nested too deeply. -/
def Ast.ofText? (text : String) : Option Ast :=
  match body (text.toList.length + 1) {} text.toList [] [] with
  | some (a, _, []) => if a.depth .none ≤ depthLimit then some a else none
  | _ => none

end FieldSeal.Pattern
