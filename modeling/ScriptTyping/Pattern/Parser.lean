import ScriptTyping.Pattern.Set

/-!
# Reading patterns

A group in parentheses may begin with a question mark and then a name in angle brackets, or flags.
Flags that a closing parenthesis follows change for the rest of the group around them.  Names of groups
are different from each other.

A pattern stands in braces where it is used, and ends at the first closing brace.  So a repetition that
is counted, which is written with braces, is never complete, and an opening brace is refused unless a
backslash takes its meaning away.
-/

namespace ScriptTyping.Pattern

/-- How a group begins. -/
inductive Opening where
  /-- Nothing but flags, which change for the rest of the group around. -/
  | flags (changes : FlagChanges)
  | group (name : Option String) (changes : FlagChanges)

/-- The flags that letters switch on, or off behind a hyphen. -/
def flagChanges? (cs : List Char) : Option FlagChanges := do
  let switch := fun (on : Bool) (c : Char) => (Flag.ofLetter? c).map fun f => (f, on)
  let ons ← (cs.takeWhile (· != '-')).mapM (switch true)
  let changes ← match cs.dropWhile (· != '-') with
    | [] => some ons
    | [_] => none
    | _ :: rest => (rest.mapM (switch false)).map (ons ++ ·)
  if (changes.map Prod.fst).Nodup then some changes else none

/-- Whether a text can be the name of a group. -/
def isGroupName : List Char → Bool
  | [] => false
  | c :: rest =>
    (c == '_' || Text.isAlphabetic c)
      && rest.all fun c => "_.[]".contains c || Text.isAlphanumeric c

/-- Reads the name of a group, behind its opening angle bracket. -/
def groupName? (cs : List Char) : Option (Opening × List Char) :=
  match cs.dropWhile (· != '>') with
  | [] => none
  | _ :: rest =>
    let name := cs.takeWhile (· != '>')
    if isGroupName name then some (.group (some (String.ofList name)) [], rest) else none

/-- Reads flags, behind the question mark. -/
def flagOpening? (cs : List Char) : Option (Opening × List Char) := do
  let isEnd := fun c : Char => c == ':' || c == ')'
  let changes ← flagChanges? (cs.takeWhile (!isEnd ·))
  match cs.dropWhile (!isEnd ·) with
  | ':' :: rest => return (.group none changes, rest)
  | _ :: rest => if changes.isEmpty then none else return (.flags changes, rest)
  | [] => none

/-- Reads how a group begins, behind its opening parenthesis. A look to either side, which has an
exclamation mark or an equals sign, begins neither a name nor flags. -/
def opening? (spaced : Bool) (cs : List Char) : Option (Opening × List Char) :=
  match skip spaced cs with
  | '?' :: 'P' :: '<' :: rest => groupName? rest
  | '?' :: '<' :: rest => groupName? rest
  | '?' :: rest => flagOpening? rest
  | rest => some (.group none [], rest)

/-- What the reader of a group keeps. -/
structure Progress where
  /-- Whether white space does not count. -/
  spaced : Bool := false
  /-- The names of groups so far. -/
  names : List String := []
  /-- The patterns to choose from so far. -/
  choices : List Pattern := []
  /-- The patterns in a row since the last of them. -/
  items : List Pattern := []

namespace Progress

/-- Adds a pattern to those in a row. -/
def add (g : Progress) (p : Pattern) : Progress := { g with items := g.items ++ [p] }

/-- Begins the next of the patterns to choose from. -/
def next (g : Progress) : Progress :=
  { g with choices := g.choices ++ [ofSequence g.items], items := [] }

/-- The pattern that has been read. -/
def pattern (g : Progress) : Pattern := ofChoice (g.choices ++ [ofSequence g.items])

/-- Whether white space does not count once flags have changed. -/
def spacedAfter (g : Progress) (changes : FlagChanges) : Bool :=
  (changes.lookup .spaced).getD g.spaced

/-- Changes flags for the rest of the group. -/
def switch (g : Progress) (changes : FlagChanges) : Progress :=
  { g.add (.flags changes) with spaced := g.spacedAfter changes }

/-- Repeats the last pattern, if it is one that can be repeated. -/
def repeatLast? (g : Progress) : Option Progress :=
  match g.items.getLast? with
  | none => none
  | some (.flags _) => none
  | some p => some { g with items := g.items.dropLast ++ [.repeated p] }

/-- Notes the name of a group, if it is a new one. -/
def note? (g : Progress) : Option String → Option Progress
  | none => some g
  | some name => if g.names.contains name then none else some { g with names := name :: g.names }

end Progress

/-- Reads an atom. -/
def atom? (spaced : Bool) : List Char → Option (Atom × List Char)
  | [] => none
  | '[' :: rest => set? spaced rest
  | '\\' :: rest => escape? spaced rest
  | '\x7b' :: _ => none
  | '.' :: rest => some (.dot, rest)
  | '^' :: rest => some (.edge, rest)
  | '$' :: rest => some (.edge, rest)
  | c :: rest => some (.literal ⟨c, false⟩, rest)

/-- Reads the rest of a group up to its closing parenthesis or to the end of the text. -/
def readGroup : Nat → Progress → List Char → Option (Progress × List Char)
  | 0, _, _ => none
  | n + 1, g, cs =>
    match skip g.spaced cs with
    | [] => some (g, [])
    | ')' :: rest => some (g, ')' :: rest)
    | '|' :: rest => readGroup n g.next rest
    | '(' :: rest =>
      match opening? g.spaced rest with
      | none => none
      | some (.flags changes, rest) => readGroup n (g.switch changes) rest
      | some (.group name changes, rest) =>
        match g.note? name with
        | none => none
        | some g =>
          match readGroup n { spaced := g.spacedAfter changes, names := g.names } rest with
          | some (inner, ')' :: rest) =>
            readGroup n { g.add (.group changes inner.pattern) with names := inner.names } rest
          | _ => none
    | c :: rest =>
      if c = '?' ∨ c = '*' ∨ c = '+' then
        match g.repeatLast? with
        | none => none
        | some g => readGroup n g (if rest.head? = some '?' then rest.drop 1 else rest)
      else
        match atom? g.spaced (c :: rest) with
        | none => none
        | some (a, rest) => readGroup n (g.add (.atom a)) rest

/-- Reads a pattern. Each character pays for a step. -/
def parse? (s : String) : Option Pattern :=
  match readGroup (s.length + 1) {} s.toList with
  | some (g, []) => some g.pattern
  | _ => none

end ScriptTyping.Pattern
