import ScriptTyping.Pattern.Escape

/-!
# Sets of characters in patterns

A set in brackets lists characters, ranges, classes and other sets.  Doubled signs combine what stands
on their sides: `&&` is for what is on both, `--` and `~~` are for differences.  After the opening
bracket and the caret of a negation, hyphens stand for themselves, and so does a closing bracket that
comes first.
-/

namespace ScriptTyping.Pattern

/-- The names of the classes of ASCII characters. -/
def asciiNames : List String := [
  "alnum", "alpha", "ascii", "blank", "cntrl", "digit", "graph", "lower", "print", "punct", "space",
  "upper", "word", "xdigit"]

/-- Reads a class of ASCII characters, behind its opening bracket. -/
def asciiClass? : List Char → Option (CharSet × List Char)
  | ':' :: rest =>
    let negated := rest.head? == some '^'
    let rest := if negated then rest.drop 1 else rest
    match rest.dropWhile (· != ':') with
    | ':' :: ']' :: rest' =>
      if asciiNames.contains (String.ofList (rest.takeWhile (· != ':'))) then
        some (.ascii negated, rest')
      else none
    | _ => none
  | _ => none

/-- Reads a character, a class or a place, where it stands in a set. -/
def setAtom? (spaced : Bool) : List Char → Option (Atom × List Char)
  | [] => none
  | '\\' :: rest => escape? spaced rest
  | c :: rest => some (.literal ⟨c, false⟩, rest)

/-- What an atom stands for alone in a set. -/
def Atom.toSet? : Atom → Option CharSet
  | .literal l => some (.single l)
  | .kind negated => some (.kind negated)
  | .set s => some s
  | .dot | .edge | .wordEdge => none

/-- The range between two atoms, which have to be characters in order. -/
def range? : Atom → Atom → Option CharSet
  | .literal a, .literal b => if a.char ≤ b.char then some (.range a b) else none
  | _, _ => none

/-- The character that follows a hyphen. Where white space does not count, the first sign of a comment
does not count either, but what stands in the comment does. -/
def behindHyphen? (spaced : Bool) (cs : List Char) : Option Char :=
  if spaced then
    match cs.dropWhile Text.isSpace with
    | '#' :: rest => (rest.dropWhile Text.isSpace).head?.or cs.head?
    | rest => rest.head?.or cs.head?
  else cs.head?

/-- Reads an atom of a set or a range. -/
def setPart? (spaced : Bool) (cs : List Char) : Option (CharSet × List Char) := do
  let (a, rest) ← setAtom? spaced cs
  match skip spaced rest with
  | '-' :: more =>
    let behind := behindHyphen? spaced more
    if behind == some ']' || behind == some '-' then return (← a.toSet?, '-' :: more)
    else
      let (b, rest) ← setAtom? spaced (skip spaced more)
      return (← range? a b, rest)
  | rest => return (← a.toSet?, rest)

/-- Passes over hyphens and counts them. -/
def hyphens (spaced : Bool) : Nat → List Char → Nat × List Char
  | n + 1, '-' :: rest =>
    let (count, rest) := hyphens spaced n (skip spaced rest)
    (count + 1, rest)
  | _, cs => (0, cs)

/-- Reads the beginning of a set, behind its opening bracket: whether it is negated, and the parts that
stand for themselves only here. -/
def setOpening (spaced : Bool) (cs : List Char) : Bool × List CharSet × List Char :=
  let cs := skip spaced cs
  let negated := cs.head? == some '^'
  let cs := if negated then skip spaced (cs.drop 1) else cs
  let (count, cs) := hyphens spaced cs.length cs
  match count, cs with
  | 0, ']' :: rest => (negated, [.single ⟨']', false⟩], skip spaced rest)
  | count, cs => (negated, List.replicate count (.single ⟨'-', false⟩), cs)

/-- Combines the parts behind a doubled sign with what stands before it. -/
def combine (left : Option CharSet) (parts : List CharSet) : CharSet :=
  match left with
  | none => CharSet.ofParts parts
  | some left => .combined left (CharSet.ofParts parts)

mutual

/-- Reads a set, behind its opening bracket. -/
def readSet (spaced : Bool) : Nat → List Char → Option (CharSet × List Char)
  | 0, _ => none
  | n + 1, cs =>
    let (negated, parts, cs) := setOpening spaced cs
    (readParts spaced n none parts cs).map fun r => (.bracketed negated r.1, r.2)

/-- Reads the rest of a set, after what stands before the last doubled sign and the parts since
then. -/
def readParts (spaced : Bool) :
    Nat → Option CharSet → List CharSet → List Char → Option (CharSet × List Char)
  | 0, _, _, _ => none
  | n + 1, left, parts, cs =>
    match skip spaced cs with
    | [] => none
    | ']' :: rest => some (combine left parts, rest)
    | '[' :: rest =>
      match (asciiClass? rest).or (readSet spaced n rest) with
      | none => none
      | some (s, rest) => readParts spaced n left (parts ++ [s]) rest
    | '&' :: '&' :: rest => readParts spaced n (some (combine left parts)) [] rest
    | '-' :: '-' :: rest => readParts spaced n (some (combine left parts)) [] rest
    | '~' :: '~' :: rest => readParts spaced n (some (combine left parts)) [] rest
    | cs =>
      match setPart? spaced cs with
      | none => none
      | some (s, rest) => readParts spaced n left (parts ++ [s]) rest

end

/-- Reads a set, behind its opening bracket. Each character pays for two steps. -/
def set? (spaced : Bool) (cs : List Char) : Option (Atom × List Char) :=
  (readSet spaced (2 * cs.length + 2) cs).map fun r => (.set r.1, r.2)

end ScriptTyping.Pattern
