/-!
# Patterns

A pattern describes texts in the notation of regular expressions.  This module holds patterns as they
are written: atoms, which stand for single characters or for places between them, and what is built
from atoms by repetition, grouping, sequence and choice.

Inside a pattern, flags can be switched on and off for the rest of a group or for a group of its own.
What an atom stands for depends on the flags; see `ScriptTyping.Pattern.Fault`.
-/

namespace ScriptTyping

namespace Pattern

/-- A way of reading a pattern that can be switched on and off. -/
inductive Flag where
  /-- Upper and lower case are the same. -/
  | ignoreCase
  /-- Lines have edges of their own. -/
  | multiLine
  /-- A point stands for a line feed too. -/
  | dotAll
  /-- Repetitions are short where they would be long, and the other way round. -/
  | swapGreed
  /-- Characters are those of Unicode, and single bytes otherwise. -/
  | unicode
  /-- A carriage return ends a line too. -/
  | carriageReturn
  /-- White space and comments do not count. -/
  | spaced
deriving DecidableEq

/-- The flag that a letter stands for. -/
def Flag.ofLetter? : Char → Option Flag
  | 'i' => some .ignoreCase
  | 'm' => some .multiLine
  | 's' => some .dotAll
  | 'U' => some .swapGreed
  | 'u' => some .unicode
  | 'R' => some .carriageReturn
  | 'x' => some .spaced
  | _ => none

/-- Flags that are switched on or off, each at most once. -/
abbrev FlagChanges := List (Flag × Bool)

/-- A character that stands for itself. -/
structure Literal where
  char : Char
  /-- Whether it is written by two hexadecimal digits, and so may also be a byte. -/
  isByte : Bool := false
deriving DecidableEq

/-- A set of characters in brackets, or a part of one. -/
inductive CharSet where
  /-- What stands where nothing is written. -/
  | nothing
  | single (l : Literal)
  | range (first last : Literal)
  /-- A class of ASCII characters by its name, such as `[:alpha:]`. -/
  | ascii (negated : Bool)
  /-- The digits, the white space or the characters of words. -/
  | kind (negated : Bool)
  | bracketed (negated : Bool) (s : CharSet)
  /-- At least two parts in a row. -/
  | union (parts : List CharSet)
  /-- An intersection or a difference. -/
  | combined (left right : CharSet)

/-- A part of a pattern that has no patterns in it. -/
inductive Atom where
  | literal (l : Literal)
  /-- Any character. -/
  | dot
  /-- An edge of a line or of the text. -/
  | edge
  /-- An edge of a word, or a place that is none. -/
  | wordEdge
  /-- The digits, the white space or the characters of words. -/
  | kind (negated : Bool)
  | set (s : CharSet)

end Pattern

/-- A pattern. -/
inductive Pattern where
  | empty
  | atom (a : Pattern.Atom)
  /-- Flags that change for the rest of the group. -/
  | flags (changes : Pattern.FlagChanges)
  | repeated (p : Pattern)
  /-- A group in parentheses, with flags that change within it. -/
  | group (changes : Pattern.FlagChanges) (p : Pattern)
  /-- At least two patterns in a row. -/
  | sequence (ps : List Pattern)
  /-- At least two patterns to choose from. -/
  | choice (ps : List Pattern)

namespace Pattern

/-- Parts of a set in a row. -/
def CharSet.ofParts : List CharSet → CharSet
  | [] => .nothing
  | [s] => s
  | parts => .union parts

/-- Patterns in a row. -/
def ofSequence : List Pattern → Pattern
  | [] => .empty
  | [p] => p
  | ps => .sequence ps

/-- Patterns to choose from. -/
def ofChoice : List Pattern → Pattern
  | [] => .empty
  | [p] => p
  | ps => .choice ps

/-! ## Nesting -/

mutual

/-- How deep a set is nested. -/
def CharSet.depth : CharSet → Nat
  | .bracketed _ s => s.depth + 1
  | .union parts => CharSet.depthOfAll parts + 1
  | .combined left right => max left.depth right.depth + 1
  | .nothing | .single _ | .range _ _ | .ascii _ | .kind _ => 0

/-- How deep the deepest of some sets is nested. -/
def CharSet.depthOfAll : List CharSet → Nat
  | [] => 0
  | s :: rest => max s.depth (CharSet.depthOfAll rest)

end

/-- How deep an atom is nested. -/
def Atom.depth : Atom → Nat
  | .set s => s.depth
  | _ => 0

mutual

/-- How deep a pattern is nested. -/
def depth : Pattern → Nat
  | .empty => 0
  | .atom a => a.depth
  | .flags _ => 0
  | .repeated p => p.depth + 1
  | .group _ p => p.depth + 1
  | .sequence ps => depthOfAll ps + 1
  | .choice ps => depthOfAll ps + 1

/-- How deep the deepest of some patterns is nested. -/
def depthOfAll : List Pattern → Nat
  | [] => 0
  | p :: rest => max p.depth (depthOfAll rest)

end

end Pattern

end ScriptTyping
