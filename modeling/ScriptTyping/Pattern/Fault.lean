import ScriptTyping.Pattern.Parser

/-!
# What is wrong with a pattern

Patterns are run by automata that read bytes, on texts that are UTF-8.  So not every pattern that can
be written can be run:

* with characters of Unicode, the tables for the case of letters and for the kinds of characters are
  not at hand;
* with single bytes, what could stop within a character is refused, such as any byte, or every byte
  but some;
* with characters of Unicode, the edges of words are beyond automata.

Patterns that are nested too deep are refused as well.
-/

namespace ScriptTyping.Pattern

/-- The flags that an atom depends on. -/
structure Mode where
  ignoreCase : Bool := false
  unicode : Bool := true
deriving DecidableEq

/-- The mode after flags have changed. -/
def Mode.change (m : Mode) (changes : FlagChanges) : Mode where
  ignoreCase := (changes.lookup .ignoreCase).getD m.ignoreCase
  unicode := (changes.lookup .unicode).getD m.unicode

/-- Whether a character can be in a set. -/
def Literal.fitsSet (m : Mode) (l : Literal) : Bool :=
  if m.unicode then !m.ignoreCase else l.char.toNat < 0x80

/-- Whether the digits, the white space or the characters of words can be had, or all others. -/
def fitsKind (m : Mode) (negated : Bool) : Bool := !m.unicode && !negated

mutual

/-- Whether a set can be run. -/
def CharSet.fits (m : Mode) : CharSet → Bool
  | .nothing => true
  | .single l => l.fitsSet m
  | .range first last => first.fitsSet m && last.fitsSet m
  | .ascii negated => if m.unicode then !m.ignoreCase else !negated
  | .kind negated => fitsKind m negated
  | .bracketed negated s => s.fits m && (m.unicode || !negated)
  | .union parts => CharSet.allFit m parts
  | .combined left right => left.fits m && right.fits m

/-- Whether all of some sets can be run. -/
def CharSet.allFit (m : Mode) : List CharSet → Bool
  | [] => true
  | s :: rest => s.fits m && CharSet.allFit m rest

end

/-- Whether an atom can be run, edges of words apart. -/
def Atom.fits (m : Mode) : Atom → Bool
  | .literal l => if m.unicode then !m.ignoreCase else !l.isByte || l.char.toNat < 0x80
  | .dot => m.unicode
  | .edge | .wordEdge => true
  | .kind negated => fitsKind m negated
  | .set s => s.fits m

/-- Whether an atom is an edge of words of Unicode. -/
def Atom.isUnicodeEdge (m : Mode) : Atom → Bool
  | .wordEdge => m.unicode
  | _ => false

mutual

/-- The atoms of a pattern, each in its mode, and the mode after the pattern. -/
def atoms (m : Mode) : Pattern → List (Mode × Atom) × Mode
  | .empty => ([], m)
  | .atom a => ([(m, a)], m)
  | .flags changes => ([], m.change changes)
  | .repeated p => p.atoms m
  | .group changes p => ((p.atoms (m.change changes)).1, m)
  | .sequence ps => atomsOfAll m ps
  | .choice ps => atomsOfAll m ps

/-- The atoms of patterns one after another, and the mode after them. -/
def atomsOfAll (m : Mode) : List Pattern → List (Mode × Atom) × Mode
  | [] => ([], m)
  | p :: rest =>
    let first := p.atoms m
    let others := atomsOfAll first.2 rest
    (first.1 ++ others.1, others.2)

end

/-- Why a text is no pattern that can be run. -/
inductive Fault where
  /-- It is no pattern, or one that no automaton can be built for. -/
  | unbuildable
  /-- It asks for edges of words. -/
  | wordEdge
deriving DecidableEq

/-- The text of a fault. -/
def Fault.message : Fault → String
  | unbuildable => "error building NFA"
  | wordEdge =>
    "unsupported regex feature for DFAs: cannot build DFAs for regexes with Unicode word boundaries; "
      ++ "switch to ASCII word boundaries, or heuristically enable Unicode word boundaries or use a "
      ++ "different regex engine"

/-- How deep a pattern may be nested. -/
def maxDepth : Nat := 250

/-- What is wrong with a text as a pattern. -/
def fault? (s : String) : Option Fault :=
  match parse? s with
  | none => some .unbuildable
  | some p =>
    let atoms := (p.atoms {}).1
    if p.depth > maxDepth || !atoms.all fun a => a.2.fits a.1 then some .unbuildable
    else if atoms.any fun a => a.2.isUnicodeEdge a.1 then some .wordEdge
    else none

end ScriptTyping.Pattern
