import ScriptTyping.CommandLine.Directive
import ScriptTyping.Text.Quoted

/-!
# The log of a run

A run writes lines about what it does to a log, each of some verbosity and from some part of the
program, its target.  A `Filter` selects the lines that are wanted.  It is a list of directives.

* A directive that asks for no stretch and no value of a field is general.  For each line the most
  specific general directive decides: the one with the longest target, and of those one with a field.
  Of two that are equally specific the later one decides, and where none applies nothing is wanted.
* A directive that asks for a stretch or a field is scoped.  Where it applies to a stretch of the run,
  it opens that stretch to all lines up to its own verbosity.  Of two that are about the same the
  later one stands.

A stretch of the run heads the lines within it if it is wanted itself.
-/

namespace ScriptTyping.CommandLine

/-- A selection of log lines. -/
structure Filter where
  directives : List Directive
deriving DecidableEq

/-- What a filter looks at in a line. -/
structure Topic where
  target : String
  verbosity : Verbosity
  /-- The names of the line's fields; a message is one of them. -/
  fields : List String
deriving DecidableEq

/-- A stretch of a run, with fields that are numbers. -/
structure Stretch where
  name : String
  target : String
  verbosity : Verbosity
  fields : List (String × Nat)
deriving DecidableEq

namespace Directive

/-- Whether a directive decides about single lines. -/
def isGeneral (d : Directive) : Bool :=
  d.stretch.isNone && !d.field.any fun t => t.value.isSome

/-- Whether a directive opens stretches of a run. -/
def isScoped (d : Directive) : Bool := d.stretch.isSome || d.field.isSome

/-- Whether a directive is about a target. -/
def hasTarget (d : Directive) (target : String) : Bool :=
  d.target.all fun start => target.startsWith start

/-- Whether a directive is about a line. -/
def isAbout (d : Directive) (t : Topic) : Bool :=
  d.hasTarget t.target && d.field.all fun f => t.fields.contains f.name

/-- Whether a directive is about a stretch, whatever the values of its fields are. -/
def covers (d : Directive) (s : Stretch) : Bool :=
  d.hasTarget s.target && d.stretch.all (· == s.name)
    && d.field.all fun f => (s.fields.lookup f.name).isSome

/-- Whether a directive opens a stretch. -/
def opens (d : Directive) (s : Stretch) : Bool :=
  d.covers s && d.field.all fun f => (s.fields.lookup f.name).any f.holdsOf

/-- Whether two directives are about the same, whatever they want of it. -/
def isAlike (d e : Directive) : Bool := { d with rank := e.rank } == e

/-- The directives that no later one about the same replaces. -/
def standing : List Directive → List Directive
  | [] => []
  | d :: rest => if rest.any d.isAlike then standing rest else d :: standing rest

/-- Whether a directive is at most as specific as another. -/
def yieldsTo (d e : Directive) : Bool :=
  let size := fun d : Directive => (d.target.getD "").length
  if size d = size e then
    match d.field, e.field with
    | none, _ => true
    | some _, none => false
    | some f, some g => !decide (g.name < f.name)
  else size d < size e

end Directive

namespace Filter

/-- The filter that lets nothing through. -/
def off : Filter := ⟨[{ rank := 0 }]⟩

/-- The directives in a text, which have commas between them. -/
def parts (s : String) : List String := (s.splitOn ",").filter (· != "")

/-- Reads a filter. What is no directive is left out, and without any directive the filter asks for
information and what is graver. -/
def ofText (s : String) : Filter :=
  match (parts s).filterMap fun part => (Directive.ofText part).toOption with
  | [] => ⟨[{ rank := Verbosity.info.rank }]⟩
  | directives => ⟨directives⟩

/-- The complaint about a part of a text that is no directive. -/
def complaint? (part : String) : Option String :=
  match Directive.ofText part with
  | .ok _ => none
  | .error e => some ("ignoring `" ++ part ++ "`: " ++ e.message)

/-- The complaints about what is left out when a filter is read. -/
def complaints (s : String) : List String := (parts s).filterMap complaint?

/-- The more specific of two directives, or else the later one. -/
def prefer (best : Option Directive) (d : Directive) : Option Directive :=
  match best with
  | none => some d
  | some b => if b.yieldsTo d then some d else some b

/-- The rank up to which the most specific of the given directives wants lines. -/
def decidingRank (ds : List Directive) : Nat :=
  ((ds.foldl prefer none).map (·.rank)).getD 0

/-- Whether a line is wanted, wherever in the run it is written. -/
def wants (f : Filter) (t : Topic) : Bool :=
  t.verbosity.rank ≤
    decidingRank (f.directives.filter fun d => d.isGeneral && d.isAbout t)

/-- The rank of the most verbose lines that can be wanted at all. A directive that asks for a value
needs every stretch to look at. -/
def limit (f : Filter) : Nat :=
  if f.directives.any fun d => d.field.any fun t => t.value.isSome then Verbosity.trace.rank
  else f.directives.foldl (fun n d => max n d.rank) 0

/-- Whether a stretch is wanted. -/
def wantsStretch (f : Filter) (s : Stretch) : Bool :=
  s.verbosity.rank ≤ f.limit &&
    (f.directives.any (fun d => d.isScoped && d.covers s) ||
      s.verbosity.rank ≤
        decidingRank (f.directives.filter fun d => d.isGeneral && d.hasTarget s.target))

/-- The rank up to which a stretch is open. -/
def openRank (f : Filter) (s : Stretch) : Nat :=
  if f.wantsStretch s then
    ((Directive.standing f.directives).filter fun d => d.isScoped && d.opens s).foldl
      (fun n d => max n d.rank) 0
  else 0

/-- Whether a line within a stretch is wanted. -/
def wantsWithin (f : Filter) (s : Stretch) (t : Topic) : Bool :=
  f.wants t || t.verbosity.rank ≤ f.openRank s

end Filter

/-! ## Lines -/

/-- A verbosity as it heads a line, five columns wide. -/
def verbosityColumn (v : Verbosity) : String :=
  String.ofList (List.replicate (5 - v.label.length) ' ') ++ v.label

/-- The field of a line. -/
def fieldText : String × FieldValue → String
  | (name, .plain s) => name ++ "=" ++ s
  | (name, .quoted s) => name ++ "=" ++ Text.quoted s

/-- The text that a stretch heads its lines with. -/
def Stretch.text (s : Stretch) : String :=
  s.name ++ "\x7b" ++ " ".intercalate (s.fields.map fun f => f.1 ++ "=" ++ f.2.repr) ++ "\x7d"

/-- Something that is written to the log in one line. -/
structure LogEntry where
  target : String
  verbosity : Verbosity
  message : Option String
  fields : List (String × FieldValue)

namespace LogEntry

/-- What a filter looks at in an entry. -/
def topic (e : LogEntry) : Topic :=
  ⟨e.target, e.verbosity, (e.message.map fun _ => "message").toList ++ e.fields.map Prod.fst⟩

/-- The line of an entry: its verbosity, the stretch of the run that heads it, its target, and then
the message and the fields with blanks between them. -/
def line (e : LogEntry) (stretch : Option Stretch) : String :=
  verbosityColumn e.verbosity ++ " " ++ ((stretch.map (·.text ++ ": ")).getD "") ++ e.target ++ ": "
    ++ " ".intercalate (e.message.toList ++ e.fields.map fieldText)

/-- The line of an entry outside of all stretches, if it is wanted. -/
def line? (e : LogEntry) (f : Filter) : Option String :=
  if f.wants e.topic then some (e.line none) else none

/-- The line of an entry within a stretch, if it is wanted. -/
def lineWithin? (e : LogEntry) (f : Filter) (s : Stretch) : Option String :=
  if f.wantsWithin s e.topic then some (e.line (if f.wantsStretch s then some s else none))
  else none

end LogEntry

end ScriptTyping.CommandLine
