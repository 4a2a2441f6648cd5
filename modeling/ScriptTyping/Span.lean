/-!
# Positions and spans

Every node of a program tree carries the stretch of source text it was read from.  The checker
never computes with these places: it copies them into what it reports, and a message names the
line on which the span of its subject starts.
-/

namespace ScriptTyping

/-- A place in a source text. Lines and columns are machine words, and nothing is added to them. -/
structure Position where
  line : UInt64
  col : UInt64
deriving DecidableEq

namespace Position

/-- The first place of a text. It stands in wherever a written tree leaves a position out. -/
def origin : Position := ⟨1, 1⟩

instance : Inhabited Position := ⟨origin⟩

/-- Positions are ordered by line and, on one line, by column. -/
protected def compare (a b : Position) : Ordering :=
  (Ord.compare a.line b.line).then (Ord.compare a.col b.col)

instance : Ord Position := ⟨Position.compare⟩

/-- A position reads as its line and its column, divided by a colon. -/
def text (p : Position) : String :=
  p.line.toNat.repr ++ ":" ++ p.col.toNat.repr

end Position

/-- A stretch of source text, both ends included. The ends need not be in order. -/
structure Span where
  start : Position
  stop : Position
deriving DecidableEq

namespace Span

/-- The span of a node that a written tree gives no place to. -/
def origin : Span := ⟨.origin, .origin⟩

instance : Inhabited Span := ⟨origin⟩

/-- The span of a front end that tracks lines only. -/
def ofLine (line : UInt64) : Span := ⟨⟨line, 1⟩, ⟨line, 1⟩⟩

/-- The line a report about this span is attributed to. -/
def line (s : Span) : UInt64 := s.start.line

/-- A span reads as its two ends, or as one position if the ends are equal. -/
def text (s : Span) : String :=
  if s.start = s.stop then s.start.text else s.start.text ++ "-" ++ s.stop.text

end Span

/-- A value together with the place it was read from. -/
structure Spanned (α : Type) where
  value : α
  span : Span
deriving DecidableEq

end ScriptTyping
