import ScriptTyping.Datum.Diagnostic
import ScriptTyping.Json.Source
import ScriptTyping.Main
import ScriptTyping.Proofs.CommandLine.Agreement
import ScriptTyping.Proofs.CommandLine.NamedLines
import ScriptTyping.Proofs.CommandLine.Phases
import ScriptTyping.Proofs.Diagnostic.Drafts
import ScriptTyping.Proofs.Diagnostic.Listening
import ScriptTyping.Proofs.Diagnostic.Precedence
import ScriptTyping.Proofs.Json.RoundTrip
import ScriptTyping.Proofs.Reading.Representation
import ScriptTyping.Proofs.Reading.Tables
import ScriptTyping.Proofs.Ron.Dumps
import ScriptTyping.Proofs.Ron.Layout
import ScriptTyping.Proofs.Ron.Lexemes
import ScriptTyping.Proofs.Ron.RoundTrip
import ScriptTyping.Proofs.Ron.Spelling
import ScriptTyping.Proofs.Symbols
import ScriptTyping.Proofs.Symbols.Calls
import ScriptTyping.Proofs.Tree.Tokens
import ScriptTyping.Proofs.Typing.Acceptance
import ScriptTyping.Proofs.Typing.Composition
import ScriptTyping.Proofs.Typing.FirstWrite
import ScriptTyping.Proofs.Typing.Flattening
import ScriptTyping.Proofs.Typing.Independence
import ScriptTyping.Proofs.Typing.Justification
import ScriptTyping.Proofs.Typing.Mirroring
import ScriptTyping.Proofs.Typing.Provenance
import ScriptTyping.Proofs.Typing.Recovery
import ScriptTyping.Proofs.Typing.Renaming
import ScriptTyping.Proofs.Typing.Repetition
import ScriptTyping.Proofs.Typing.Rules
import ScriptTyping.Proofs.Typing.Sites
import ScriptTyping.Proofs.Typing.Skeleton
import ScriptTyping.Proofs.Typing.Spine
import ScriptTyping.Proofs.Typing.Strictness
