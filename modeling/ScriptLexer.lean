import ScriptLexer.Main
import ScriptLexer.Proofs.Blanks
import ScriptLexer.Proofs.Columns
import ScriptLexer.Proofs.Delimited
import ScriptLexer.Proofs.Difference
import ScriptLexer.Proofs.Directory
import ScriptLexer.Proofs.Ending
import ScriptLexer.Proofs.Layout
import ScriptLexer.Proofs.Linewise
import ScriptLexer.Proofs.Listing
import ScriptLexer.Proofs.Plain
import ScriptLexer.Proofs.Rendering
import ScriptLexer.Proofs.RoundTrip
import ScriptLexer.Proofs.Traced
import ScriptLexer.Proofs.Unambiguous
