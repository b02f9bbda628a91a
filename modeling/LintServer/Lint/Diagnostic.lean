import LintServer.Lint.Finding
import LintServer.Text.Position
import LintServer.Uri.Basic

/-!
# Diagnostics

A diagnostic is a finding as an editor is told about it: with positions in place of offsets. Editors
that show related places get each finding once more as its own related place.
-/

namespace LintServer

/-- A place that an editor shows with a diagnostic. -/
structure RelatedPlace where
  uri : Uri
  range : PositionRange
  message : String
deriving Repr, DecidableEq, Inhabited

/-- A finding with positions. -/
structure Diagnostic where
  range : PositionRange
  severity : Severity
  message : String
  related : List RelatedPlace
deriving Repr, DecidableEq, Inhabited

/-- The program that diagnostics say they are from. -/
def Diagnostic.source : String := "code-check"

/-- The diagnostic of a finding in the document `uri`. There is none if the offsets of the finding have
no positions in the text. -/
def Finding.toDiagnostic? (text : List Char) (uri : Uri) (related : Bool) (f : Finding) : Option Diagnostic :=
  (rangeBetween text f.span.start f.span.stop).map fun range =>
    ⟨range, f.severity, f.message, if related then [⟨uri, range, f.message⟩] else []⟩

/-- The diagnostics of a document under a configuration. -/
def Config.diagnostics (c : Config) (limit : Nat) (text : List Char) (uri : Uri) (related : Bool) :
    List Diagnostic :=
  (c.check limit text).filterMap (Finding.toDiagnostic? text uri related)

end LintServer
