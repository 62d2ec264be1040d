/-
# Templates

A template is compiled once and rendered many times.  Compiling splits its text into pieces,
makes a program of them and reads the program; rendering runs it.
-/
import ViewKit.Template.Diagnostic
import ViewKit.Template.Evaluation
import ViewKit.Template.Region
import ViewKit.Text.Quoted

namespace ViewKit

/-- A compiled template. -/
structure Template where
  program : Program
  /-- The text of the program. -/
  source : String
  /-- The name under which the data can be reached as a whole. -/
  variableName : String
  helpers : List (String × Helper)

/-- Why a template does not compile. -/
inductive CompileError where
  | pattern (fault : PatternFault)
  | program (source : String) (diagnostics : List Diagnostic)

namespace CompileError

/-- The message for an error. -/
def message : CompileError → String
  | pattern fault => fault.message
  | program _ diagnostics =>
    "template does not compile (" ++ toString diagnostics.length ++ " syntax error(s))"

end CompileError

namespace Template

/-- Compiles a text. -/
def compile (text : String) (settings : Settings) (helpers : List (String × Helper)) :
    Except CompileError Template :=
  match Delimiters.ofSettings settings with
  | .error fault => .error (.pattern fault)
  | .ok delimiters =>
    let source := delimiters.program text.toList
    match Program.parse source with
    | .error diagnostics => .error (.program (String.ofList source) diagnostics)
    | .ok program =>
      .ok ⟨program, String.ofList source, settings.variableName, Fields.ofList helpers⟩

/-- Renders a template from data, with an owner. -/
def renderWith (t : Template) (data owner : Value) : String :=
  t.program.output ⟨data, owner, t.variableName, t.helpers⟩

/-- Renders a template from data that is also its owner. -/
def render (t : Template) (data : Value) : String := t.renderWith data data

/-- A summary of a template: its variable, the names of its helpers and the number of its
statements. -/
def summary (t : Template) : String :=
  "Template \x7b variable: " ++ Text.quoted t.variableName ++ ", helpers: [" ++
    Text.join ", " (t.helpers.map fun (name, _) => Text.quoted name) ++ "], statements: " ++
    toString t.program.length ++ ", .. \x7d"

end Template
end ViewKit
