import LayoutCipher.Failure.Basic

/-!
# Reports of failures

A report wraps a failure, or an error of another kind, in contexts that say what was going on.
It is shown as a heading and, if the user asked for more, the layers below the outermost one.
The heading and the exit status look through the contexts; the layers do not.
-/

namespace LayoutCipher

/-- An error that the registry does not know, with the chain of errors that led to it, outermost
first. -/
structure Report.ForeignError where
  text : String
  sources : List String
  deriving DecidableEq, Repr

/-- A text alone stands for an error that no other led to. -/
instance : Coe String Report.ForeignError :=
  ⟨fun text => ⟨text, []⟩⟩

/-- What a report is about. -/
inductive Report.Root where
  | registered (failure : Failure)
  | foreign (error : Report.ForeignError)
  deriving DecidableEq, Repr

/-- An error with the contexts added to it, the first one added first. -/
structure Report where
  root : Report.Root
  contexts : List String
  deriving DecidableEq, Repr

namespace Report

def ofFailure (failure : Failure) : Report :=
  ⟨.registered failure, []⟩

/-- The texts of the wrapped error and of what led to it. -/
def Root.layers : Root → List String
  | .registered failure => failure.display :: failure.sources
  | .foreign error => error.text :: error.sources

/-- The texts of all layers, outermost first. -/
def layers (report : Report) : List String :=
  report.contexts.reverse ++ report.root.layers

def display (report : Report) : String :=
  match report.layers with
  | outermost :: _ => outermost
  | [] => ""

/-- The lines that are shown at any verbosity. -/
def heading (report : Report) : List String :=
  match report.root with
  | .registered failure =>
      ["Error: " ++ failure.userMessage,
        "  " ++ Failure.codeTag failure.code ++ " " ++ Failure.describeCode failure.code]
  | .foreign _ => ["Error: " ++ report.display]

/-- The lines on the layers below the outermost one, if there are any. -/
def causes (report : Report) : List String :=
  match report.layers.tail with
  | [] => []
  | below => "Caused by:" :: below.map ("  " ++ ·)

/-- The text of a report; a verbosity of at least 1 adds the causes. -/
def render (report : Report) (verbosity : Nat) : String :=
  "\n".intercalate (report.heading ++ if verbosity = 0 then [] else report.causes)

def exitStatus (report : Report) : Nat :=
  match report.root with
  | .registered failure => failure.exitStatus
  | .foreign _ => 1

end Report

end LayoutCipher
