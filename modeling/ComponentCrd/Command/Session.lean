import ComponentCrd.Command.Arguments

/-! A whole run of the command against a tree of files: what it prints, how it exits, and the tree
it leaves behind.
-/

namespace ComponentCrd.Command

/-- What a run finds: the files, the current directory, the working directory of the shell, and
the servers.
-/
structure Surroundings where
  tree : Source.FileTree
  current : List String
  shellDirectory? : Option String
  fetch : Source.Url → Except Source.TransportFault Source.Answer

/-- What a run leaves behind. -/
structure Outcome where
  exitCode : Nat
  stdout : String
  stderr : String
  tree : Source.FileTree

namespace Surroundings

/-- Where inputs come from. -/
def world (found : Surroundings) : Source.World :=
  ⟨found.tree.read found.current, found.fetch⟩

/-- Writes a text to a file, with what that gives reported. -/
def write (found : Surroundings) (target text : String) : Source.FileTree × Reported Unit :=
  match found.tree.write found.current target (Text.toUtf8 text) with
  | .ok tree => (tree, written target (.ok ()))
  | .error fault => (found.tree, written target (.error fault))

/-- Renders the definition and, if the configuration names a file for it, writes it there: the
work with the text of the definition, and the tree that is left.
-/
def render (found : Surroundings) (settings : Source.Settings) (config : Config) :
    Reported String × Source.FileTree :=
  let work := Command.render found.world settings config
  match work.result, config.output? with
  | .ok yaml, some target =>
      let (tree, writing) := found.write target yaml
      (work.andThen fun yaml => writing.andThen fun _ => pure yaml, tree)
  | _, _ => (work, found.tree)

/-- A run with a command line. A command line that is wrong is reported in one line. -/
def run (found : Surroundings) (arguments : List String) : Outcome :=
  match Request.ofArguments arguments with
  | .ok .help => ⟨0, helpText, "", found.tree⟩
  | .ok (.run config verbose) =>
      let (work, tree) := found.render { workingDirectory? := found.shellDirectory? } config
      let stdout := if config.output?.isSome then "" else work.result.toOption.getD ""
      ⟨work.exitCode, stdout, work.transcript verbose, tree⟩
  | .error error =>
      let error := RunError.usage error.message
      ⟨error.exitCode, "", error.report.text false, found.tree⟩

end Surroundings

end ComponentCrd.Command
