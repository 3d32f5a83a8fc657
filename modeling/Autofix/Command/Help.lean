import Autofix.Command.Arguments

/-!
# Help texts

What a command does, how it is called, and tables of its commands, operands and flags.
-/

namespace Autofix.Command

/-- A table under a title: labels on the left, all of one width, and what they mean. An empty one is
    left out. -/
def table (title : String) (rows : List (String × String)) : String :=
  let width := (rows.map fun row => row.1.length).foldl max 0
  if rows = [] then ""
  else s!"\n{title}:\n" ++ String.join (rows.map fun (label, meaning) =>
    s!"  {Report.alignLeft width label}  {meaning}\n")

/-- How a flag is written. -/
def Flag.label (f : Flag) : String :=
  let short := match f.short with
    | some c => s!"-{c}, "
    | none => "    "
  let value := match f.value with
    | some v => s!" <{v.name}>"
    | none => ""
  s!"{short}--{f.long}{value}"

/-- The rows for the flags of a command and for those that every command has. -/
def Grammar.flagRows (g : Grammar) : List (String × String) :=
  (g.flags.map fun f => (f.label, f.help)) ++ [("-h, --help", "Print help")]
    ++ if g.version then [("-V, --version", "Print version")] else []

/-- The page of a command. -/
def helpPage (about usage : String) (tables : List (String × List (String × String))) : String :=
  s!"{about}\n\nUsage: {usage}\n" ++ String.join (tables.map fun (title, rows) => table title rows)

end Autofix.Command
