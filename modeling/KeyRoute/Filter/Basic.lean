-- Log filters: directives separated by commas. The ones that concern log lines alone form a
-- table, the ones about spans and field values another; the first entry of the former that
-- applies to a log line decides on it.
import KeyRoute.Filter.Directive

namespace KeyRoute

open KeyRoute.Filter (Directive Fault)

/-- A log filter: its directives as they were written. -/
structure Filter where
  directives : List Directive

namespace Filter

/-! ## Reading -/

/-- The parts of a text between commas. -/
def parts : List Char → List (List Char)
  | [] => [[]]
  | c :: cs =>
    if c == ',' then [] :: parts cs
    else match parts cs with
      | [] => [[c]]
      | part :: rest => (c :: part) :: rest

/-- The filter of a text. Empty parts count for nothing; the first one that is no directive ends
it. -/
def parse (text : String) : Except (Halt Fault) Filter := do
  let written := (parts text.toList).filter fun part => !part.isEmpty
  return ⟨← written.mapM Directive.parse⟩

/-! ## Tables -/

/-- A directive put into a table, from the most specific entry to the least. It takes the
place of an entry that differs from it at most in the level. -/
def insert (d : Directive) : List Directive → List Directive
  | [] => [d]
  | entry :: entries =>
    match d.specificity entry with
    | .gt => d :: entry :: entries
    | .eq => d :: entries
    | .lt => entry :: insert d entries

/-- The table of some directives, put in one after the other. -/
def table (directives : List Directive) : List Directive :=
  directives.foldl (fun entries d => insert d entries) []

/-- The entries about spans and fields. -/
def dynamicTable (filter : Filter) : List Directive :=
  table (filter.directives.filter (·.isDynamic))

/-- The entries that can be decided for a log line alone: the plain directives, and after them
what is left of the others. -/
def staticTable (filter : Filter) : List Directive :=
  table (filter.directives.filter (!·.isDynamic) ++
    (filter.directives.filter (·.isDynamic)).filterMap (·.static?))

/-! ## Views -/

/-- The text of a filter: its tables, the plain one first. -/
def text (filter : Filter) : String :=
  ",".intercalate ((filter.staticTable ++ filter.dynamicTable).map (·.text))

/-- The most talkative level that the filter may let through somewhere. A directive that was
replaced counts too, and a field value could ask for anything. -/
def maxLevel (filter : Filter) : Level :=
  if filter.directives.any (·.asksValue) then .trace
  else (filter.directives.map (·.level)).foldl Level.max .off

/-- Whether an entry is about log lines of a target: it names a beginning of the target or
none, and the only field of a log line, its message, or none. -/
def concerns (target : String) (entry : Directive) : Bool :=
  entry.target.all (Text.beginsWith target ·) && entry.field.all (·.name == "message")

/-- Whether a log line of this target and level passes. -/
def admits (filter : Filter) (target : String) (level : Level) : Bool :=
  match filter.staticTable.find? (concerns target) with
  | some entry => entry.level.admits level
  | none => false

end Filter

end KeyRoute
