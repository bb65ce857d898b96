-- The text in which the metrics are published: a family for each name, with two lines on what
-- it is and a line for each of its samples.
import KeyRoute.Metrics.Basic

namespace KeyRoute.Metrics

/-- The samples of one name. -/
structure Family where
  name : String
  help : String
  /-- Whether its samples only rise. -/
  isCounter : Bool
  /-- What tells its samples apart; a family without label has one sample. -/
  label : Option String
  samples : List Sample

/-- The families by name, and the samples of each by label. -/
def families : List Family :=
  [⟨"cache_hits_total", "Total number of client cache hits, labeled by lock path.", true,
      some "path", [.hits .fast, .hits .recheck]⟩,
    ⟨"cache_misses_total", "Total number of client cache misses.", true, none, [.misses]⟩,
    ⟨"cached_clients", "Number of client handles currently cached.", false, none,
      [.cachedClients]⟩,
    ⟨"clients_created_total", "Total number of client handles constructed, labeled by kind.",
      true, some "kind", [.created .inProcess, .created .remote]⟩,
    ⟨"evictions_total", "Total number of cached clients evicted after membership changes.",
      true, none, [.evictions]⟩,
    ⟨"route_errors_total", "Total number of failed routing calls, labeled by stage.", true,
      some "stage", [.routeErrors .construct, .routeErrors .lookup, .routeErrors .whoAmI]⟩]

/-- The label of a sample. -/
def labelValue : Sample → String
  | .hits path => path.name
  | .created kind => kind.name
  | .routeErrors stage => stage.name
  | .misses | .evictions | .cachedClients => ""

/-- What every published name begins with. -/
def nameSpace : String := "ringroute_"

namespace Family

/-- A sample by its full name, without the beginning that all names share. -/
def title (family : Family) (sample : Sample) : String :=
  match family.label with
  | none => family.name
  | some label => family.name ++ "\x7b" ++ label ++ "=\"" ++ labelValue sample ++ "\"\x7d"

/-- The samples that are shown: a labelled one only once it moved. -/
def shown (family : Family) (registry : Registry) : List Sample :=
  match family.label with
  | none => family.samples
  | some _ => family.samples.filter registry.moved

/-- The lines of a family, none if it has no sample to show. -/
def lines (registry : Registry) (family : Family) : List String :=
  match family.shown registry with
  | [] => []
  | samples =>
    let name := nameSpace ++ family.name
    ("# HELP " ++ name ++ " " ++ family.help) ::
      ("# TYPE " ++ name ++ " " ++ if family.isCounter then "counter" else "gauge") ::
      samples.map fun sample =>
        nameSpace ++ family.title sample ++ " " ++ toString (registry.value sample)

end Family

/-- What is published of a registry. -/
def Registry.lines (registry : Registry) : List String := families.flatMap (·.lines registry)

/-- The published lines after some moves, from zero. -/
def lines (moves : List Move) : List String := (Registry.empty.record moves).lines

/-- The full name of a sample, without the beginning that all names share. -/
def title (sample : Sample) : String :=
  match families.find? (·.samples.contains sample) with
  | some family => family.title sample
  | none => ""

end KeyRoute.Metrics
