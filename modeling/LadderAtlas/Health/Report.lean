import LadderAtlas.Health.Score
import LadderAtlas.Document.Plain

/-! # Health reports

The score with its components, as it is reported: rounded, and with the reasons for what could not be
computed. -/

namespace LadderAtlas.Health

structure Report where
  overall : Metric Float
  tagEfficiency : Metric Float
  documentation : Metric Float
  tagUsage : Metric Float
  naming : Option (Metric Float) := none
  isApproximate : Bool := false
  stats : Stats := {}

namespace Report

def ofStats (s : Stats) (withNaming : Bool) : Report where
  overall := s.overall withNaming
  tagEfficiency := s.tagEfficiency
  documentation := s.documentation
  tagUsage := s.tagUsage
  naming := if withNaming then some s.naming else none
  isApproximate := s.isApproximate Float withNaming
  stats := s

/-- A metric in whole percents. -/
def rounded (m : Metric Float) : Option Int := m.value?.map roundFloat

/-- The metrics by their names in reports, in the order in which reasons are listed. -/
def metrics (r : Report) : List (String × Metric Float) :=
  [("tagEfficiency", r.tagEfficiency), ("documentation", r.documentation), ("tagUsage", r.tagUsage)] ++
    (r.naming.toList.map fun m => ("naming", m)) ++ [("overall", r.overall)]

/-- The fields of a report. Reasons are listed only where there are any. -/
def fields (r : Report) : List (String × Value) :=
  let score (m : Metric Float) : Value := .optWhole (rounded m)
  let reasons := r.metrics.filterMap fun (name, m) => m.lack?.map fun why => (name, Value.text why.reason)
  [("overall", score r.overall),
    ("tagEfficiency", score r.tagEfficiency),
    ("documentation", score r.documentation),
    ("tagUsage", score r.tagUsage),
    ("approximate", .bool r.isApproximate)] ++
  (r.naming.toList.map fun m => ("naming", score m)) ++
  (if reasons.isEmpty then [] else [("notComputable", .record reasons)]) ++
  [("stats", .record [
    ("totalTags", .whole r.stats.totalTags),
    ("unusedTags", .whole r.stats.unusedTags),
    ("totalRungs", .whole r.stats.totalRungs),
    ("commentedRungs", .whole r.stats.commentedRungs),
    ("totalReferences", .whole r.stats.totalReferences)])]

def plain (r : Report) : Value := .record r.fields

end Report

end LadderAtlas.Health
