import Inquiry.Failure
import Inquiry.Report

/-!
# The choice of a report

A request gets the report that it names most often. Of several such reports the first one is taken.
-/

namespace Inquiry.Report

/-- The count of a name; a name without one counts as zero. -/
def hitsOf (hits : List (String × Int)) (r : Report) : Int := (hits.lookup r.name).getD 0

/-- The better one of the best report so far and another report. -/
def better (hits : List (String × Int)) (best : Option Report) (r : Report) : Option Report :=
  if hitsOf hits r > (best.map (hitsOf hits)).getD 0 then some r else best

/-- The first of the reports with the most hits. It needs at least one hit, and as many as are
required. -/
def choose (reports : List Report) (hits : List (String × Int)) (required : Int) :
    Except Failure Report :=
  match reports.foldl (better hits) none with
  | some best =>
    if hitsOf hits best < required then .error (.noMatchingReport hits required) else .ok best
  | none => .error (.noMatchingReport hits required)

end Inquiry.Report
