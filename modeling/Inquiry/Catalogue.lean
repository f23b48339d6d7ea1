import Inquiry.Catalogue.Cover
import Inquiry.Catalogue.Schaden
import Inquiry.Query

/-!
# The catalogue

Which domains there are, in the order in which they are asked, and the reports of each.
-/

namespace Inquiry.Catalogue

/-- The domains that contribute reports. -/
def domains : List Domain := [.cover, .schaden]

/-- The reports of a domain. -/
def reports : Domain → List Report
  | .cover => [Cover.report]
  | .schaden => [Schaden.report]
  | .unknown => []

/-- The reports of all domains. -/
def allReports : List Report := domains.flatMap reports

end Inquiry.Catalogue
