import Crosswalk.Batch.Report
import Crosswalk.Output.Format
import Crosswalk.Timestamp

/-!
# Summaries

The sizes of a catalog, and the counts and the duration of a batch, as data and for people.
-/

set_option autoImplicit false

namespace Crosswalk

namespace CatalogSummary

def toJson (summary : CatalogSummary) : Json :=
  .object
    [("sources", .ofNat summary.sources),
      ("required_sources", .ofNat summary.requiredSources),
      ("destinations", .ofNat summary.destinations),
      ("transforms", .ofNat summary.maskUses),
      ("links", .ofNat summary.links)]

def humanText (summary : CatalogSummary) : String :=
  "Catalog Tables:\n"
    ++ "  Source fields:      " ++ toString summary.sources ++ " ("
    ++ toString summary.requiredSources ++ " required)\n"
    ++ "  Destination fields: " ++ toString summary.destinations ++ "\n"
    ++ "  Transforms:         " ++ toString summary.maskUses ++ "\n"
    ++ "  Mapping links:      " ++ toString summary.links ++ "\n"

def text (format : OutputFormat) (summary : CatalogSummary) : String :=
  match format with
  | .human => summary.humanText
  | format => format.write summary.toJson

end CatalogSummary

/-- The counts of a batch, when it started and how many milliseconds it took. -/
structure BatchSummary where
  counts : ReportSummary
  startedAt : Timestamp
  duration : Int
  deriving DecidableEq, Repr

namespace BatchSummary

def toJson (summary : BatchSummary) : Json :=
  let counts := summary.counts
  .object
    [("submitted", .ofNat counts.submitted),
      ("processed", .ofNat counts.processed),
      ("succeeded", .ofNat counts.succeeded),
      ("failed", .ofNat counts.failed),
      ("halted", .bool counts.halted),
      ("started_at", .string summary.startedAt.text),
      ("duration_ms", .number ((Number.ofInt? summary.duration).getD default))]

def humanText (summary : BatchSummary) : String :=
  let counts := summary.counts
  "Records: " ++ toString counts.submitted ++ " submitted, " ++ toString counts.processed
    ++ " processed, " ++ toString counts.succeeded ++ " succeeded, " ++ toString counts.failed
    ++ " failed\n"
    ++ (if counts.halted then
        "Halted after the first failure; " ++ toString (counts.submitted - counts.processed)
          ++ " record(s) not processed\n"
      else "")
    ++ "Started: " ++ summary.startedAt.humanText ++ "  Duration: "
    ++ toString summary.duration ++ "ms\n"

def text (format : OutputFormat) (summary : BatchSummary) : String :=
  match format with
  | .human => summary.humanText
  | format => format.write summary.toJson

end BatchSummary

end Crosswalk
