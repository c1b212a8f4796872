import WebhookSync.Console.Paint
import WebhookSync.Reconcile.Report

/-!
# Answers for a reader

The lines in which an answer is shown to a reader.
-/

namespace WebhookSync.Console

/-- Lines with a line break behind each. -/
def unlines (lines : List String) : String :=
  String.join (lines.map (· ++ "\n"))

/-- Something was done. -/
def success (palette : Palette) (text : String) : String :=
  paint palette .green "✓" ++ " " ++ text

/-- Something is missing. -/
def warning (palette : Palette) (text : String) : String :=
  paint palette .yellow "⚠" ++ " " ++ text

/-- A value with its name. -/
def named (palette : Palette) (name value : String) : String :=
  paint palette .bold name ++ ": " ++ value

/-- A heading and what stands below it: numbered items, or a remark where there are none. -/
def headed (palette : Palette) (title remark : String) (items : List String) : List String :=
  let body :=
    if items.isEmpty then [paint palette .dimmed ("  " ++ remark)]
    else
      items.mapIdx fun index item => "  " ++ toString (index + 1) ++ ". " ++ item
  ["", paint palette .heading title] ++ body

/-- The own webhooks of a repository. -/
def webhooksView (palette : Palette) (repository : Repository) (hooks : List Webhook) :
    List String :=
  headed palette ("Webhooks on " ++ repository.display) "No managed webhooks found"
    (hooks.map (webhookLine palette))

/-- What is said where no events are wanted. -/
def noEvents : String :=
  "No webhook events to subscribe to (none requested, or none supported by the server); " ++
    "nothing to do"

/-- What a reconciliation did, or would do. -/
def reportView (palette : Palette) (report : Report) : List String :=
  let planned :=
    if report.isPreview then
      headed palette ("Planned changes for " ++ report.repository) "No changes needed"
        report.plannedCalls ++ [""]
    else []
  let result :=
    match report.webhook with
    | none => [warning palette noEvents]
    | some hook =>
        if report.isPreview then [named palette "Resulting webhook" (webhookLine palette hook)]
        else
          [success palette ("Webhooks reconciled on " ++ report.repository),
            "  " ++ webhookLine palette hook]
  planned ++ result

/-- What a server tells about itself. -/
def capabilitiesView (palette : Palette) (address : String) (report : CapabilityReport) :
    List String :=
  named palette "Server" address ::
    (if report.isReported then
      headed palette "Supported webhook events" "None of the managed events are supported"
        (report.events.toList.map Event.name)
    else [warning palette "Server does not report webhook capabilities"])

end WebhookSync.Console
