import WorkItems.Main
import WorkItems.Proofs.Decimal.Layout
import WorkItems.Proofs.Dict
import WorkItems.Proofs.FrontMatter.Delimiters
import WorkItems.Proofs.Renumbering
import WorkItems.Proofs.Text.Trim
import WorkItems.Proofs.FrontMatter.AllowedTexts
import WorkItems.Proofs.FrontMatter.Items
import WorkItems.Proofs.FrontMatter.RoundTrip
import WorkItems.Proofs.Calendar.Marks
import WorkItems.Proofs.Disk
import WorkItems.Proofs.Email
import WorkItems.Proofs.FrontMatter.Parsed
import WorkItems.Proofs.Repair.Dates
import WorkItems.Proofs.Repair.Defaults
import WorkItems.Proofs.Repair.Idempotent
import WorkItems.Proofs.Run.DryRun
import WorkItems.Proofs.Run.Frame
import WorkItems.Proofs.Audit
import WorkItems.Proofs.Run.SharedIds
import WorkItems.Proofs.Repair.CoreNames
import WorkItems.Proofs.FrontMatter.KeptEntries
import WorkItems.Proofs.Repair.FilledDefaults
import WorkItems.Proofs.CommandLine.SetUp
import WorkItems.Proofs.Config.RoundTrip
import WorkItems.Proofs.Calendar.Alternates
import WorkItems.Proofs.Repair.Gaps
import WorkItems.Proofs.Repair.Reported
import WorkItems.Proofs.Repair.ValidValues
import WorkItems.Proofs.Numbering.Candidates
import WorkItems.Proofs.FrontMatter.Cut
import WorkItems.Proofs.Repair.Leftovers
import WorkItems.Proofs.FrontMatter.TwoReadings
import WorkItems.Proofs.Url
import WorkItems.Proofs.Disk.Confinement
import WorkItems.Proofs.Discovery.Order
import WorkItems.Proofs.Schema.Arrays
import WorkItems.Proofs.Schema.NumberBounds
import WorkItems.Proofs.Schema.DateBounds
import WorkItems.Proofs.FrontMatter.DoubleQuotes
import WorkItems.Proofs.Repair.Created
import WorkItems.Proofs.CommandLine.SetUpTwice
