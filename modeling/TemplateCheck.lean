import TemplateCheck.CommandLine
import TemplateCheck.Main
import TemplateCheck.Scripted
import TemplateCheck.Shell
import TemplateCheck.Proofs.Account
import TemplateCheck.Proofs.Blocking
import TemplateCheck.Proofs.Computation
import TemplateCheck.Proofs.ExitStatus
import TemplateCheck.Proofs.Lookup
import TemplateCheck.Proofs.Making
import TemplateCheck.Proofs.Mirror
import TemplateCheck.Proofs.Processes
import TemplateCheck.Proofs.Selected
import TemplateCheck.Proofs.Sharing
import TemplateCheck.Proofs.Spelling
import TemplateCheck.Proofs.Trace
import TemplateCheck.Proofs.Writing
import TemplateCheck.Proofs.Agreement
import TemplateCheck.Proofs.Stopping
import TemplateCheck.Proofs.Footprint
import TemplateCheck.Proofs.Leftovers
import TemplateCheck.Proofs.Tree
import TemplateCheck.Proofs.Union
import TemplateCheck.Proofs.Exclusion
import TemplateCheck.Proofs.Layout
import TemplateCheck.Proofs.Order
import TemplateCheck.Proofs.Repetition
import TemplateCheck.Proofs.Disclosure
import TemplateCheck.Proofs.Delivery
import TemplateCheck.Proofs.Colour
import TemplateCheck.Proofs.JsonReader
import TemplateCheck.Proofs.Lossless
import TemplateCheck.Proofs.Validation
import TemplateCheck.Proofs.CrashContext
import TemplateCheck.Proofs.SourceLine
import TemplateCheck.Proofs.ExcerptRows
import TemplateCheck.Proofs.Stems
import TemplateCheck.Proofs.Matching
import TemplateCheck.Proofs.Verdict
import TemplateCheck.Proofs.Walk
import TemplateCheck.Proofs.ReadBack
import TemplateCheck.Proofs.Residue
import TemplateCheck.Proofs.Starting
import TemplateCheck.Proofs.Message
import TemplateCheck.Proofs.Switch
import TemplateCheck.Proofs.Ensured
import TemplateCheck.Proofs.Entries
import TemplateCheck.Proofs.Placeholders
import TemplateCheck.Proofs.Guards
import TemplateCheck.Proofs.Appearance
