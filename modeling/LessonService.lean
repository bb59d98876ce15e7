import LessonService.Database.Migration
import LessonService.Generation.Models
import LessonService.Identity
import LessonService.Logging
import LessonService.Main
import LessonService.Settings.Listing
import LessonService.Web.Service
import LessonService.Proofs.Store.RecordStep
import LessonService.Proofs.Store.Constraints
import LessonService.Proofs.Store.Lookup
import LessonService.Proofs.Store.Finality
import LessonService.Proofs.Store.Duplicates
import LessonService.Proofs.Generation.Attempts
import LessonService.Proofs.Generation.RepairLoop
import LessonService.Proofs.Generation.Replies
import LessonService.Proofs.Generation.ReviewedContent
import LessonService.Proofs.Generation.Structure
import LessonService.Proofs.Number.Rounding
import LessonService.Proofs.Quota.Separation
import LessonService.Proofs.Quota.Counting
import LessonService.Proofs.Quota.Rate
import LessonService.Proofs.Quota.Delay
import LessonService.Proofs.Sandbox.Containment
import LessonService.Proofs.Script.Erasure
import LessonService.Proofs.Script.Imports
import LessonService.Proofs.Web.Handling
import LessonService.Proofs.Web.Rendering
import LessonService.Proofs.Web.LessonRequests
import LessonService.Proofs.Web.Turns
import LessonService.Proofs.Web.Pages
import LessonService.Proofs.Web.Marking
import LessonService.Proofs.Web.QuotaHeaders
import LessonService.Proofs.Text.Replacing
import LessonService.Proofs.Script.EntryPoint
import LessonService.Proofs.Script.Outcomes
import LessonService.Proofs.Script.Words
import LessonService.Proofs.Script.StringLiterals
import LessonService.Proofs.Settings.Reach
import LessonService.Proofs.Maintenance.Sweep
import LessonService.Proofs.Settings.Redaction
import LessonService.Proofs.Sandbox.Policy
import LessonService.Proofs.Settings.Ranges
import LessonService.Proofs.Generation.Closing
import LessonService.Proofs.Text.Stretches
import LessonService.Proofs.Script.ModuleLines
import LessonService.Proofs.Script.TextLines
import LessonService.Proofs.Text.FirstEnds
import LessonService.Proofs.Text.LineStarts
import LessonService.Proofs.Script.ImportLines
import LessonService.Proofs.Script.Declarations
import LessonService.Proofs.Text.Prefixes
import LessonService.Proofs.Markup.Lines
import LessonService.Proofs.Markup.Layout
import LessonService.Proofs.Markup.Names
import LessonService.Proofs.Markup.References
import LessonService.Proofs.Markup.Content
import LessonService.Proofs.Script.Fragments
import LessonService.Proofs.Script.Elements
import LessonService.Proofs.Script.Enumerations
import LessonService.Proofs.Review.Places
import LessonService.Proofs.Review.Scopes
import LessonService.Proofs.Review.EarlyUses
import LessonService.Proofs.Text.Letters
import LessonService.Proofs.Text.Readings
import LessonService.Proofs.Request.Stages
import LessonService.Proofs.Request.Words
import LessonService.Proofs.Request.Scripts
import LessonService.Proofs.Request.Statements
import LessonService.Proofs.Request.Gibberish
import LessonService.Proofs.Generation.Filling
import LessonService.Proofs.Generation.Prompts
import LessonService.Proofs.Text.AnyCase
import LessonService.Proofs.Text.Words
import LessonService.Proofs.Generation.Fences
import LessonService.Proofs.Generation.Titles
import LessonService.Proofs.Generation.Waiting
import LessonService.Proofs.Generation.Backoff
import LessonService.Proofs.Web.Listing
import LessonService.Proofs.Number.Spelling
import LessonService.Proofs.Content.Plain
import LessonService.Proofs.Web.ErrorBodies
import LessonService.Proofs.Settings.Assignments
import LessonService.Proofs.Settings.EnvironmentFile
import LessonService.Proofs.Text.Finds
import LessonService.Proofs.Script.SourceOrder
import LessonService.Proofs.Review.SyntaxProblems
