import ViewKit.Component
import ViewKit.Locale
import ViewKit.Main
import ViewKit.Proofs.Component.Markup
import ViewKit.Proofs.Component.Notification
import ViewKit.Proofs.Diff.Inverse
import ViewKit.Proofs.Diff.Entries
import ViewKit.Proofs.Diff.Leaves
import ViewKit.Proofs.Diff.Paths
import ViewKit.Proofs.Diff.Replay
import ViewKit.Proofs.Diff.Target
import ViewKit.Proofs.Event.Completion
import ViewKit.Proofs.Event.History
import ViewKit.Proofs.Event.Merging
import ViewKit.Proofs.Event.Snapshot
import ViewKit.Proofs.Json.RoundTrip
import ViewKit.Proofs.Grammar.Precedence
import ViewKit.Proofs.Lexer.Place
import ViewKit.Proofs.Lexer.Tiling
import ViewKit.Proofs.Locale.Filling
import ViewKit.Proofs.Locale.Language
import ViewKit.Proofs.Path.Level
import ViewKit.Proofs.Path.Change
import ViewKit.Proofs.Path.Lens
import ViewKit.Proofs.Path.Readers
import ViewKit.Proofs.Path.Remove
import ViewKit.Proofs.Program.Text
import ViewKit.Proofs.State.Write
import ViewKit.Proofs.State.Atomic
import ViewKit.Proofs.State.Deletion
import ViewKit.Proofs.State.Journal
import ViewKit.Proofs.State.Refusal
import ViewKit.Proofs.State.Root
import ViewKit.Proofs.Template.Diagnosis
import ViewKit.Proofs.Template.Filler
import ViewKit.Proofs.Template.Iteration
import ViewKit.Proofs.Template.LoopLimit
import ViewKit.Proofs.Template.Order
import ViewKit.Proofs.Template.Position
import ViewKit.Proofs.Template.Qualified
import ViewKit.Proofs.Template.Rendering
import ViewKit.Proofs.Template.Separate
import ViewKit.Proofs.Text.Markup
import ViewKit.Proofs.Value.Equivalence
import ViewKit.Proofs.Value.Search
