import CodeBehind.Log.Setup
import CodeBehind.Main
import CodeBehind.Proofs.Channel.Containment
import CodeBehind.Proofs.Generation.Journal
import CodeBehind.Proofs.Generation.Part
import CodeBehind.Proofs.Generation.Stages
import CodeBehind.Proofs.Generation.Content
import CodeBehind.Proofs.Generation.Closing
import CodeBehind.Proofs.Generation.Outcome
import CodeBehind.Proofs.Generation.Written
import CodeBehind.Proofs.Language.Decoding
import CodeBehind.Proofs.Registry.Coherence
import CodeBehind.Proofs.Registry.Conservation
import CodeBehind.Proofs.Channel.Delivery
import CodeBehind.Proofs.Generation.Announcement
import CodeBehind.Proofs.Language.Rendering
import CodeBehind.Proofs.Generation.Isolation
import CodeBehind.Proofs.Generation.Diagnosis
import CodeBehind.Proofs.Config.Storage
import CodeBehind.Proofs.Language.BareDirective
import CodeBehind.Proofs.Registry.Refusal
import CodeBehind.Proofs.Registry.Removal
import CodeBehind.Proofs.Registry.Independence
import CodeBehind.Proofs.Template.Form
import CodeBehind.Proofs.Text.Splitting
import CodeBehind.Proofs.Template.Reading
import CodeBehind.Proofs.Generation.Dependency
import CodeBehind.Proofs.Registry.Forgetting
import CodeBehind.Proofs.Channel.Snapshot
import CodeBehind.Proofs.Version.Grammar
import CodeBehind.Proofs.Version.NormalForm
import CodeBehind.Proofs.Version.Release
import CodeBehind.Proofs.Config.Precedence
import CodeBehind.Proofs.Config.Validity
import CodeBehind.Proofs.Generation.Reading
import CodeBehind.Proofs.CommandLine.Ending
