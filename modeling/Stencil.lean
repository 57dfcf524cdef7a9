import Stencil.Main
import Stencil.Session
import Stencil.Json.Reader
import Stencil.Proofs.Tree.Printing
import Stencil.Proofs.Tree.Preorder
import Stencil.Proofs.Tree.Blocks
import Stencil.Proofs.Module.Reading
import Stencil.Proofs.Transform.Delivery
import Stencil.Proofs.Transform.Outcome
import Stencil.Proofs.Transform.Closing
import Stencil.Proofs.Options.Known
import Stencil.Proofs.Session.Configuration
import Stencil.Proofs.Session.View
import Stencil.Proofs.Session.Isolation
import Stencil.Proofs.Cli.Disk
import Stencil.Proofs.Cli.Run
import Stencil.Proofs.Cli.Effect
import Stencil.Proofs.Cli.Overwriting
import Stencil.Proofs.Transform.Relocation
import Stencil.Proofs.Cli.Flags
import Stencil.Proofs.Session.Opening
import Stencil.Proofs.Template.Failure
import Stencil.Proofs.Transform.Breakdown
import Stencil.Proofs.Cli.Status
import Stencil.Proofs.Yaml.Meaning
import Stencil.Proofs.Text.Search
import Stencil.Proofs.Options.Extensions
import Stencil.Proofs.Path.Aliases
import Stencil.Proofs.Minify.Reports
import Stencil.Proofs.Session.Reports
import Stencil.Proofs.Tree.Growth
import Stencil.Proofs.Tree.Shape
import Stencil.Proofs.Options.Aliases
import Stencil.Proofs.Path.Extension
import Stencil.Proofs.Transform.Eligible
import Stencil.Proofs.Text.Lines
import Stencil.Proofs.Transform.LineBreaks
import Stencil.Proofs.Transform.Damage
import Stencil.Proofs.Transform.OneLine
