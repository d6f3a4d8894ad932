import ResourceInliner.Loader
import ResourceInliner.View
import ResourceInliner.Proofs.Config.Precedence
import ResourceInliner.Proofs.Config.Surfaces
import ResourceInliner.Proofs.Gate.Exact
import ResourceInliner.Proofs.Gate.KeyNames
import ResourceInliner.Proofs.Gate.Mark
import ResourceInliner.Proofs.Gate.Positions
import ResourceInliner.Proofs.Gate.Rerun
import ResourceInliner.Proofs.Gate.Unchanged
import ResourceInliner.Proofs.Loader.History
import ResourceInliner.Proofs.Metadata.Provenance
import ResourceInliner.Proofs.Metadata.SingleStyles
import ResourceInliner.Proofs.Metadata.Specified
import ResourceInliner.Proofs.Metadata.Text
import ResourceInliner.Proofs.Patch.Splicing
import ResourceInliner.Proofs.Path.ReadBack
import ResourceInliner.Proofs.Query.Layered
