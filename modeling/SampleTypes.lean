import SampleTypes.Main
import SampleTypes.Proofs.Declaration.Follows
import SampleTypes.Proofs.Declaration.Samples
import SampleTypes.Proofs.Inference.Conforms
import SampleTypes.Proofs.Inference.PairKinds
import SampleTypes.Proofs.Inference.Rename
import SampleTypes.Proofs.Inference.Reordered
import SampleTypes.Proofs.Inference.Visits
import SampleTypes.Proofs.Sample.Arrays
import SampleTypes.Proofs.Sample.Batches
import SampleTypes.Proofs.Sample.Kept
import SampleTypes.Proofs.Sample.Nulls
import SampleTypes.Proofs.Sample.ValueSets
import SampleTypes.Proofs.Shape.Initial
import SampleTypes.Proofs.Shape.Pieces
import SampleTypes.Proofs.Strict.Generate
import SampleTypes.Proofs.Declaration.Tokens
import SampleTypes.Proofs.Declaration.Declared
import SampleTypes.Proofs.Declaration.Root
import SampleTypes.Proofs.Declaration.Comments
import SampleTypes.Proofs.Run.DryRun
import SampleTypes.Proofs.Run.Written
import SampleTypes.Proofs.Search.Fetched
import SampleTypes.Proofs.Config.Limits
import SampleTypes.Proofs.Sample.Saved
import SampleTypes.Proofs.Command.Loaded
import SampleTypes.Proofs.Config.Precedence
import SampleTypes.Proofs.Declaration.ReadBack
import SampleTypes.Proofs.Disk.Policies
import SampleTypes.Proofs.Sample.Limited
import SampleTypes.Proofs.Config.References
import SampleTypes.Proofs.Command.Report
