import DartModels.Proofs.Declaration.Segmentation
import DartModels.Proofs.Declaration.Collapsing
import DartModels.Proofs.Compilation.Append
import DartModels.Proofs.Compilation.Provenance
import DartModels.Proofs.Declaration.Stopping
import DartModels.Proofs.Declaration.Layout
import DartModels.Proofs.Field.Call
import DartModels.Proofs.Compilation.LineBreak
import DartModels.Proofs.Field.OneLine
import DartModels.Proofs.DartClass.Source
import DartModels.Proofs.Compilation.Masking
import DartModels.Proofs.Compilation.CamelCase
import DartModels.Proofs.Declaration.Comments
import DartModels.Proofs.Compilation.Rendering
import DartModels.Proofs.Compilation.Lossless
import DartModels.Proofs.Field.RightSide
import DartModels.Proofs.Declaration.Delimiting
import DartModels.Proofs.Command.Run
import DartModels.Proofs.Command.Editor
import DartModels.Proofs.Field.FirstArgument
import DartModels.Proofs.Field.Reference
import DartModels.Proofs.Compilation.Findings
import DartModels.Proofs.Compilation.MemberNames
import DartModels.Proofs.Compilation.DistinctMembers
import DartModels.Proofs.Messages
import DartModels.Proofs.Declaration.CallState
