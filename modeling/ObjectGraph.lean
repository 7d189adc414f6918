import ObjectGraph.Access.DeferredWrite
import ObjectGraph.Access.Error
import ObjectGraph.Access.Log
import ObjectGraph.Access.PathAccess
import ObjectGraph.Access.Step
import ObjectGraph.Action
import ObjectGraph.Binary64
import ObjectGraph.Cursor
import ObjectGraph.Diagnostic
import ObjectGraph.Error
import ObjectGraph.Export.Json
import ObjectGraph.Export.Tree
import ObjectGraph.Instance
import ObjectGraph.Path.PropertyPath
import ObjectGraph.Path.Segment
import ObjectGraph.Path.Token
import ObjectGraph.Power
import ObjectGraph.Registry
import ObjectGraph.Script.Answer
import ObjectGraph.Script.Declaration
import ObjectGraph.Script.Eval
import ObjectGraph.Script.Outcome
import ObjectGraph.Script.Picture
import ObjectGraph.Script.Routine
import ObjectGraph.Script.Run
import ObjectGraph.Script.Session
import ObjectGraph.Script.Step
import ObjectGraph.Storage
import ObjectGraph.Text.Decimal
import ObjectGraph.Text.Layout
import ObjectGraph.Text.Padding
import ObjectGraph.Text.Printable
import ObjectGraph.Text.Quoted
import ObjectGraph.Text.Shortest
import ObjectGraph.Text.Utf8
import ObjectGraph.Type.Builder
import ObjectGraph.Type.Member
import ObjectGraph.Type.Summary
import ObjectGraph.Type.Table
import ObjectGraph.Value
import ObjectGraph.View
import ObjectGraph.World
import ObjectGraph.Proofs.Path.Grammar
import ObjectGraph.Proofs.Path.RoundTrip
import ObjectGraph.Proofs.Access.Composition
import ObjectGraph.Proofs.Access.Place
import ObjectGraph.Proofs.Access.DeferredWrite
import ObjectGraph.Proofs.Access.Visibility
import ObjectGraph.Proofs.Type.Layout
import ObjectGraph.Proofs.Client.MemberCode
import ObjectGraph.Proofs.Client.Program
import ObjectGraph.Proofs.Client.Invariant
import ObjectGraph.Proofs.Client.Safety
import ObjectGraph.Proofs.Client.Instances
import ObjectGraph.Proofs.Client.Operations
import ObjectGraph.Proofs.Client.Soundness
import ObjectGraph.Proofs.Export.Unfolding
import ObjectGraph.Proofs.Access.Discipline
import ObjectGraph.Proofs.Client.Command
import ObjectGraph.Proofs.Client.Sizes
import ObjectGraph.Proofs.Client.Bounds
import ObjectGraph.Proofs.Client.Scripts
import ObjectGraph.Proofs.Access.Arrival
import ObjectGraph.Proofs.Access.Faults
import ObjectGraph.Proofs.Access.MethodCalls
import ObjectGraph.Proofs.Access.Borrows
import ObjectGraph.Proofs.Client.Procedure
import ObjectGraph.Proofs.Client.Protection
import ObjectGraph.Proofs.Client.Blocks
import ObjectGraph.Proofs.Type.Chain
import ObjectGraph.Proofs.Type.Numbering
import ObjectGraph.Proofs.Access.DirectFields
import ObjectGraph.Proofs.Access.WriteBack
import ObjectGraph.Proofs.Export.Keys
import ObjectGraph.Proofs.Path.Normal
import ObjectGraph.Proofs.Access.Addressing
import ObjectGraph.Proofs.Access.Following
import ObjectGraph.Proofs.Access.Blame
import ObjectGraph.Proofs.Access.Malformed
import ObjectGraph.Proofs.Access.Independence
import ObjectGraph.Proofs.Type.Resolution
import ObjectGraph.Proofs.Type.Subtyping
import ObjectGraph.Proofs.Client.Defaults
import ObjectGraph.Proofs.Word
import ObjectGraph.Proofs.Path.Slicing
import ObjectGraph.Proofs.Storage.Indexing
import ObjectGraph.Proofs.Storage.Traversal
import ObjectGraph.Proofs.Access.Transcript
