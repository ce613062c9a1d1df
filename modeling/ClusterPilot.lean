import ClusterPilot.Main
import ClusterPilot.Heartbeat.Arguments
import ClusterPilot.Proofs.Operation.Plans
import ClusterPilot.Proofs.OrderedMap
import ClusterPilot.Proofs.Tool.Session
import ClusterPilot.Proofs.Operation.DryRun
import ClusterPilot.Proofs.Operation.Outcome
import ClusterPilot.Proofs.Command
import ClusterPilot.Proofs.CommandLine.Options
import ClusterPilot.Proofs.CommandLine.Invocation
import ClusterPilot.Proofs.Json.Spelling
import ClusterPilot.Proofs.Json.Reading
import ClusterPilot.Proofs.Cluster.Field
import ClusterPilot.Proofs.Cluster.Rendering
import ClusterPilot.Proofs.Cluster.Reading
import ClusterPilot.Proofs.CommandLine.Demands
import ClusterPilot.Proofs.CommandLine.Plans
import ClusterPilot.Proofs.CommandLine.Ending
import ClusterPilot.Proofs.Checked
import ClusterPilot.Proofs.Json.Joining
import ClusterPilot.Proofs.Operation.Responses
import ClusterPilot.Proofs.Cluster.Edit
import ClusterPilot.Proofs.Cluster.Variation
import ClusterPilot.Proofs.CommandLine.DryRun
import ClusterPilot.Proofs.Heartbeat.Course
import ClusterPilot.Proofs.Json.Quoting
import ClusterPilot.Proofs.Operation.Damage
import ClusterPilot.Proofs.CommandLine.Words
import ClusterPilot.Proofs.CommandLine.Location
import ClusterPilot.Proofs.Yaml.Cursor
import ClusterPilot.Proofs.Yaml.Quoted
import ClusterPilot.Proofs.Yaml.Word
import ClusterPilot.Proofs.Yaml.Rounds
import ClusterPilot.Proofs.Yaml.Block
import ClusterPilot.Proofs.Yaml.Graph
import ClusterPilot.Proofs.Yaml.Building
import ClusterPilot.Proofs.Yaml.Outline
import ClusterPilot.Proofs.Config.Reading
import ClusterPilot.Proofs.Config.Written
import ClusterPilot.Proofs.Config.Unquoted
import ClusterPilot.Proofs.Yaml.Promise
import ClusterPilot.Proofs.Yaml.Values
import ClusterPilot.Proofs.Yaml.Escape
import ClusterPilot.Proofs.Yaml.Nesting
import ClusterPilot.Proofs.Yaml.Breakage
import ClusterPilot.Proofs.Yaml.Source
import ClusterPilot.Proofs.Yaml.Merge
import ClusterPilot.Proofs.Yaml.Walk
import ClusterPilot.Proofs.Config.Contract
import ClusterPilot.Proofs.Operation.Verbosity
import ClusterPilot.Proofs.Shell.Word
import ClusterPilot.Proofs.Cluster.Contribution
import ClusterPilot.Proofs.Cluster.Independence
import ClusterPilot.Proofs.CommandLine.Listing
import ClusterPilot.Proofs.Tool.Way
import ClusterPilot.Proofs.Operation.Filter
import ClusterPilot.Proofs.Text.Newline
import ClusterPilot.Proofs.Text.Stream
import ClusterPilot.Proofs.Text.Utf8
import ClusterPilot.Proofs.Operation.LineEnds
import ClusterPilot.Proofs.Host.Output
import ClusterPilot.Operation.Plan
import ClusterPilot.Proofs.Operation.Shelf
import ClusterPilot.Proofs.CommandLine.Specifications
import ClusterPilot.Proofs.Config.Validation
