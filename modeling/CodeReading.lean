import CodeReading.Files.Tree
import CodeReading.Main
import CodeReading.Proofs.Chain.Path
import CodeReading.Proofs.Chain.Enumeration
import CodeReading.Proofs.Chain.Exploration
import CodeReading.Proofs.Chain.Ranking
import CodeReading.Proofs.Chain.Selection
import CodeReading.Proofs.Config.Validation
import CodeReading.Proofs.Scalar
import CodeReading.Proofs.Sorting
import CodeReading.Proofs.Config.Bands
import CodeReading.Proofs.Challenge.Made
import CodeReading.Proofs.Curriculum.Assembly
import CodeReading.Proofs.Curriculum.Soundness
import CodeReading.Proofs.Challenge.Options
import CodeReading.Proofs.Challenge.Choice
import CodeReading.Proofs.Challenge.Success
import CodeReading.Proofs.Challenge.Askable
import CodeReading.Proofs.Challenge.Patterns
import CodeReading.Proofs.Challenge.Head
import CodeReading.Proofs.Challenge.Blanks
import CodeReading.Proofs.Challenge.Words
import CodeReading.Proofs.Challenge.Candidates
import CodeReading.Proofs.Challenge.Splicing
import CodeReading.Proofs.Challenge.Placeholders
import CodeReading.Proofs.Challenge.Scan
import CodeReading.Proofs.Challenge.Priority
import CodeReading.Proofs.Challenge.Faults
import CodeReading.Proofs.Challenge.Calls
import CodeReading.Proofs.Curriculum.Coverage
import CodeReading.Proofs.Curriculum.Accounts
import CodeReading.Proofs.Graph.Coherence
import CodeReading.Proofs.Graph.Depth
import CodeReading.Proofs.Graph.Search
import CodeReading.Proofs.Graph.Condensation
import CodeReading.Proofs.Graph.Rephrasing
import CodeReading.Proofs.Curriculum.Independence
import CodeReading.Proofs.Curriculum.Growth
import CodeReading.Proofs.Curriculum.Partition
import CodeReading.Proofs.Curriculum.Prerequisites
import CodeReading.Proofs.Curriculum.Duration
import CodeReading.Proofs.Curriculum.Rewards
import CodeReading.Proofs.Command.Listing
import CodeReading.Proofs.Files.Confinement
import CodeReading.Proofs.Files.Snippets
import CodeReading.Proofs.Command.Arguments
import CodeReading.Proofs.Command.Effects
import CodeReading.Proofs.Command.Isolation
import CodeReading.Proofs.Graph.Acceptance
import CodeReading.Proofs.Graph.Linking
import CodeReading.Proofs.Graph.Rebuilding
import CodeReading.Proofs.Json.Token
import CodeReading.Proofs.Json.RoundTrip
import CodeReading.Proofs.Graph.Document
import CodeReading.Proofs.Graph.Tally
import CodeReading.Proofs.Graph.Dot
