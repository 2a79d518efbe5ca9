import CodeReading.Chain.Difficulty
import CodeReading.Challenge.Generation
import CodeReading.Challenge.Selection
import CodeReading.Config.Validation
import CodeReading.Curriculum.Level
import CodeReading.Graph.Reachability

set_option autoImplicit false

/-!
# Assembling a curriculum

The best chains of a call graph become levels, best first. A level takes the selected challenges
that can be made and, while it has too few, further ones; a chain that still has too few is dropped.
A level has the level before it as its prerequisite when its entry can be reached from there.
-/
namespace CodeReading

def DropReason.message : DropReason → String
  | .tooFewChallenges count =>
    "only " ++ count.repr ++ " of " ++ minChallenges.repr
      ++ " required challenges could be generated"

inductive GenerationError where
  | configuration (fault : ConfigFault)
  | noEntryPoints
  /-- A sum does not fit, in a build where this ends the run. -/
  | overflow
  deriving DecidableEq, Repr

def GenerationError.message : GenerationError → String
  | .configuration fault => "Invalid configuration: " ++ fault.message
  | .noEntryPoints => "Call graph has no entry points"
  | .overflow => "attempt to add with overflow"

/-- What a sum does that does not fit into its bits: builds with checks of arithmetic stop there, in
    others it wraps. -/
inductive Overflow where
  | stops
  | wraps
  deriving DecidableEq, Repr

structure Project where
  graph : CallGraph
  source : SourceLookup := SourceLookup.none
  config : Config := {}
  overflow : Overflow := .stops

namespace Project

def material (p : Project) : Material :=
  ⟨p.graph, p.source, p.config.challenges⟩

/-- Challenges and gaps of attempts at several kinds, made while fewer than `limit` challenges are
    there. -/
def attempts (make : ChallengeKind → Except Gap Challenge) (limit : Nat)
    (made : List Challenge × List Gap) : List ChallengeKind → List Challenge × List Gap
  | [] => made
  | kind :: kinds =>
    if limit ≤ made.1.length then made
    else
      match make kind with
      | .ok challenge => attempts make limit (made.1 ++ [challenge], made.2) kinds
      | .error gap => attempts make limit (made.1, made.2 ++ [gap]) kinds

/-- Challenges for a chain and the gaps on the way: the selected kinds, then the others as long as
    there are too few. -/
def challenges (p : Project) (chain : Chain) (tier : Tier) : List Challenge × List Gap :=
  let make := p.material.generate chain
  let selected := p.config.challenges.select p.graph chain tier
  attempts make minChallenges (attempts make maxChallenges ([], []) selected)
    (ChallengeKind.fallbacks selected)

/-- What to learn from a chain: its course, and up to two remarkable nodes. -/
def objectives (p : Project) (chain : Chain) : List String :=
  let nodes := p.graph.chainNodes chain
  let course := "Trace execution from " ++ p.graph.nodeName chain.entry ++ " to "
    ++ p.graph.nodeName chain.last
  let decorated := (nodes.find? fun node => !node.decorators.isEmpty).map fun node =>
    "Explain what " ++ ", ".intercalate (node.decorators.map fun d => "@" ++ bareDecorator d)
      ++ " adds to " ++ node.name
  let async := (nodes.find? (·.isAsync)).map fun node =>
    "Follow the async flow through " ++ node.name
  let complex := (nodes.find? fun node => p.config.challenges.highComplexity ≤ node.complexity).map
    fun node => "Work through the branching logic in " ++ node.name
  (course :: (decorated.toList ++ async.toList ++ complex.toList)).take 3

/-- The level before, if the entry of a chain can be reached from it. -/
def prerequisites (p : Project) (previous : Option Level) (chain : Chain) : List LevelId :=
  match previous with
  | some level => if p.graph.isReachableFrom level.chain.ids chain.entry then [level.id] else []
  | none => []

def addMinutes (p : Project) (sum : UInt32) (challenge : Challenge) :
    Except GenerationError UInt32 :=
  let minutes := p.config.rewards.minutes.get challenge.kind
  if p.overflow = .stops ∧ UInt32.size ≤ sum.toNat + minutes.toNat then .error .overflow
  else .ok (sum + minutes)

def estimate (p : Project) (challenges : List Challenge) : Except GenerationError UInt32 :=
  challenges.foldlM p.addMinutes 0

def level (p : Project) (id : LevelId) (previous : Option Level) (chain : Chain) (tier : Tier)
    (challenges : List Challenge) (estimatedTime : UInt32) : Level :=
  let first := p.graph.nodeName chain.entry
  let last := p.graph.nodeName chain.last
  { id
    name := "Understanding " ++ first
    description := "Learn how " ++ first ++ " works and trace its execution to " ++ last
    tier
    entryFunction := chain.entry
    chain
    codeSnippet := p.material.texts (p.graph.chainNodes chain)
    challenges
    objectives := p.objectives chain
    xpReward := p.config.rewards.xp.reward tier
    estimatedTime
    prerequisites := p.prerequisites previous chain }

/-- Number of the level after `count` others; it stays at the last number there is. -/
def nextId (count : Nat) : LevelId :=
  ⟨UInt32.ofNat (min (count + 1) (UInt32.size - 1))⟩

def addChain (p : Project) (curriculum : Curriculum) (ranked : RankedChain) :
    Except GenerationError Curriculum :=
  let chain := ranked.chain
  let tier := p.config.difficulty.classify p.graph chain
  let (challenges, gaps) := p.challenges chain tier
  let gaps := curriculum.gaps ++ gaps
  if challenges.length < minChallenges then
    .ok { curriculum with
      gaps
      dropped := curriculum.dropped ++ [⟨chain, .tooFewChallenges challenges.length⟩] }
  else
    let id := nextId curriculum.levels.length
    (p.estimate challenges).map fun time =>
      let level := p.level id curriculum.levels.getLast? chain tier challenges time
      { curriculum with gaps, levels := curriculum.levels ++ [level] }

def ranked (p : Project) : List RankedChain :=
  p.config.ranking.rank p.graph p.config.maxDepth.toNat p.config.maxCandidateChains.toNat
    p.config.maxLevels.toNat

def generate (p : Project) : Except GenerationError Curriculum :=
  match p.config.validate with
  | .error fault => .error (.configuration fault)
  | .ok () =>
    if p.graph.entryPoints.isEmpty then
      if p.config.requireEntryPoints then .error .noEntryPoints else .ok {}
    else p.ranked.foldlM p.addChain {}

end Project

def coreChains (g : CallGraph) (maxChains maxDepth : Nat) :
    Except GenerationError (List RankedChain) :=
  if maxChains = 0 then .error (.configuration (.zeroLimit "max_chains"))
  else if maxDepth = 0 then .error (.configuration (.zeroLimit "max_depth"))
  else
    let config : Config := {}
    .ok (config.ranking.rank g maxDepth config.maxCandidateChains.toNat maxChains)

end CodeReading
