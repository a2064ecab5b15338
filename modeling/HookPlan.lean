import HookPlan.Main
import HookPlan.Files.Tree
import HookPlan.Proofs.Resolution
import HookPlan.Proofs.Kept
import HookPlan.Proofs.Compilation
import HookPlan.Proofs.Trigger
import HookPlan.Proofs.Selection
import HookPlan.Proofs.Checking
import HookPlan.Proofs.Rules
import HookPlan.Proofs.Exclusion
import HookPlan.Proofs.Separators
import HookPlan.Proofs.Batches
import HookPlan.Proofs.Restriction
import HookPlan.Proofs.Blame
import HookPlan.Proofs.Parsing
import HookPlan.Proofs.CommandLine.Stages
import HookPlan.Proofs.CommandLine.Endings
import HookPlan.Proofs.CommandLine.Overriding
import HookPlan.Proofs.CommandLine.PlanOutput
import HookPlan.Proofs.Defaults
import HookPlan.Proofs.Concatenation
import HookPlan.Catalog.Filling
import HookPlan.Proofs.Catalog
import HookPlan.Proofs.Json.Nested
import HookPlan.Proofs.PlanText
import HookPlan.Proofs.Yaml.Reading
import HookPlan.Proofs.Yaml.Record
import HookPlan.Proofs.Schema
import HookPlan.Proofs.Materialization
import HookPlan.Proofs.Violations
import HookPlan.Proofs.Manifest
import HookPlan.Proofs.Places
import HookPlan.Proofs.Formats
import HookPlan.Proofs.Layers
