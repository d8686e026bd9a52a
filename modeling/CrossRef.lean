import CrossRef.Compile
import CrossRef.Env.Text
import CrossRef.Json.CompilationUnit
import CrossRef.Options.File
import CrossRef.Proofs.Env.Outline
import CrossRef.Proofs.Lookup.Correspondence
import CrossRef.Proofs.Compile.Correspondence
import CrossRef.Proofs.Compile.Containment
import CrossRef.Proofs.Compile.Agreement
import CrossRef.Proofs.Compile.Repetition
import CrossRef.Proofs.Compile.Idempotence
import CrossRef.Proofs.Compile.Refinement
import CrossRef.Proofs.Signature.LeafMap
import CrossRef.Proofs.Lookup.Erasure
import CrossRef.Proofs.Compile.Constraining
import CrossRef.Proofs.Compile.Normalisation
import CrossRef.Proofs.Lookup.Replay
import CrossRef.Proofs.Compile.Caching
import CrossRef.Proofs.Lookup.Termination
import CrossRef.Proofs.Compile.Completion
import CrossRef.Proofs.Compile.Termination
import CrossRef.Proofs.Compile.Visibility
import CrossRef.Proofs.Lookup.Allowance
import CrossRef.Proofs.Lookup.Cycles
import CrossRef.Proofs.Compile.Reporting
import CrossRef.Proofs.Lookup.Spelling
import CrossRef.Proofs.Json.RoundTrip
import CrossRef.Proofs.Compile.Splicing
import CrossRef.Proofs.Lookup.Designation
import CrossRef.Proofs.Signature.Relocation
import CrossRef.Proofs.Lookup.Removal
import CrossRef.Proofs.Lookup.Application
import CrossRef.Proofs.Lookup.Commutation
import CrossRef.Proofs.TypeExpr.Instantiation
import CrossRef.Proofs.Lookup.Chains
import CrossRef.Proofs.Lookup.ClassScope
import CrossRef.Proofs.Env.Kinds
import CrossRef.Proofs.Lookup.Extensionality
import CrossRef.Proofs.Signature.Strengthening
import CrossRef.Proofs.Compile.Packages
import CrossRef.Proofs.Path.Rebasing
import CrossRef.Proofs.Path.Dotted
