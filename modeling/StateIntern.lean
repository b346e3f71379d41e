import StateIntern.Tag.Offsets
import StateIntern.Conjunction.Meaning
import StateIntern.Engine.Listing
import StateIntern.Engine.Recorded
import StateIntern.Engine.Faults
import StateIntern.Cache.Workspace
import StateIntern.Main
import StateIntern.Proofs.Maps
import StateIntern.Proofs.Memo
import StateIntern.Proofs.Operation
import StateIntern.Proofs.Registry
import StateIntern.Proofs.Slots
import StateIntern.Proofs.Bounded
import StateIntern.Proofs.Answers
import StateIntern.Proofs.Interning
import StateIntern.Proofs.Canonical
import StateIntern.Proofs.Printing
import StateIntern.Proofs.Key
import StateIntern.Proofs.Forest
import StateIntern.Proofs.Entailment
import StateIntern.Proofs.Copies
import StateIntern.Proofs.Divergence
import StateIntern.Proofs.Sharing
import StateIntern.Proofs.Parts
import StateIntern.Proofs.Shape
import StateIntern.Proofs.Solutions
import StateIntern.Proofs.Renaming
import StateIntern.Proofs.Derivation
import StateIntern.Proofs.Finality
import StateIntern.Proofs.Failure
import StateIntern.Proofs.Lookup
import StateIntern.Proofs.Counting
import StateIntern.Proofs.ByteOrder
import StateIntern.Proofs.Ownership
import StateIntern.Proofs.Requests
import StateIntern.Proofs.Batch
import StateIntern.Proofs.Printability
import StateIntern.Proofs.Acceptance
import StateIntern.Proofs.Tagging
import StateIntern.Proofs.Rewriting
import StateIntern.Proofs.FirstQueries
import StateIntern.Proofs.Merge
import StateIntern.Proofs.Meet
import StateIntern.Proofs.Reserved
import StateIntern.Proofs.Comparison
import StateIntern.Proofs.Climbing
import StateIntern.Proofs.Tally
import StateIntern.Proofs.Schedule
import StateIntern.Proofs.Walk
