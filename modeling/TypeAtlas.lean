import TypeAtlas.Command.Perform
import TypeAtlas.Console.Log
import TypeAtlas.Declaration.ParameterList
import TypeAtlas.Declaration.Written
import TypeAtlas.Main
import TypeAtlas.Mapping.Source
import TypeAtlas.Page.Fetch
import TypeAtlas.Resolution.Session
import TypeAtlas.Tool.Call
import TypeAtlas.Proofs.Outcome
import TypeAtlas.Proofs.Signature.Stretch
import TypeAtlas.Proofs.Signature.Descent
import TypeAtlas.Proofs.Signature.Spelling
import TypeAtlas.Proofs.Signature.RoundTrip
import TypeAtlas.Proofs.Resolution.Course
import TypeAtlas.Proofs.Resolution.Linking
import TypeAtlas.Proofs.Resolution.Settling
import TypeAtlas.Proofs.Resolution.Fetching
import TypeAtlas.Proofs.Resolution.Distance
import TypeAtlas.Proofs.Resolution.Frontier
import TypeAtlas.Proofs.Resolution.Charting
import TypeAtlas.Proofs.Resolution.Reach
import TypeAtlas.Proofs.Resolution.Lineage
import TypeAtlas.Proofs.Resolution.Completion
import TypeAtlas.Proofs.Mapping.Coherence
import TypeAtlas.Proofs.Mapping.Transparency
import TypeAtlas.Proofs.Mapping.Structural
import TypeAtlas.Proofs.Resolution.Bounds
import TypeAtlas.Proofs.Resolution.Heeding
import TypeAtlas.Proofs.Signature.Cleaning
import TypeAtlas.Proofs.Resolution.Reading
import TypeAtlas.Proofs.Resolution.Tracing
import TypeAtlas.Proofs.Resolution.Rootless
import TypeAtlas.Proofs.Resolution.Loops
import TypeAtlas.Proofs.Resolution.Extraction
import TypeAtlas.Proofs.Signature.Likeness
import TypeAtlas.Proofs.Mapping.Aliases
import TypeAtlas.Proofs.Mapping.Synonyms
import TypeAtlas.Proofs.Mapping.Ownership
import TypeAtlas.Proofs.Mapping.Honouring
import TypeAtlas.Proofs.Signature.Arguments
import TypeAtlas.Proofs.Signature.Retention
import TypeAtlas.Proofs.Mapping.Payload
import TypeAtlas.Proofs.Mapping.Reloading
import TypeAtlas.Proofs.Location.Below
import TypeAtlas.Proofs.Resolution.Counterparts
import TypeAtlas.Proofs.Resolution.Mirroring
import TypeAtlas.Proofs.Resolution.Relocation
import TypeAtlas.Proofs.Mapping.Grounds
import TypeAtlas.Proofs.Mapping.Registration
import TypeAtlas.Proofs.Mapping.Uniqueness
import TypeAtlas.Proofs.Resolution.Precedence
import TypeAtlas.Proofs.Mapping.Priority
import TypeAtlas.Proofs.Resolution.Merging
import TypeAtlas.Proofs.Mapping.Announcement
import TypeAtlas.Proofs.Mapping.Placeholders
import TypeAtlas.Proofs.Resolution.Gathering
import TypeAtlas.Proofs.Declaration.ParameterLists
import TypeAtlas.Proofs.Signature.PageNames
import TypeAtlas.Proofs.Signature.Normalizing
import TypeAtlas.Proofs.Resolution.Alignment
import TypeAtlas.Proofs.Page.Enumerations
import TypeAtlas.Proofs.Signature.Partition
import TypeAtlas.Proofs.Text.Utf8
import TypeAtlas.Proofs.Mapping.Loading
