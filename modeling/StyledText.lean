import StyledText.Main
import StyledText.Font.FixedPitch
import StyledText.Json.Reader
import StyledText.Session
import StyledText.Proofs.Faces
import StyledText.Proofs.KeptFaces
import StyledText.Proofs.Registrations
import StyledText.Proofs.Draft
import StyledText.Proofs.History
import StyledText.Proofs.Grammar
import StyledText.Proofs.Writing
import StyledText.Proofs.LineFeeds
import StyledText.Proofs.Edges
import StyledText.Proofs.Hull
import StyledText.Proofs.Extension
import StyledText.Proofs.Values
import StyledText.Proofs.Enclosure
import StyledText.Proofs.Consistency
import StyledText.Proofs.Keys
import StyledText.Proofs.Contents
import StyledText.Proofs.Expansion
import StyledText.Proofs.Commands
import StyledText.Proofs.Coherence
import StyledText.Proofs.Placement
import StyledText.Proofs.LastWriter
import StyledText.Proofs.Failure
import StyledText.Proofs.Centering
import StyledText.Proofs.Plane
import StyledText.Proofs.Slots
import StyledText.Proofs.Refinement
import StyledText.Proofs.HexForms
import StyledText.Proofs.ColorTexts
import StyledText.Proofs.Concatenation
import StyledText.Proofs.Joining
import StyledText.Proofs.LoadedSizes
import StyledText.Proofs.OptionValues
import StyledText.Proofs.Precedence
import StyledText.Proofs.Growth
import StyledText.Proofs.Rounding
import StyledText.Proofs.Measuring
import StyledText.Proofs.ByteSteps
import StyledText.Proofs.ByteWalk
