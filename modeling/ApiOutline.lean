import ApiOutline.Main
import ApiOutline.Proofs.Operations
import ApiOutline.Proofs.Name.Free
import ApiOutline.Text.Identifier
import ApiOutline.Proofs.Name.Identifier
import ApiOutline.Proofs.Walk
import ApiOutline.Proofs.Roster
import ApiOutline.Proofs.Services
import ApiOutline.Proofs.MethodNames
import ApiOutline.Proofs.Text.Letter
import ApiOutline.Proofs.Translation.Basic
import ApiOutline.Proofs.Value.Entries
import ApiOutline.Proofs.Translation.Decode
import ApiOutline.Proofs.Appending
import ApiOutline.Proofs.Rearranging
import ApiOutline.Proofs.Strictness
import ApiOutline.Proofs.References
import ApiOutline.Proofs.Parameter.Derived
import ApiOutline.Proofs.Methods
import ApiOutline.Proofs.Parameter.Places
import ApiOutline.Proofs.Parameter.Constraints
import ApiOutline.Proofs.Consistency
import ApiOutline.Proofs.SharedParameters
import ApiOutline.Proofs.Selection
import ApiOutline.Proofs.Skipped
import ApiOutline.Proofs.Endpoints
import ApiOutline.Proofs.Shown
import ApiOutline.Proofs.Parameter.Kept
import ApiOutline.Proofs.Value.Fits
import ApiOutline.Proofs.HandedOut
import ApiOutline.Proofs.Preservation
import ApiOutline.Proofs.Nameless
import ApiOutline.Proofs.Options
import ApiOutline.Proofs.Command.Delivery
import ApiOutline.Proofs.Text.Utf8
import ApiOutline.Proofs.Toml.Quoted
import ApiOutline.Proofs.Settings
import ApiOutline.Proofs.Command.Given
import ApiOutline.Proofs.Command.Saved
import ApiOutline.Proofs.Name.WordPattern
import ApiOutline.Proofs.Name.Words
import ApiOutline.Proofs.Name.Path
import ApiOutline.Proofs.Name.Settled
import ApiOutline.Proofs.Told
import ApiOutline.Proofs.ReferenceForms
import ApiOutline.Proofs.Groups
import ApiOutline.Proofs.Version.Front
import ApiOutline.Proofs.Version.Printed
import ApiOutline.Proofs.Version.Range
import ApiOutline.Proofs.Media.Types
import ApiOutline.Proofs.Media.Methods
import ApiOutline.Proofs.Name.CamelCase
import ApiOutline.Proofs.Found
import ApiOutline.Proofs.Command.Reported
import ApiOutline.Proofs.Detection
import ApiOutline.Proofs.Name.Taken
