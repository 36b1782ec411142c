import OpenstackAdmission.Admission.Credentials
import OpenstackAdmission.Admission.Error
import OpenstackAdmission.Admission.Lookup
import OpenstackAdmission.Admission.Profile
import OpenstackAdmission.Admission.Review
import OpenstackAdmission.Admission.Shoot
import OpenstackAdmission.Checks.CloudProfile
import OpenstackAdmission.Checks.ControlPlane
import OpenstackAdmission.Checks.Credentials
import OpenstackAdmission.Checks.Infrastructure
import OpenstackAdmission.Checks.LoadBalancer
import OpenstackAdmission.Checks.NamespacedCloudProfile
import OpenstackAdmission.Checks.Networking
import OpenstackAdmission.Checks.ProviderImage
import OpenstackAdmission.Checks.TextField
import OpenstackAdmission.Checks.Worker
import OpenstackAdmission.Codec.Basic
import OpenstackAdmission.Codec.Error
import OpenstackAdmission.Codec.Record
import OpenstackAdmission.CommandLine.Arguments
import OpenstackAdmission.CommandLine.Documents
import OpenstackAdmission.CommandLine.Loading
import OpenstackAdmission.CommandLine.Verdict
import OpenstackAdmission.Config.CloudProfile
import OpenstackAdmission.Config.ControlPlane
import OpenstackAdmission.Config.Infrastructure
import OpenstackAdmission.Config.LoadBalancer
import OpenstackAdmission.Config.ProviderImage
import OpenstackAdmission.Config.Worker
import OpenstackAdmission.Decimal.Binary64
import OpenstackAdmission.Decimal.Shortest
import OpenstackAdmission.Dict.Basic
import OpenstackAdmission.Dict.Entries
import OpenstackAdmission.Images.Index
import OpenstackAdmission.Images.Matrix
import OpenstackAdmission.Json.Basic
import OpenstackAdmission.Json.Printer
import OpenstackAdmission.Json.Reader
import OpenstackAdmission.Main
import OpenstackAdmission.Manifest.Backup
import OpenstackAdmission.Manifest.Binding
import OpenstackAdmission.Manifest.CloudProfile
import OpenstackAdmission.Manifest.MachineImage
import OpenstackAdmission.Manifest.ObjectMeta
import OpenstackAdmission.Manifest.Reference
import OpenstackAdmission.Manifest.Resource
import OpenstackAdmission.Manifest.Secret
import OpenstackAdmission.Manifest.Shoot
import OpenstackAdmission.Manifest.Timestamp
import OpenstackAdmission.Manifest.TypeMeta
import OpenstackAdmission.Net.Address
import OpenstackAdmission.Net.Cidr
import OpenstackAdmission.Net.Host
import OpenstackAdmission.Net.Name
import OpenstackAdmission.Net.Name.Direction
import OpenstackAdmission.Net.Name.Label
import OpenstackAdmission.Net.Name.Mapping
import OpenstackAdmission.Net.Url
import OpenstackAdmission.Proofs.Admission.Constraints
import OpenstackAdmission.Proofs.Admission.Domain
import OpenstackAdmission.Proofs.Admission.Immutability
import OpenstackAdmission.Proofs.Admission.LoadBalancerClasses
import OpenstackAdmission.Proofs.Admission.Lookup
import OpenstackAdmission.Proofs.Admission.Namespaces
import OpenstackAdmission.Proofs.Admission.Parent
import OpenstackAdmission.Proofs.Admission.Resubmission
import OpenstackAdmission.Proofs.Admission.Review
import OpenstackAdmission.Proofs.Admission.SecretUsers
import OpenstackAdmission.Proofs.Admission.Shoot
import OpenstackAdmission.Proofs.Admission.UnknownPool
import OpenstackAdmission.Proofs.Checks.CloudProfile
import OpenstackAdmission.Proofs.Checks.Completeness
import OpenstackAdmission.Proofs.Checks.Credentials
import OpenstackAdmission.Proofs.Checks.Infrastructure
import OpenstackAdmission.Proofs.Checks.LoadBalancer
import OpenstackAdmission.Proofs.Checks.NamespacedCloudProfile
import OpenstackAdmission.Proofs.Checks.Offers
import OpenstackAdmission.Proofs.Checks.ProfilePlaces
import OpenstackAdmission.Proofs.Checks.ProviderImage
import OpenstackAdmission.Proofs.Checks.Reordering
import OpenstackAdmission.Proofs.Checks.Repetitions
import OpenstackAdmission.Proofs.Checks.ShootPlaces
import OpenstackAdmission.Proofs.Checks.Worker
import OpenstackAdmission.Proofs.Codec.Alike
import OpenstackAdmission.Proofs.Codec.RoundTrip
import OpenstackAdmission.Proofs.Codec.Yields
import OpenstackAdmission.Proofs.CommandLine.AllOrNothing
import OpenstackAdmission.Proofs.CommandLine.Rearrangement
import OpenstackAdmission.Proofs.Config.RoundTrip
import OpenstackAdmission.Proofs.Dict.Values
import OpenstackAdmission.Proofs.Images.Architectures
import OpenstackAdmission.Proofs.Images.Declarations
import OpenstackAdmission.Proofs.Images.Defaults
import OpenstackAdmission.Proofs.Images.Flavors
import OpenstackAdmission.Proofs.Images.Reordering
import OpenstackAdmission.Proofs.Images.Sides
import OpenstackAdmission.Proofs.Images.Unconverted
import OpenstackAdmission.Proofs.Manifest.RoundTrip
import OpenstackAdmission.Proofs.Net.AddressParts
import OpenstackAdmission.Proofs.Net.AddressText
import OpenstackAdmission.Proofs.Net.CidrText
import OpenstackAdmission.Proofs.Net.Containment
import OpenstackAdmission.Proofs.Net.Numerals
import OpenstackAdmission.Proofs.Net.ZeroRuns
import OpenstackAdmission.Proofs.Report.Census
import OpenstackAdmission.Proofs.Report.Items
import OpenstackAdmission.Proofs.Report.Places
import OpenstackAdmission.Proofs.Rules.Additional
import OpenstackAdmission.Proofs.Rules.Agreement
import OpenstackAdmission.Proofs.Rules.Axes
import OpenstackAdmission.Proofs.Rules.Dropping
import OpenstackAdmission.Proofs.Rules.Elsewhere
import OpenstackAdmission.Proofs.Rules.Exits
import OpenstackAdmission.Proofs.Rules.Insertion
import OpenstackAdmission.Proofs.Rules.Order
import OpenstackAdmission.Proofs.Rules.Precedence
import OpenstackAdmission.Proofs.Rules.Search
import OpenstackAdmission.Proofs.Rules.Supported
import OpenstackAdmission.Proofs.Versioned.Conversion
import OpenstackAdmission.Proofs.Versioned.Defaults
import OpenstackAdmission.Proofs.Versioned.NormalForm
import OpenstackAdmission.Proofs.Versioned.Refusal
import OpenstackAdmission.Proofs.Versioned.Return
import OpenstackAdmission.Report.Ascending
import OpenstackAdmission.Report.ErrorChain
import OpenstackAdmission.Report.FieldError
import OpenstackAdmission.Report.FieldPath
import OpenstackAdmission.Rules.Match
import OpenstackAdmission.Rules.Resolve
import OpenstackAdmission.Rules.Scoped
import OpenstackAdmission.Text.Base64
import OpenstackAdmission.Text.Blank
import OpenstackAdmission.Text.CodeTable
import OpenstackAdmission.Text.Combining
import OpenstackAdmission.Text.Composition
import OpenstackAdmission.Text.Direction
import OpenstackAdmission.Text.Duration
import OpenstackAdmission.Text.Hexadecimal
import OpenstackAdmission.Text.Joining
import OpenstackAdmission.Text.Normal
import OpenstackAdmission.Text.Printable
import OpenstackAdmission.Text.Punycode
import OpenstackAdmission.Text.Quoted
import OpenstackAdmission.Text.Split
import OpenstackAdmission.Text.Utf8
import OpenstackAdmission.Text.Uuid
import OpenstackAdmission.Time.Date
import OpenstackAdmission.Time.Fault
import OpenstackAdmission.Time.Reader
import OpenstackAdmission.Versioned.Basic
import OpenstackAdmission.Versioned.Conversion
import OpenstackAdmission.Versioned.Defaults
import OpenstackAdmission.Yaml.Document
import OpenstackAdmission.Yaml.Event
import OpenstackAdmission.Yaml.Event.Agenda
import OpenstackAdmission.Yaml.Event.Goal
import OpenstackAdmission.Yaml.Scalar
import OpenstackAdmission.Yaml.Source
import OpenstackAdmission.Yaml.SyntaxError
import OpenstackAdmission.Yaml.Token
import OpenstackAdmission.Yaml.Token.Block
import OpenstackAdmission.Yaml.Token.Folding
import OpenstackAdmission.Yaml.Token.Layout
import OpenstackAdmission.Yaml.Token.Plain
import OpenstackAdmission.Yaml.Token.Property
import OpenstackAdmission.Yaml.Token.Quoted
import OpenstackAdmission.Yaml.Token.Stream
import OpenstackAdmission.Yaml.Value
import OpenstackAdmission.Yaml.Value.Json
import OpenstackAdmission.Yaml.Value.Path
import OpenstackAdmission.Yaml.Value.Reader
import OpenstackAdmission.Proofs.Report.PathText
import OpenstackAdmission.Proofs.Rules.Patterns
import OpenstackAdmission.Proofs.CommandLine.Printed
