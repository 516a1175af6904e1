import RecipientCallout.Callout.Basic
import RecipientCallout.Callout.Response
import RecipientCallout.Callout.Verdict
import RecipientCallout.CommandLine.Basic
import RecipientCallout.CommandLine.Help
import RecipientCallout.CommandLine.Parse
import RecipientCallout.Config.Basic
import RecipientCallout.Config.Decode
import RecipientCallout.Config.Fault
import RecipientCallout.Config.Validate
import RecipientCallout.Decimal.Binary64
import RecipientCallout.Directory.Entry
import RecipientCallout.Directory.Failure
import RecipientCallout.Directory.Prepared
import RecipientCallout.Directory.Service
import RecipientCallout.Directory.Settings
import RecipientCallout.Domain.Ascii
import RecipientCallout.Domain.Composition
import RecipientCallout.Domain.CompositionRuns
import RecipientCallout.Domain.Direction
import RecipientCallout.Domain.DirectionRuns
import RecipientCallout.Domain.Joining
import RecipientCallout.Domain.JoiningRuns
import RecipientCallout.Domain.Mapping
import RecipientCallout.Domain.MappingRuns
import RecipientCallout.Domain.Match
import RecipientCallout.Domain.Punycode
import RecipientCallout.Files.Store
import RecipientCallout.Files.Tree
import RecipientCallout.Filter.Escape
import RecipientCallout.Filter.Template
import RecipientCallout.Filter.Tree
import RecipientCallout.Ldap.Client
import RecipientCallout.Ldap.Script
import RecipientCallout.Ldap.Url
import RecipientCallout.Main
import RecipientCallout.Program
import RecipientCallout.Proofs.Callout.Answers
import RecipientCallout.Proofs.Callout.Configured
import RecipientCallout.Proofs.Callout.Passwords
import RecipientCallout.Proofs.Callout.Printed
import RecipientCallout.Proofs.Callout.Reached
import RecipientCallout.Proofs.Callout.Session
import RecipientCallout.Proofs.CommandLine.Address
import RecipientCallout.Proofs.Config.Accepted
import RecipientCallout.Proofs.Config.Fields
import RecipientCallout.Proofs.Config.Flaws
import RecipientCallout.Proofs.Config.Root
import RecipientCallout.Proofs.Config.Written
import RecipientCallout.Proofs.Directory.Attributes
import RecipientCallout.Proofs.Directory.Endpoints
import RecipientCallout.Proofs.Domain.LetterCase
import RecipientCallout.Proofs.Filter.Complete
import RecipientCallout.Proofs.Filter.Distinct
import RecipientCallout.Proofs.Filter.Filling
import RecipientCallout.Proofs.Filter.Grammar
import RecipientCallout.Proofs.Filter.Marked
import RecipientCallout.Proofs.Filter.Sound
import RecipientCallout.Proofs.Ldap.Attribution
import RecipientCallout.Proofs.Ldap.Conversation
import RecipientCallout.Proofs.Ldap.Credentials
import RecipientCallout.Proofs.Ldap.Encryption
import RecipientCallout.Proofs.Ldap.Operations
import RecipientCallout.Proofs.Program.Agreement
import RecipientCallout.Proofs.Program.Context
import RecipientCallout.Proofs.Program.Endings
import RecipientCallout.Proofs.Program.Secrets
import RecipientCallout.Proofs.Secrets.Alike
import RecipientCallout.Proofs.Secrets.Blocks
import RecipientCallout.Proofs.Secrets.Configs
import RecipientCallout.Proofs.Secrets.Keys
import RecipientCallout.Proofs.Secrets.Lines
import RecipientCallout.Proofs.Secrets.Numbers
import RecipientCallout.Proofs.Secrets.Texts
import RecipientCallout.Proofs.Secrets.Values
import RecipientCallout.Proofs.Secrets.Views
import RecipientCallout.Proofs.Steps
import RecipientCallout.Proofs.Text.Decimals
import RecipientCallout.Proofs.Text.Octets
import RecipientCallout.Proofs.Text.Separators
import RecipientCallout.Proofs.Toml.Entries
import RecipientCallout.Proofs.Toml.Lines
import RecipientCallout.Proofs.Toml.Notation
import RecipientCallout.Proofs.Toml.Numbers
import RecipientCallout.Proofs.Toml.Remainder
import RecipientCallout.Recipient
import RecipientCallout.Text.Blank
import RecipientCallout.Text.Hex
import RecipientCallout.Text.Hidden
import RecipientCallout.Text.Octets
import RecipientCallout.Text.Quoted
import RecipientCallout.Text.Runs
import RecipientCallout.Text.Split
import RecipientCallout.Toml.Document
import RecipientCallout.Toml.Fault
import RecipientCallout.Toml.Moment
import RecipientCallout.Toml.Node
import RecipientCallout.Toml.Number
import RecipientCallout.Toml.Quotation
import RecipientCallout.Toml.Scan
import RecipientCallout.Toml.Table
import RecipientCallout.Toml.Value
