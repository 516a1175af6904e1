import RecipientCallout.Directory.Settings
import RecipientCallout.Domain.Match
import RecipientCallout.Filter.Template
import RecipientCallout.Text.Octets

/-!
# Configuration of the callout

What a configuration says: where the directory is, who asks it, what is searched, which domain is
accepted. Nothing that is secret or local has a default.
-/

namespace RecipientCallout
open RecipientCallout.Text

/-- Whether accepted recipients have their mailbox here or are relayed onwards. -/
inductive AcceptMode where
  | here
  | elsewhere
  deriving DecidableEq, Repr

/-- Recipients have their mailboxes here by default. -/
instance : Inhabited AcceptMode := ⟨.here⟩

/-- The configuration of a callout. -/
structure Config where
  host : String
  port : Option UInt16
  bindDn : String
  bindPassword : Option String
  bindPasswordFile : Option RawText
  userSearchBase : String
  folderSearchBase : String
  acceptedDomain : String
  networkTimeoutSeconds : Nat
  transport : Directory.Transport
  allowInvalidCerts : Bool
  domainMatch : Domain.Comparison
  userFilter : String
  folderFilter : String
  proxyPrefix : String
  mailAttribute : String
  acceptMode : AcceptMode
  deriving DecidableEq

namespace Config

/-- The fields of a configuration. -/
inductive Field where
  | host
  | port
  | bindDn
  | bindPassword
  | bindPasswordFile
  | userSearchBase
  | folderSearchBase
  | acceptedDomain
  | networkTimeoutSeconds
  | transport
  | allowInvalidCerts
  | domainMatch
  | userFilter
  | folderFilter
  | proxyPrefix
  | mailAttribute
  | acceptMode
  deriving DecidableEq, Repr

/-- All fields, in the order in which they are listed to users. -/
def Field.all : List Field :=
  [.host, .port, .bindDn, .bindPassword, .bindPasswordFile, .userSearchBase, .folderSearchBase,
    .acceptedDomain, .networkTimeoutSeconds, .transport, .allowInvalidCerts, .domainMatch, .userFilter,
    .folderFilter, .proxyPrefix, .mailAttribute, .acceptMode]

/-- The key of a field in configuration documents. -/
def Field.key : Field → String
  | .host => "host"
  | .port => "port"
  | .bindDn => "bind_dn"
  | .bindPassword => "bind_password"
  | .bindPasswordFile => "bind_password_file"
  | .userSearchBase => "user_search_base"
  | .folderSearchBase => "folder_search_base"
  | .acceptedDomain => "accepted_domain"
  | .networkTimeoutSeconds => "network_timeout_seconds"
  | .transport => "tls"
  | .allowInvalidCerts => "allow_invalid_certs"
  | .domainMatch => "domain_match"
  | .userFilter => "user_filter"
  | .folderFilter => "folder_filter"
  | .proxyPrefix => "proxy_prefix"
  | .mailAttribute => "mail_attribute"
  | .acceptMode => "accept_mode"

/-- The field that a key names. -/
def Field.ofKey? (key : String) : Option Field := Field.all.find? (·.key = key)

/-- The list of fields is complete. -/
theorem Field.mem_all (f : Field) : f ∈ Field.all := by
  cases f <;> decide

/-- How long the directory may take by default. -/
def defaultTimeoutSeconds : Nat := 5

/-- What stands before addresses in the directory by default. -/
def defaultProxyPrefix : String := "smtp:"

/-- The attribute that names the mailbox by default. -/
def defaultMailAttribute : String := "mail"

/-- The port of the directory: the given one, or the usual one. -/
def effectivePort (c : Config) : UInt16 := c.port.getD c.transport.defaultPort

/-- What is needed to reach the directory. -/
def directorySettings (c : Config) : Directory.Settings :=
  { host := c.host
    port := c.effectivePort
    transport := c.transport
    allowInvalidCerts := c.allowInvalidCerts
    timeoutSeconds := c.networkTimeoutSeconds }

end Config
end RecipientCallout
