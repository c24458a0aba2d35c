import SecretResolver.Reference.Json
import SecretResolver.Resolver
import SecretResolver.Scene
import SecretResolver.Settings.Document
import SecretResolver.Proofs.Template.Grammar
import SecretResolver.Proofs.Template.Scan
import SecretResolver.Proofs.Template.Compile
import SecretResolver.Proofs.Retry.Course
import SecretResolver.Proofs.Retry.Trace
import SecretResolver.Proofs.Resolver.Calls
import SecretResolver.Proofs.Scene.Passage
import SecretResolver.Proofs.Scene.Sending
import SecretResolver.Proofs.Http.Target
import SecretResolver.Proofs.Vault.Login
import SecretResolver.Proofs.Vault.Connect
import SecretResolver.Proofs.Vault.Discipline
import SecretResolver.Proofs.Resolver.Setup
import SecretResolver.Proofs.Template.Injectivity
import SecretResolver.Proofs.Resolver.Locations
import SecretResolver.Proofs.Resolver.Steps
import SecretResolver.Proofs.SecretsFile.Snapshot
import SecretResolver.Proofs.Resolver.Construction
import SecretResolver.Proofs.Settings.Agreement
import SecretResolver.Proofs.Settings.Choices
import SecretResolver.Proofs.Settings.Requirements
import SecretResolver.Proofs.Text.Blanks
import SecretResolver.Proofs.Text.Encoding
import SecretResolver.Proofs.Json.Spelling
import SecretResolver.Proofs.Json.Lexemes
import SecretResolver.Proofs.Json.Document
import SecretResolver.Proofs.Json.Fields
import SecretResolver.Proofs.Json.Members
import SecretResolver.Proofs.Vault.Decoding
import SecretResolver.Proofs.Vault.Outcomes
import SecretResolver.Proofs.Vault.Address
import SecretResolver.Proofs.Resolver.Stock
import SecretResolver.Proofs.Vault.Stock
import SecretResolver.Proofs.Resolver.Interchange
import SecretResolver.Proofs.Secrecy.Alike
import SecretResolver.Proofs.Secrecy.Replies
import SecretResolver.Proofs.Secrecy.Sessions
import SecretResolver.Proofs.Secrecy.Stores
import SecretResolver.Proofs.Secrecy.Lifetime
import SecretResolver.Proofs.Vault.Unwrapping
import SecretResolver.Proofs.Vault.Verbatim
import SecretResolver.Proofs.Vault.Filled
import SecretResolver.Proofs.Vault.Rotation
import SecretResolver.Proofs.Template.Joining
import SecretResolver.Proofs.Template.Nesting
import SecretResolver.Proofs.Resolver.References
import SecretResolver.Proofs.Template.Refusal
import SecretResolver.Proofs.Resolver.Texts
import SecretResolver.Proofs.Template.Probe
import SecretResolver.Proofs.Template.Concatenation
import SecretResolver.Proofs.Vault.HostPart
import SecretResolver.Proofs.Json.Unspelling
import SecretResolver.Proofs.Json.Consumed
import SecretResolver.Proofs.Json.Lexing
import SecretResolver.Proofs.SecretsFile.Contents
import SecretResolver.Proofs.SecretsFile.Keeping
import SecretResolver.Proofs.Vault.Seam
