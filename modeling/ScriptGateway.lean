import ScriptGateway.Main
import ScriptGateway.Proofs.Command.Comments
import ScriptGateway.Proofs.CommandLine.Preview
import ScriptGateway.Proofs.Dictionary.Redeclaration
import ScriptGateway.Proofs.Dictionary.Spelling
import ScriptGateway.Proofs.Gateway.Agreement
import ScriptGateway.Proofs.Gateway.Bodies
import ScriptGateway.Proofs.Gateway.Exchanges
import ScriptGateway.Proofs.Gateway.JsonBodies
import ScriptGateway.Proofs.Gateway.Kinds
import ScriptGateway.Proofs.Gateway.Writes
import ScriptGateway.Proofs.Loading
import ScriptGateway.Proofs.Naming.Identifiers
import ScriptGateway.Proofs.Naming.Stable
import ScriptGateway.Proofs.Naming.Variants
import ScriptGateway.Proofs.Path.Joining
import ScriptGateway.Proofs.Schema.Order
import ScriptGateway.Proofs.Schema.Rejection
import ScriptGateway.Proofs.Script.Delimiting
import ScriptGateway.Proofs.Script.Enclosure
import ScriptGateway.Proofs.Script.Numbers
import ScriptGateway.Proofs.Specifier.Addressing
import ScriptGateway.Proofs.Specifier.Building
import ScriptGateway.Proofs.Specifier.Quoting
import ScriptGateway.Proofs.Specifier.Respelling
