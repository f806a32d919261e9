import DemurrageToken.Base64
import DemurrageToken.Binary64.Basic
import DemurrageToken.Binary64.Shortest
import DemurrageToken.Binary64.Style
import DemurrageToken.Charset.Basic
import DemurrageToken.Charset.Big5
import DemurrageToken.Charset.Big5Supplement
import DemurrageToken.Charset.Chinese
import DemurrageToken.Charset.Escapes
import DemurrageToken.Charset.Gb18030
import DemurrageToken.Charset.Gb2312
import DemurrageToken.Charset.Gbk
import DemurrageToken.Charset.Grid
import DemurrageToken.Charset.Iso2022
import DemurrageToken.Charset.Japanese
import DemurrageToken.Charset.JisX0208
import DemurrageToken.Charset.JisX0212
import DemurrageToken.Charset.JisX0213
import DemurrageToken.Charset.Korean
import DemurrageToken.Charset.KsX1001
import DemurrageToken.Charset.Names
import DemurrageToken.Charset.Piece
import DemurrageToken.Charset.Tables
import DemurrageToken.Charset.Utf7
import DemurrageToken.Charset.Windows31J
import DemurrageToken.CommandLine.Command
import DemurrageToken.CommandLine.Console
import DemurrageToken.CommandLine.Help
import DemurrageToken.CommandLine.Request
import DemurrageToken.CommandLine.Run
import DemurrageToken.CommandLine.Usage
import DemurrageToken.CommandLine.Words
import DemurrageToken.Contract.Answer
import DemurrageToken.Contract.Call
import DemurrageToken.Contract.Handle
import DemurrageToken.Deflate.Basic
import DemurrageToken.Deflate.Block
import DemurrageToken.Deflate.Checksum
import DemurrageToken.Deflate.Format
import DemurrageToken.Deflate.PrefixCode
import DemurrageToken.DomainName.Allowed
import DemurrageToken.DomainName.Basic
import DemurrageToken.DomainName.Label
import DemurrageToken.Entries
import DemurrageToken.Fee
import DemurrageToken.Json.Access
import DemurrageToken.Json.Basic
import DemurrageToken.Json.Bytes
import DemurrageToken.Json.Display
import DemurrageToken.Json.Numerals
import DemurrageToken.Json.Equality
import DemurrageToken.Json.Reader
import DemurrageToken.Json.Writer
import DemurrageToken.Log
import DemurrageToken.Main
import DemurrageToken.Message
import DemurrageToken.Node.Client
import DemurrageToken.Node.ContentCoding
import DemurrageToken.Node.ContentType
import DemurrageToken.Node.Response
import DemurrageToken.Node.Wire
import DemurrageToken.Operation
import DemurrageToken.Outcome
import DemurrageToken.Payload
import DemurrageToken.Percent
import DemurrageToken.Settings.Environment
import DemurrageToken.Settings.Expansion
import DemurrageToken.Settings.File
import DemurrageToken.Settings.Load
import DemurrageToken.Signature
import DemurrageToken.Text.Ascii
import DemurrageToken.Text.Basic
import DemurrageToken.Text.Blank
import DemurrageToken.Text.Category
import DemurrageToken.Text.Closest
import DemurrageToken.Text.CombiningClass
import DemurrageToken.Text.Composed
import DemurrageToken.Text.Decomposition
import DemurrageToken.Text.Digit
import DemurrageToken.Text.Direction
import DemurrageToken.Text.Integer
import DemurrageToken.Text.Joining
import DemurrageToken.Text.Lowercase
import DemurrageToken.Text.Name
import DemurrageToken.Text.NameTable
import DemurrageToken.Text.Printable
import DemurrageToken.Text.Punycode
import DemurrageToken.Text.Quoted
import DemurrageToken.Text.Script
import DemurrageToken.Text.Utf8
import DemurrageToken.Text.Wide
import DemurrageToken.Url.Basic
import DemurrageToken.Url.Host
import DemurrageToken.Url.Join
import DemurrageToken.Url.Reference
import DemurrageToken.Url.Site
import DemurrageToken.Proofs.Base64
import DemurrageToken.Proofs.Entries
import DemurrageToken.Proofs.JsonGrammar
import DemurrageToken.Proofs.Except
import DemurrageToken.Proofs.JsonScalars
import DemurrageToken.Proofs.JsonReading
import DemurrageToken.Proofs.Binary64Rounding
import DemurrageToken.Proofs.JsonNumbers
import DemurrageToken.Proofs.JsonWriting
import DemurrageToken.Proofs.Messages
import DemurrageToken.Proofs.PayloadRoundTrip
import DemurrageToken.Proofs.SettingsExpansion
import DemurrageToken.Proofs.SettingsFrame
import DemurrageToken.Proofs.SettingsReferences
import DemurrageToken.Proofs.WrittenSettings
import DemurrageToken.Proofs.Percent
import DemurrageToken.Proofs.Integers
import DemurrageToken.Proofs.UrlParts
import DemurrageToken.Proofs.UrlAuthorities
import DemurrageToken.Proofs.UrlHosts
import DemurrageToken.Proofs.SmartQuery
import DemurrageToken.Proofs.DomainNames
import DemurrageToken.Proofs.JsonEquality
import DemurrageToken.Proofs.Signatures
import DemurrageToken.Proofs.ContractCalls
import DemurrageToken.Proofs.WireForms
import DemurrageToken.Proofs.Sessions
import DemurrageToken.Proofs.BaseRequests
import DemurrageToken.Proofs.PlainBases
import DemurrageToken.Proofs.RequestSites
import DemurrageToken.Proofs.NodeAnswers
import DemurrageToken.Proofs.CommandWords
import DemurrageToken.Proofs.CommandRequests
import DemurrageToken.Proofs.ResolvedSettings
import DemurrageToken.Proofs.CommandRuns
import DemurrageToken.Proofs.CommandSettings
import DemurrageToken.Proofs.ShownConfiguration
import DemurrageToken.Proofs.BrokenLines
import DemurrageToken.Proofs.StrictBase64
import DemurrageToken.Proofs.EmbeddedPayloads
import DemurrageToken.Proofs.IndentedJson
import DemurrageToken.Proofs.PrintedAnswers
import DemurrageToken.Proofs.CommandEndings
import DemurrageToken.Proofs.RefusedSettings
import DemurrageToken.Proofs.ScriptJson
import DemurrageToken.Proofs.JsonDefects
import DemurrageToken.Proofs.Utf8Defects
import DemurrageToken.Proofs.RejectedPayloads
import DemurrageToken.Proofs.UrlPaths
import DemurrageToken.Proofs.ContractRoutes
import DemurrageToken.Proofs.TransportNoise
import DemurrageToken.Proofs.CallSpellings
import DemurrageToken.Proofs.Binary64Values
import DemurrageToken.Proofs.ExactEquality
