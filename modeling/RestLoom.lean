import RestLoom.Client.Call
import RestLoom.Client.Carrier
import RestLoom.Emit.Expansion
import RestLoom.Main
import RestLoom.Proofs.Outcome
import RestLoom.Proofs.Service.Rules
import RestLoom.Proofs.Service.Acceptance
import RestLoom.Proofs.Path.Template
import RestLoom.Proofs.Service.Accepted
import RestLoom.Proofs.Client.Contract
import RestLoom.Proofs.Percent.Basic
import RestLoom.Proofs.Text.Lines
import RestLoom.Proofs.Url.Punycode
import RestLoom.Proofs.Url.Variant
import RestLoom.Proofs.Url.Domain
import RestLoom.Proofs.Url.Digits
import RestLoom.Proofs.Url.Address
import RestLoom.Proofs.Url.Host
import RestLoom.Proofs.Url.Authority
import RestLoom.Proofs.Url.Segments
import RestLoom.Proofs.Url.Web
import RestLoom.Proofs.Path.Parts
import RestLoom.Proofs.Client.PathValues
import RestLoom.Proofs.Client.SameServer
import RestLoom.Proofs.Emit.ClientUnit
import RestLoom.Proofs.Client.Sharing
import RestLoom.Proofs.Layout.Rows
import RestLoom.Proofs.Emit.Independence
import RestLoom.Proofs.Emit.Accounts
import RestLoom.Proofs.Client.Polling
import RestLoom.Proofs.Client.Resolution
import RestLoom.Proofs.Client.Tokens
import RestLoom.Proofs.Emit.Halting
import RestLoom.Proofs.Emit.Expansion
import RestLoom.Proofs.Emit.Conditions
import RestLoom.Proofs.FileTree.Walk
import RestLoom.Proofs.Source.Advance
import RestLoom.Proofs.Source.Declared
import RestLoom.Proofs.Token.Spelled
import RestLoom.Proofs.FileTree.Around
import RestLoom.Proofs.Emit.Writing
import RestLoom.Proofs.CommandLine.Session
import RestLoom.Proofs.Emit.PathSource
import RestLoom.Proofs.Client.Normalized
import RestLoom.Proofs.Client.QueryPairs
import RestLoom.Proofs.Emit.Interruption
import RestLoom.Proofs.Emit.Flattening
import RestLoom.Proofs.Emit.Stripping
import RestLoom.Proofs.Emit.Atomic
import RestLoom.Proofs.Client.Endings
import RestLoom.Proofs.Client.Erasure
import RestLoom.Proofs.Client.RawNames
import RestLoom.Proofs.Latest
import RestLoom.Proofs.Client.Building
import RestLoom.Proofs.Client.Settings
import RestLoom.Proofs.Client.Wire
import RestLoom.Proofs.Emit.Recovery
import RestLoom.Proofs.Source.Reach
import RestLoom.Proofs.Emit.Siblings
import RestLoom.Proofs.Emit.Blocks
import RestLoom.Proofs.Client.LastWrite
import RestLoom.Proofs.Naming.Words
import RestLoom.Proofs.Percent.Escaped
import RestLoom.Proofs.Client.Method
