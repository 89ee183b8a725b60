import ContractScan.Network.Session
import ContractScan.Proofs.Network.Fetch
import ContractScan.Pattern.Lemmas
import ContractScan.Web.App
import ContractScan.Proofs.Chain.Activity
import ContractScan.Proofs.Network.Explorer
import ContractScan.Proofs.Analysis
import ContractScan.Proofs.Json.RoundTrip
import ContractScan.Proofs.Network.Facts
import ContractScan.Proofs.Source.Bundle
import ContractScan.Proofs.Source.Unbundle
import ContractScan.Proofs.Rule.Independence
import ContractScan.Proofs.Text.Lines
import ContractScan.Proofs.Pattern.Context
import ContractScan.Proofs.Pattern.Written
import ContractScan.Proofs.Rule.Excerpt
import ContractScan.Proofs.Pattern.Takes
import ContractScan.Proofs.Rule.Meaning
import ContractScan.Proofs.Rule.Window
import ContractScan.Proofs.Rule.Files
import ContractScan.Proofs.Chain.Address
import ContractScan.Proofs.Network.Requests
import ContractScan.Proofs.Network.Shares
import ContractScan.Proofs.Network.Agreement
import ContractScan.Proofs.Web.Outcome
import ContractScan.Proofs.Report
import ContractScan.Proofs.Network.Session
import ContractScan.Proofs.Network.Balance
import ContractScan.Proofs.Chain.Instant
import ContractScan.Proofs.Chain.Additivity
import ContractScan.Proofs.Text.Blank
import ContractScan.Proofs.Source.Tag
import ContractScan.Proofs.Source.TagLine
import ContractScan.Proofs.Source.Kind
import ContractScan.Proofs.Text.Case
import ContractScan.Proofs.Network.Gate
import ContractScan.Proofs.Network.Call
import ContractScan.Proofs.Network.Lookup
import ContractScan.Proofs.Wire.RoundTrip
import ContractScan.Proofs.Settings.Build
import ContractScan.Proofs.Settings.Cache
