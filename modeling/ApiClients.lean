import ApiClients.FileTree
import ApiClients.Session
import ApiClients.Main
import ApiClients.Proofs.Results
import ApiClients.Proofs.Text.ByteOrder
import ApiClients.Proofs.Api.Definition
import ApiClients.Proofs.Settings.Gate
import ApiClients.Proofs.Settings.Refusal
import ApiClients.Proofs.ErrorClass.Classification
import ApiClients.Proofs.ErrorClass.Undeclared
import ApiClients.Proofs.Client.Request
import ApiClients.Proofs.Client.Exchange
import ApiClients.Proofs.Service.Matching
import ApiClients.Proofs.Session.Effect
import ApiClients.Proofs.Session.Dispatch
import ApiClients.Proofs.Session.History
import ApiClients.Proofs.Session.Frozen
import ApiClients.Proofs.Session.Generations
import ApiClients.Proofs.Session.Matching
import ApiClients.Proofs.CommandLine.Summary
import ApiClients.Proofs.CommandLine.Check
import ApiClients.Proofs.CommandLine.Secrets
import ApiClients.Proofs.ErrorClass.Composition
import ApiClients.Proofs.Api.ErrorCodes
import ApiClients.Proofs.ErrorClass.Ancestry
import ApiClients.Proofs.ErrorClass.Canonical
import ApiClients.Proofs.Settings.Options
import ApiClients.Proofs.Settings.Forms
import ApiClients.Proofs.Settings.EmptyVariables
import ApiClients.Proofs.Settings.Seeding
import ApiClients.Proofs.CommandLine.Arguments
import ApiClients.Proofs.CommandLine.SettingLines
import ApiClients.Proofs.CommandLine.FileNames
