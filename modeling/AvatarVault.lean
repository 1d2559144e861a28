import AvatarVault.Sealed.Seal
import AvatarVault.Sealed.Open
import AvatarVault.Config.Load
import AvatarVault.Host.Connection
import AvatarVault.Host.Memory
import AvatarVault.File.System
import AvatarVault.Record.Store
import AvatarVault.Upload.Fleet
import AvatarVault.CommandLine.Run
import AvatarVault.Main
import AvatarVault.Proofs.Sealed.Format
import AvatarVault.Proofs.Sealed.Stream
import AvatarVault.Proofs.Sealed.Opening
import AvatarVault.Proofs.Sealed.RoundTrip
import AvatarVault.Proofs.Sealed.Integrity
import AvatarVault.Proofs.Sealed.Machine
import AvatarVault.Proofs.Sealed.Layout
import AvatarVault.Proofs.Sealed.Nonces
import AvatarVault.Proofs.Sealed.Verdict
import AvatarVault.Proofs.Sealed.Slices
import AvatarVault.Proofs.Sealed.Foreign
import AvatarVault.Proofs.Sealed.Lengths
import AvatarVault.Proofs.Json.RoundTrip
import AvatarVault.Proofs.File.Parts
import AvatarVault.Proofs.File.Tree
import AvatarVault.Proofs.File.Way
import AvatarVault.Proofs.File.Disk
import AvatarVault.Proofs.File.Machine
import AvatarVault.Proofs.Record.Codec
import AvatarVault.Proofs.Record.Persist
import AvatarVault.Proofs.Record.Store
import AvatarVault.Proofs.Record.Atomic
import AvatarVault.Proofs.Upload.Retry
import AvatarVault.Proofs.Upload.Success
import AvatarVault.Proofs.Upload.Attempt
import AvatarVault.Proofs.Upload.Settling
import AvatarVault.Proofs.Upload.Moves
import AvatarVault.Proofs.Upload.Cancellation
import AvatarVault.Proofs.Upload.Reports
import AvatarVault.Proofs.Upload.Alone
import AvatarVault.Proofs.Upload.Tracks
import AvatarVault.Proofs.Upload.Records
import AvatarVault.Proofs.Upload.Isolation
import AvatarVault.Proofs.Upload.Run
import AvatarVault.Proofs.Text.Blank
import AvatarVault.Proofs.Text.Base64
import AvatarVault.Proofs.Text.Canonical
import AvatarVault.Proofs.Key.Text
import AvatarVault.Proofs.Text.Hex
import AvatarVault.Proofs.Digest.Text
import AvatarVault.Proofs.Upload.Agreement
import AvatarVault.Proofs.Upload.Rejection
import AvatarVault.Proofs.Upload.Backoff
import AvatarVault.Proofs.Upload.Limits
import AvatarVault.Proofs.Upload.Schedule
import AvatarVault.Proofs.Upload.Elapsed
import AvatarVault.Proofs.Config.Load
import AvatarVault.Proofs.Upload.Configured
import AvatarVault.Proofs.Host.Objects
import AvatarVault.Proofs.CommandLine.Steps
import AvatarVault.Proofs.CommandLine.Decrypt
import AvatarVault.Proofs.Toml.Line
import AvatarVault.Proofs.Toml.Document
import AvatarVault.Proofs.Config.Fields
import AvatarVault.Proofs.Config.Codec
import AvatarVault.Proofs.Config.Partial
import AvatarVault.Proofs.Toml.Integers
import AvatarVault.Proofs.CommandLine.ShowConfig
import AvatarVault.Proofs.CommandLine.Needs
import AvatarVault.Proofs.CommandLine.Upload
