import KnxIp.Client
import KnxIp.Network.Memory
import KnxIp.Network.Script
import KnxIp.Network.Windows
import KnxIp.Polling
import KnxIp.Proofs.Frame.Acceptance
import KnxIp.Settings.Properties
import KnxIp.Simulation
import KnxIp.Proofs.Correlation.History
import KnxIp.Proofs.Frame.Written
import KnxIp.Proofs.Channel.Dispatch
import KnxIp.Proofs.Network.Progress
import KnxIp.Proofs.Session.Starting
import KnxIp.Proofs.Session.Progress
import KnxIp.Proofs.Session.Lifecycle
import KnxIp.Proofs.Session.Teardown
import KnxIp.Proofs.Network.Requests
import KnxIp.Proofs.Session.StartUp
import KnxIp.Proofs.StatusPool.History
import KnxIp.Proofs.Channel.Reaction
import KnxIp.Proofs.Network.TelegramStream
import KnxIp.Proofs.Network.Answers
import KnxIp.Interplay
import KnxIp.Proofs.Network.Hearing
import KnxIp.Proofs.Interplay.Freshness
import KnxIp.Proofs.Interplay.Numbers
import KnxIp.Proofs.Interplay.Helpers
import KnxIp.Proofs.Network.Likeness
import KnxIp.Proofs.Session.Likeness
import KnxIp.Proofs.Interplay.Restart
import KnxIp.Proofs.Interplay.Sequential
import KnxIp.Proofs.Observer.Delivery
import KnxIp.Proofs.Network.Windows
import KnxIp.Proofs.Session.Transmission
import KnxIp.Proofs.Reading.Frame
import KnxIp.Proofs.Traffic.Balance
import KnxIp.Proofs.Reading.Blocks
import KnxIp.Proofs.Reading.Description
import KnxIp.Proofs.Telegram.Assembly
import KnxIp.Proofs.Session.Vigil
import KnxIp.Proofs.Writing.Writes
import KnxIp.Proofs.Writing.Blocks
import KnxIp.Proofs.Writing.Frame
import KnxIp.Network.Receiver
import KnxIp.Proofs.Description.Device
import KnxIp.Proofs.Description.Sequence
import KnxIp.Proofs.Network.Receiver
import KnxIp.Proofs.Settings.Refusal
import KnxIp.Proofs.Client.Inquiry
import KnxIp.Proofs.Session.Destinations
import KnxIp.Proofs.Polling.Looks
import KnxIp.Clock
import KnxIp.Settings.Waits
import KnxIp.Proofs.Frame.TotalLength
import KnxIp.Proofs.Settings.Deadlines
import KnxIp.Proofs.Address.Notation
