import ChatCommands.Dispatcher.Run
import ChatCommands.LogText
import ChatCommands.Main
import ChatCommands.Proofs.Catalog.Reach
import ChatCommands.Proofs.Command.Lenient
import ChatCommands.Proofs.Command.Omitted
import ChatCommands.Proofs.Command.Raw
import ChatCommands.Proofs.Command.Rendering
import ChatCommands.Proofs.Command.Reserved
import ChatCommands.Proofs.Command.Strict
import ChatCommands.Proofs.Command.Tail
import ChatCommands.Proofs.Cooldown.History
import ChatCommands.Proofs.Dispatch.Access
import ChatCommands.Proofs.Dispatch.Execution
import ChatCommands.Proofs.Dispatch.Outcomes
import ChatCommands.Proofs.Duration.Brief
import ChatCommands.Proofs.Lanes.Order
import ChatCommands.Proofs.Lanes.Timing
import ChatCommands.Proofs.LeadIn.Stripping
import ChatCommands.Proofs.Pages.Expiry
import ChatCommands.Proofs.Pages.Interleaving
import ChatCommands.Proofs.Parameter.Listing
import ChatCommands.Proofs.Resolution.Registration
import ChatCommands.Proofs.Resolution.Reported
import ChatCommands.Proofs.Timeout.Calls
import ChatCommands.Proofs.Timer.Ends
import ChatCommands.Proofs.Waiter.Delivery
import ChatCommands.Proofs.Token.Partition
import ChatCommands.Proofs.Token.Rounds
import ChatCommands.Proofs.Timeout.Stopping
import ChatCommands.Proofs.Waiter.Stranded
import ChatCommands.Proofs.Timer.Settled
import ChatCommands.Proofs.Console.Erase
import ChatCommands.Proofs.Console.Waits
import ChatCommands.Proofs.Console.Books
import ChatCommands.Proofs.Console.Order
import ChatCommands.Proofs.Console.Acts
import ChatCommands.Proofs.Console.Asking
import ChatCommands.Proofs.Switch.Cutting
import ChatCommands.Proofs.Timer.Sending
import ChatCommands.Proofs.Timer.Sweep
import ChatCommands.Proofs.Timer.Upkeep
