import MmorpgSimulator.Library.Run
import MmorpgSimulator.Library.Cells
import MmorpgSimulator.Library.Framing
import MmorpgSimulator.Server
import MmorpgSimulator.Parties
import MmorpgSimulator.PartyFrame
import MmorpgSimulator.PartyRuns
import MmorpgSimulator.KillSharing
import MmorpgSimulator.Belongings
import MmorpgSimulator.Accounts
import MmorpgSimulator.FrameConfinement
import MmorpgSimulator.Ledger
import MmorpgSimulator.QuestJournal
import MmorpgSimulator.QuestFrame
import MmorpgSimulator.Segmentation
import MmorpgSimulator.QuestRuns
import MmorpgSimulator.Frames
import MmorpgSimulator.Selections
import MmorpgSimulator.Progression
import MmorpgSimulator.CombatStats
import MmorpgSimulator.Holdings
import MmorpgSimulator.Worth
import MmorpgSimulator.DbConnection
import MmorpgSimulator.Library.Writes
import MmorpgSimulator.WriteQueue
import MmorpgSimulator.Client
import MmorpgSimulator.Views
import MmorpgSimulator.KillViews
import MmorpgSimulator.ProgressViews
import MmorpgSimulator.PartyNews
import MmorpgSimulator.Wire
import MmorpgSimulator.Invitations
import MmorpgSimulator.PartyViews
import MmorpgSimulator.Convergence
import MmorpgSimulator.Herd
import MmorpgSimulator.Standstill
import MmorpgSimulator.Bystanders
import MmorpgSimulator.Streams
import MmorpgSimulator.Entrance
import MmorpgSimulator.Ownership
import MmorpgSimulator.Library.Patches
import MmorpgSimulator.ItemViews
import MmorpgSimulator.Reselection
import MmorpgSimulator.AttendanceChecks
import MmorpgSimulator.Departures
import MmorpgSimulator.AttendanceViews
import MmorpgSimulator.Library.Simulation
import MmorpgSimulator.Relay
import MmorpgSimulator.NpcPool
import MmorpgSimulator.NpcMirrors
import MmorpgSimulator.Duels
import MmorpgSimulator.OtherPlayers
import MmorpgSimulator.Presence
import MmorpgSimulator.PresenceRuns
import MmorpgSimulator.HandleStates
import MmorpgSimulator.TimeZones
import MmorpgSimulator.Shop
import MmorpgSimulator.Levelling
import MmorpgSimulator.QuestRewards
import MmorpgSimulator.QuestPayments
import MmorpgSimulator.CharCreation
import MmorpgSimulator.Library.Scanning
import MmorpgSimulator.Loaders
import MmorpgSimulator.InventoryViews
import MmorpgSimulator.SlotRequests
import MmorpgSimulator.RoundTrips
import MmorpgSimulator.Logins
import MmorpgSimulator.Healing
import MmorpgSimulator.Targeting
import MmorpgSimulator.Whispers
import MmorpgSimulator.Rosters
import MmorpgSimulator.Copies
import MmorpgSimulator.ChatInput
import MmorpgSimulator.ClientSend
import MmorpgSimulator.Pieces
import MmorpgSimulator.ObjectText
import MmorpgSimulator.ItemFile
import MmorpgSimulator.Generator
import MmorpgSimulator.HeaderText
import MmorpgSimulator.HeaderParsing
import MmorpgSimulator.Drops
import MmorpgSimulator.Library.Layout
import MmorpgSimulator.Structs
import MmorpgSimulator.Cables
import MmorpgSimulator.QuestBoard
import MmorpgSimulator.QuestPanels
import MmorpgSimulator.PublicNews
import MmorpgSimulator.WellFormed
import MmorpgSimulator.Transcripts
import MmorpgSimulator.Sockets
