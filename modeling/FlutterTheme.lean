import FlutterTheme.EventLoop
import FlutterTheme.Rely
import FlutterTheme.Ends
import FlutterTheme.Account
import FlutterTheme.Heap
import FlutterTheme.DocStore
import FlutterTheme.IntParse
import FlutterTheme.World
import FlutterTheme.Chat
import FlutterTheme.Group
import FlutterTheme.Broadcast
import FlutterTheme.Messaging
import FlutterTheme.Registry
import FlutterTheme.Evolution
import FlutterTheme.Effect
import FlutterTheme.ChatSafe
import FlutterTheme.BroadcastSafe
import FlutterTheme.Clients
import FlutterTheme.Routing
import FlutterTheme.Isolation
import FlutterTheme.Block
import FlutterTheme.BlockRecord
import FlutterTheme.Inbox
import FlutterTheme.BroadcastSession
import FlutterTheme.Delivery
import FlutterTheme.Cards
import FlutterTheme.CardFields
import FlutterTheme.Completes
import FlutterTheme.Conversation
import FlutterTheme.Convergence
import FlutterTheme.Actions
import FlutterTheme.Deeds
import FlutterTheme.ChatIds
import FlutterTheme.Receipts
import FlutterTheme.SeenEntries
import FlutterTheme.Push
import FlutterTheme.Screen
import FlutterTheme.RecipientList
import FlutterTheme.Login
import FlutterTheme.CallChannel
import FlutterTheme.CallEnd
import FlutterTheme.CallHistory
import FlutterTheme.CallDeeds
import FlutterTheme.GroupCall
import FlutterTheme.Pickup
import FlutterTheme.Evolving
import FlutterTheme.Uploads
import FlutterTheme.Promises
import FlutterTheme.LoginSafe
import FlutterTheme.LoginIdentity
import FlutterTheme.LoginSession
import FlutterTheme.Emails
import FlutterTheme.Exclusive
import FlutterTheme.Status
import FlutterTheme.StatusSafe
import FlutterTheme.StatusExpiry
import FlutterTheme.Widgets
import FlutterTheme.StatusPages
import FlutterTheme.StatusUpdate
import FlutterTheme.PhoneNumber
import FlutterTheme.Duties
import FlutterTheme.FanOut
import FlutterTheme.ContactList
import FlutterTheme.ChatLookup
import FlutterTheme.BroadcastCreation
import FlutterTheme.Machine
import FlutterTheme.GroupCreation
import FlutterTheme.Deletion
import FlutterTheme.GroupDeletion
import FlutterTheme.ChatDeletion
import FlutterTheme.BroadcastDeletion
import FlutterTheme.Separator
import FlutterTheme.Attachments
import FlutterTheme.TwoRuns
import FlutterTheme.Embed
import FlutterTheme.Presence
import FlutterTheme.Typing
import FlutterTheme.PresenceRecord
import FlutterTheme.ContactMessage
import FlutterTheme.Resumption
import FlutterTheme.Drafts
import FlutterTheme.ProfilePicture
import FlutterTheme.FirstSignIn
import FlutterTheme.CallCodec
import FlutterTheme.History
import FlutterTheme.VideoGrid
import FlutterTheme.CallTimer
import FlutterTheme.TextField
import FlutterTheme.GroupField
import FlutterTheme.GroupTyping
import FlutterTheme.StatusList
import FlutterTheme.GroupContacts
import FlutterTheme.Labels
import FlutterTheme.CallCounters
import FlutterTheme.Upkeep
import FlutterTheme.Loader
import FlutterTheme.Toggle
import FlutterTheme.Selection
import FlutterTheme.Greatest
import FlutterTheme.Stamps
import FlutterTheme.MemberNames
import FlutterTheme.StatusCodec
import FlutterTheme.AllContacts
import FlutterTheme.Location
import FlutterTheme.OneCall
import FlutterTheme.OneMessage
import FlutterTheme.OneWriter
import FlutterTheme.Transcript
import FlutterTheme.ChatScreens
import FlutterTheme.Repair
import FlutterTheme.Ticks
import FlutterTheme.Logs
import FlutterTheme.SignOut
import FlutterTheme.CallLog
import FlutterTheme.GroupImage
