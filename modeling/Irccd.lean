import Irccd.Foundations.Runs
import Irccd.Foundations.Framing
import Irccd.Foundations.Bits
import Irccd.Foundations.Fifo
import Irccd.Foundations.Handles
import Irccd.Foundations.Traversal
import Irccd.Foundations.Terminated
import Irccd.Foundations.Segments
import Irccd.Foundations.Readers
import Irccd.Foundations.Lines
import Irccd.CString
import Irccd.Fault
import Irccd.Channel
import Irccd.Event
import Irccd.Unicode.Basic
import Irccd.Unicode.Codec
import Irccd.Unicode.Scan
import Irccd.Unicode.Data
import Irccd.Foundations.Bisection
import Irccd.Unicode.Tables
import Irccd.Util
import Irccd.Rule
import Irccd.RuleArrays
import Irccd.Nce
import Irccd.Conn.Msg
import Irccd.Conn.Parsing
import Irccd.Conn.Buffer
import Irccd.Conn.Basic
import Irccd.Conn.Io
import Irccd.Conn.Effects
import Irccd.Conn.Steps
import Irccd.Conn.Stream
import Irccd.Conn.Traffic
import Irccd.Conn.Links
import Irccd.Conn.Fifo
import Irccd.Conn.Descriptors
import Irccd.Conn.Sends
import Irccd.Conn.Endpoints
import Irccd.Server.Basic
import Irccd.Server.Handlers
import Irccd.Server.Replies
import Irccd.Server.Safety
import Irccd.Server.Whois
import Irccd.Server.Effects
import Irccd.Server.Rejoin
import Irccd.Bot.Basic
import Irccd.Bot.Rules
import Irccd.Bot.Commands
import Irccd.Bot.Reentry
import Irccd.Bot.Reentrant
import Irccd.Bot.Careless
import Irccd.Bot.Quiet
import Irccd.System.Basic
import Irccd.System.Coherent
import Irccd.System.Ready
import Irccd.System.Wakeup
import Irccd.System.Isolation
import Irccd.System.Rejoin
import Irccd.System.Events
import Irccd.System.Watchdog
import Irccd.Server.Channels
import Irccd.Server.Sending
import Irccd.Server.Actions
import Irccd.Server.Assertions
import Irccd.Js.Server
import Irccd.Js.Objects
import Irccd.Peer.Commands
import Irccd.Peer.Daemon
import Irccd.Js.Info
import Irccd.Js.Util
import Irccd.Peer.Handlers
import Irccd.Peer.Sends
import Irccd.Peer.Vars
import Irccd.Peer.Safety
import Irccd.Peer.Moves
import Irccd.Peer.Edits
import Irccd.Peer.Additions
import Irccd.Peer.Operations
import Irccd.Peer.Answers
import Irccd.Ctl.Watch
import Irccd.Ctl.Poll
import Irccd.Ctl.Listings
import Irccd.Ctl.Getopt
import Irccd.Ctl.Requests
import Irccd.Server.Identity
import Irccd.Server.Prefixes
import Irccd.Server.Names
import Irccd.Server.Membership
import Irccd.Server.Modes
import Irccd.Server.Registry
import Irccd.Server.Api
import Irccd.System.Lines
import Irccd.System.FrontEnds
import Irccd.System.Descriptors
import Irccd.Conf.Lexer
import Irccd.Conf.Queue
import Irccd.Foundations.Programs
import Irccd.Foundations.Writers
import Irccd.Conf.Parser
import Irccd.Conf.Sections
import Irccd.Conf.Grammar
import Irccd.Conf.Truncation
import Irccd.Conf.Printing
import Irccd.Conf.Layout
import Irccd.Conf.Description
import Irccd.Conf.Apply
import Irccd.Subst.Basic
import Irccd.Subst.Writes
import Irccd.Subst.Template
import Irccd.Subst.Lookups
import Irccd.Subst.Rendering
import Irccd.Subst.Unclosed
import Irccd.Subst.Attributes
import Irccd.Js.Constructor
import Irccd.Js.Directory
import Irccd.Js.Http
import Irccd.Js.Variables
import Irccd.Js.Finding
import Irccd.Js.Removal
import Irccd.Js.Timers
import Irccd.Js.File
import Irccd.Plugins.Basic
import Irccd.Plugins.Ask
import Irccd.Plugins.Listing
import Irccd.Plugins.Tictactoe
import Irccd.Plugins.Play
import Irccd.Foundations.Keyed
import Irccd.Foundations.Trials
import Irccd.Foundations.Clearing
import Irccd.Bot.Search
import Irccd.Bot.Lifetimes
import Irccd.Plugins.Roulette
import Irccd.Foundations.Draws
import Irccd.Plugins.Hangman
import Irccd.Plugins.Joke
import Irccd.Plugins.Selections
import Irccd.Plugins.History
import Irccd.Foundations.Replacing
import Irccd.Plugins.Links.Entities
import Irccd.Plugins.Links
import Irccd.Foundations.DoublyLinked
import Irccd.Peer.RuleList
import Irccd.Foundations.Counted
import Irccd.Js.References
import Irccd.Peer.Stream
import Irccd.Peer.Session
import Irccd.Peer.Delivery
import Irccd.Peer.Transport
import Irccd.Foundations.Fields
import Irccd.Ctl.Splitting
