import DiscordBot.Bot.Client
import DiscordBot.Channel
import DiscordBot.Command.AppCommand
import DiscordBot.Command.Arguments
import DiscordBot.Command.Declaration
import DiscordBot.Command.NameRule
import DiscordBot.Command.Option
import DiscordBot.Command.Published
import DiscordBot.Command.Registered
import DiscordBot.Command.Registry
import DiscordBot.Command.Sync
import DiscordBot.CommandLine.Help
import DiscordBot.CommandLine.Level
import DiscordBot.CommandLine.Options
import DiscordBot.CommandLine.Perform
import DiscordBot.Component
import DiscordBot.ComponentRegistry
import DiscordBot.Config.Bot
import DiscordBot.Config.Check
import DiscordBot.Config.Commands
import DiscordBot.Config.Environment
import DiscordBot.Config.Kinds
import DiscordBot.Config.Validation
import DiscordBot.Config.View
import DiscordBot.Cooldown.SlidingWindow
import DiscordBot.Cooldown.ThrottleScope
import DiscordBot.Cooldown.Throttler
import DiscordBot.Decimal.Dyadic
import DiscordBot.Decimal.Integer
import DiscordBot.Decimal.Layout
import DiscordBot.Decimal.Reader
import DiscordBot.Decimal.Shortest
import DiscordBot.Dispatcher
import DiscordBot.Error
import DiscordBot.Gateway.Frame
import DiscordBot.Gateway.Run
import DiscordBot.Gateway.Session
import DiscordBot.Http.Client
import DiscordBot.Http.Redirect
import DiscordBot.Http.Request
import DiscordBot.Http.Status
import DiscordBot.Interaction
import DiscordBot.Invite
import DiscordBot.Json.Basic
import DiscordBot.Json.Form
import DiscordBot.Json.Member
import DiscordBot.Json.Nested
import DiscordBot.Json.Number
import DiscordBot.Json.Printer
import DiscordBot.Json.Token
import DiscordBot.Json.Tree
import DiscordBot.Main
import DiscordBot.Message
import DiscordBot.Proofs.Command.Agreement
import DiscordBot.Proofs.Command.Nested
import DiscordBot.Proofs.Command.NormalForm
import DiscordBot.Proofs.Command.Payload
import DiscordBot.Proofs.Command.QualifiedName
import DiscordBot.Proofs.Command.ReadBack
import DiscordBot.Proofs.Component.Handlers
import DiscordBot.Proofs.Config.Cooldowns
import DiscordBot.Proofs.Config.Environment
import DiscordBot.Proofs.Config.Loading
import DiscordBot.Proofs.Config.Registration
import DiscordBot.Proofs.Config.Replies
import DiscordBot.Proofs.Config.Substitution
import DiscordBot.Proofs.Config.Token
import DiscordBot.Proofs.Config.TokenLine
import DiscordBot.Proofs.Config.UnsetToken
import DiscordBot.Proofs.Config.Validation
import DiscordBot.Proofs.Cooldown.Calls
import DiscordBot.Proofs.Cooldown.Limit
import DiscordBot.Proofs.Cooldown.Separation
import DiscordBot.Proofs.Cooldown.Waits
import DiscordBot.Proofs.Cooldown.Window
import DiscordBot.Proofs.Decimal.Numeral
import DiscordBot.Proofs.Decimal.WholeFloat
import DiscordBot.Proofs.Dispatch.Arguments
import DiscordBot.Proofs.Dispatch.Calls
import DiscordBot.Proofs.Dispatch.Handed
import DiscordBot.Proofs.Dispatch.Handling
import DiscordBot.Proofs.Dispatch.Posting
import DiscordBot.Proofs.Gateway.Addresses
import DiscordBot.Proofs.Gateway.Connections
import DiscordBot.Proofs.Gateway.Handshake
import DiscordBot.Proofs.Gateway.Heartbeats
import DiscordBot.Proofs.Gateway.Past
import DiscordBot.Proofs.Gateway.Turns
import DiscordBot.Proofs.Http.Pacing
import DiscordBot.Proofs.Http.Retries
import DiscordBot.Proofs.Json.Faithful
import DiscordBot.Proofs.Json.Fits
import DiscordBot.Proofs.Json.ReadBack
import DiscordBot.Proofs.Json.Scalars
import DiscordBot.Proofs.Published.Groups
import DiscordBot.Proofs.Published.Leaves
import DiscordBot.Proofs.Published.Limits
import DiscordBot.Proofs.Published.Names
import DiscordBot.Proofs.Published.Nesting
import DiscordBot.Proofs.Published.Permission
import DiscordBot.Proofs.Published.ReadBack
import DiscordBot.Proofs.RateLimit.Bookkeeping
import DiscordBot.Proofs.RateLimit.ClockRange
import DiscordBot.Proofs.RateLimit.History
import DiscordBot.Proofs.RateLimit.Waiting
import DiscordBot.Proofs.Reencoding.Commands
import DiscordBot.Proofs.Reencoding.Components
import DiscordBot.Proofs.Reencoding.Guilds
import DiscordBot.Proofs.Reencoding.Kinds
import DiscordBot.Proofs.Reencoding.Objects
import DiscordBot.Proofs.Registry.Errors
import DiscordBot.Proofs.Registry.Lookup
import DiscordBot.Proofs.Registry.Reachable
import DiscordBot.Proofs.Registry.Rules
import DiscordBot.Proofs.Reply.Rendering
import DiscordBot.Proofs.Reply.Template
import DiscordBot.Proofs.Rest.Program
import DiscordBot.Proofs.Rest.Talk
import DiscordBot.Proofs.Snowflake.Forms
import DiscordBot.Proofs.Snowflake.Parts
import DiscordBot.Proofs.Snowflake.Text
import DiscordBot.Proofs.Sync.Converges
import DiscordBot.Proofs.Sync.Leftovers
import DiscordBot.Proofs.Sync.ListStore
import DiscordBot.Proofs.Sync.Once
import DiscordBot.Proofs.Sync.Order
import DiscordBot.Proofs.Sync.Outcome
import DiscordBot.Proofs.Sync.Progress
import DiscordBot.Proofs.Sync.Repeats
import DiscordBot.Proofs.Sync.Store
import DiscordBot.Proofs.Time.Calendar
import DiscordBot.Proofs.Time.Nanoseconds
import DiscordBot.Proofs.Time.ReadBack
import DiscordBot.Proofs.Time.Seconds
import DiscordBot.Proofs.Toml.Exchange
import DiscordBot.Proofs.Toml.Lines
import DiscordBot.Proofs.Toml.Quoted
import DiscordBot.Proofs.Toml.Scanning
import DiscordBot.Proofs.Toml.Values
import DiscordBot.RateLimit
import DiscordBot.Ready
import DiscordBot.Reply.Static
import DiscordBot.Reply.Template
import DiscordBot.Rest.Routes
import DiscordBot.Rest.Session
import DiscordBot.Snowflake
import DiscordBot.Text.Basic
import DiscordBot.Text.WordChar
import DiscordBot.Time.Calendar
import DiscordBot.Time.Clock
import DiscordBot.Time.Duration
import DiscordBot.Time.Timestamp
import DiscordBot.Toml.Quoted
import DiscordBot.Toml.Reader
import DiscordBot.Toml.Record
import DiscordBot.Toml.Scalar
import DiscordBot.Toml.Value
import DiscordBot.Url.Address
import DiscordBot.Url.Basic
import DiscordBot.Url.Idna.Context
import DiscordBot.Url.Idna.Domain
import DiscordBot.Url.Idna.Punycode
import DiscordBot.Url.Idna.Table
import DiscordBot.Url.Percent
import DiscordBot.Url.Text
import DiscordBot.User
