import Audience.Access
import Audience.Bandit.Arm
import Audience.Bandit.Draw
import Audience.Bandit.Model
import Audience.Bandit.Selection
import Audience.Config.Basic
import Audience.Config.Document
import Audience.Config.Load
import Audience.Dict
import Audience.Embedding.Event
import Audience.Embedding.Model
import Audience.Embedding.WordVectors
import Audience.Engine
import Audience.Error
import Audience.Hash.Base64
import Audience.Hash.Blake3
import Audience.Hash.Digest
import Audience.Hash.Words
import Audience.Intent.Extract
import Audience.Intent.History
import Audience.Intent.Model
import Audience.Intent.Resource
import Audience.Intent.Score
import Audience.Intent.Trail
import Audience.Json.Decode
import Audience.Json.Parser
import Audience.Json.Printer
import Audience.Json.Token
import Audience.Json.Value
import Audience.Keyword
import Audience.Log
import Audience.Models
import Audience.Number.Double
import Audience.Number.Nearest
import Audience.Number.Numeral
import Audience.Number.Power
import Audience.Number.Real
import Audience.Number.Shortest
import Audience.Op
import Audience.Page.Classifier
import Audience.Page.Model
import Audience.Page.Ranking
import Audience.Page.Window
import Audience.Profile
import Audience.Proofs.Calendar
import Audience.Proofs.Dictionary
import Audience.Proofs.Digits
import Audience.Proofs.HistoryCodec
import Audience.Proofs.JsonText
import Audience.Proofs.JsonTokens
import Audience.Proofs.Operations
import Audience.Proofs.StoreView
import Audience.Proofs.TimeStamp
import Audience.Segment
import Audience.Slot
import Audience.Store.Backing
import Audience.Store.Basic
import Audience.Store.ClientState
import Audience.Store.Database
import Audience.Store.EventLog
import Audience.Store.Migration
import Audience.Text.Alphanumeric
import Audience.Text.Blank
import Audience.Text.Compose
import Audience.Text.Direction
import Audience.Text.Joiner
import Audience.Text.Lowercase
import Audience.Text.Mark
import Audience.Text.Ranges
import Audience.Text.Table
import Audience.Text.Token
import Audience.Text.Utf8
import Audience.Time.Civil
import Audience.Time.Instant
import Audience.Time.Stamp
import Audience.Toml.Parser
import Audience.Toml.Scalar
import Audience.Toml.Text
import Audience.Toml.Tree
import Audience.Toml.Value
import Audience.Web.Domain
import Audience.Web.Domain.Mapping
import Audience.Web.Host
import Audience.Web.Ipv4
import Audience.Web.Ipv6
import Audience.Web.Path
import Audience.Web.Percent
import Audience.Web.Punycode
import Audience.Web.Query
import Audience.Web.SearchEngine
import Audience.Web.Url
import Audience.Proofs.Lists
import Audience.Proofs.Sorting
import Audience.Proofs.SignalRuns
import Audience.Proofs.LiveScores
import Audience.Proofs.StoreDifference
import Audience.Proofs.StoredValues
import Audience.Proofs.ModelRequests
import Audience.Proofs.LockedUpdate
import Audience.Proofs.Interleaving
import Audience.Proofs.Uninterrupted
import Audience.Proofs.OptOutRace
import Audience.Proofs.AlikeStores
import Audience.Proofs.FreshStart
import Audience.Proofs.EventRetention
import Audience.Proofs.SurvivingEvents
import Audience.Proofs.StampOrder
import Audience.Proofs.EventReadBack
import Audience.Proofs.SharedModel
import Audience.Proofs.Rounding
import Audience.Proofs.NumberRange
import Audience.Proofs.ShortestDecimal
import Audience.Proofs.NumberText
import Audience.Proofs.ArmsCodec
import Audience.Proofs.SharedArms
import Audience.Proofs.Isolation
import Audience.Proofs.WindowCodec
import Audience.Proofs.BoundedValues
import Audience.Proofs.Contributions
import Audience.Proofs.EngineBounds
import Audience.Proofs.SpoiledState
import Audience.Proofs.LoadedResources
import Audience.Proofs.SchemaUpgrade
import Audience.Proofs.WindowReadBack
import Audience.Proofs.WholeNumbers
import Audience.Proofs.BanditAccounts
import Audience.Proofs.Draws
import Audience.Proofs.Choices
import Audience.Proofs.ByteOrder
import Audience.Proofs.Prediction
import Audience.Proofs.Clearing
import Audience.Proofs.RecentPages
import Audience.Proofs.Retries
import Audience.Proofs.GreatestRewards
import Audience.Proofs.SummedInterests
import Audience.Proofs.SearchSignals
import Audience.Proofs.ScoreDecay
import Audience.Proofs.HostLabels
import Audience.Proofs.StorableSignals
import Audience.Proofs.PageClasses
import Audience.Proofs.SingleCounts
import Audience.Proofs.EmbeddingShape
import Audience.Proofs.SettledCharacters
import Audience.Proofs.WordRuns
import Audience.Proofs.SearchForm
import Audience.Proofs.JoinedTokens
import Audience.Proofs.EmbeddingBytes
import Audience.Proofs.FirstAppearances
import Audience.Proofs.SegmentHierarchy
