import ConsentBanner.Action
import ConsentBanner.Action.Run
import ConsentBanner.Category
import ConsentBanner.Config
import ConsentBanner.Decimal.Digits
import ConsentBanner.Decimal.Layout
import ConsentBanner.Decimal.Reading
import ConsentBanner.Engine.Decision
import ConsentBanner.Engine.Detection
import ConsentBanner.Engine.Run
import ConsentBanner.Engine.State
import ConsentBanner.Error
import ConsentBanner.Filter
import ConsentBanner.Flow.Basic
import ConsentBanner.Flow.Bridge
import ConsentBanner.Flow.Primitive
import ConsentBanner.Flow.Resolve
import ConsentBanner.Flow.Run
import ConsentBanner.Flow.World
import ConsentBanner.Handler.Basic
import ConsentBanner.Handler.Run
import ConsentBanner.Handler.Traits
import ConsentBanner.Host
import ConsentBanner.Json.Decode
import ConsentBanner.Json.DecodeError
import ConsentBanner.Json.Reader
import ConsentBanner.Json.Skipped
import ConsentBanner.Json.Value
import ConsentBanner.Json.Writer
import ConsentBanner.Keyed
import ConsentBanner.Launch
import ConsentBanner.Markup.Builder
import ConsentBanner.Markup.Document
import ConsentBanner.Markup.Foreign
import ConsentBanner.Markup.Names
import ConsentBanner.Markup.Reference
import ConsentBanner.Markup.ReferenceData
import ConsentBanner.Markup.Rules
import ConsentBanner.Markup.Rules.Body
import ConsentBanner.Markup.Rules.Foreign
import ConsentBanner.Markup.Rules.Outline
import ConsentBanner.Markup.Rules.Select
import ConsentBanner.Markup.Rules.Table
import ConsentBanner.Markup.Token
import ConsentBanner.Markup.Tree
import ConsentBanner.Message
import ConsentBanner.Page.Call
import ConsentBanner.Page.Hiding
import ConsentBanner.Page.Pointer
import ConsentBanner.Page.Snapshot
import ConsentBanner.Page.Style
import ConsentBanner.Pattern.Basic
import ConsentBanner.Pattern.CharSet
import ConsentBanner.Pattern.Reader
import ConsentBanner.Proofs.Action.Categories
import ConsentBanner.Proofs.Action.Consent
import ConsentBanner.Proofs.Action.ForEach
import ConsentBanner.Proofs.Action.Grounded
import ConsentBanner.Proofs.Action.Scope
import ConsentBanner.Proofs.Action.WaitCss
import ConsentBanner.Proofs.Bridge.Desk
import ConsentBanner.Proofs.Bridge.History
import ConsentBanner.Proofs.Bridge.Table
import ConsentBanner.Proofs.Engine.Completion
import ConsentBanner.Proofs.Engine.Contest
import ConsentBanner.Proofs.Engine.Decisions
import ConsentBanner.Proofs.Engine.Detection
import ConsentBanner.Proofs.Engine.Errand
import ConsentBanner.Proofs.Engine.Exclusion
import ConsentBanner.Proofs.Engine.Failure
import ConsentBanner.Proofs.Engine.Gating
import ConsentBanner.Proofs.Engine.Outline
import ConsentBanner.Proofs.Engine.Passage
import ConsentBanner.Proofs.Engine.Phases
import ConsentBanner.Proofs.Engine.Prehide
import ConsentBanner.Proofs.Engine.Race
import ConsentBanner.Proofs.Engine.Reversal
import ConsentBanner.Proofs.Engine.Roster
import ConsentBanner.Proofs.Engine.Schedule
import ConsentBanner.Proofs.Engine.Search
import ConsentBanner.Proofs.Engine.Session
import ConsentBanner.Proofs.Engine.SetUp
import ConsentBanner.Proofs.Engine.Steady
import ConsentBanner.Proofs.Engine.Terms
import ConsentBanner.Proofs.Engine.Trace
import ConsentBanner.Proofs.Engine.Visit
import ConsentBanner.Proofs.Engine.Waits
import ConsentBanner.Proofs.Engine.Winner
import ConsentBanner.Proofs.Flow.Adequacy
import ConsentBanner.Proofs.Flow.Alike
import ConsentBanner.Proofs.Flow.Alone
import ConsentBanner.Proofs.Flow.Awaited
import ConsentBanner.Proofs.Flow.Confined
import ConsentBanner.Proofs.Flow.Consulted
import ConsentBanner.Proofs.Flow.Enactment
import ConsentBanner.Proofs.Flow.Ending
import ConsentBanner.Proofs.Flow.Faced
import ConsentBanner.Proofs.Flow.Failing
import ConsentBanner.Proofs.Flow.Grounded
import ConsentBanner.Proofs.Flow.Heats
import ConsentBanner.Proofs.Flow.Part
import ConsentBanner.Proofs.Flow.Recital
import ConsentBanner.Proofs.Flow.Rules
import ConsentBanner.Proofs.Flow.Running
import ConsentBanner.Proofs.Flow.Settled
import ConsentBanner.Proofs.Flow.Stage
import ConsentBanner.Proofs.Flow.Story
import ConsentBanner.Proofs.Flow.Turn
import ConsentBanner.Proofs.Flow.Unfolding
import ConsentBanner.Proofs.Flow.Warranted
import ConsentBanner.Proofs.Flow.Watched
import ConsentBanner.Proofs.Handler.Modest
import ConsentBanner.Proofs.Handler.Quiet
import ConsentBanner.Proofs.Handler.Routines
import ConsentBanner.Proofs.Host.Course
import ConsentBanner.Proofs.Host.Jobs
import ConsentBanner.Proofs.Host.Milestones
import ConsentBanner.Proofs.Host.SelfTest
import ConsentBanner.Proofs.Host.Service
import ConsentBanner.Proofs.Json.RoundTrip
import ConsentBanner.Proofs.Lists
import ConsentBanner.Proofs.Page.Arrangement
import ConsentBanner.Proofs.Page.Boxes
import ConsentBanner.Proofs.Page.Checked
import ConsentBanner.Proofs.Page.Described
import ConsentBanner.Proofs.Page.Display
import ConsentBanner.Proofs.Page.Liveness
import ConsentBanner.Proofs.Page.Nesting
import ConsentBanner.Proofs.Page.Order
import ConsentBanner.Proofs.Page.Still
import ConsentBanner.Proofs.Page.Styles
import ConsentBanner.Proofs.Query.Filters
import ConsentBanner.Proofs.Query.Pairs
import ConsentBanner.Proofs.Rehearsal.Alike
import ConsentBanner.Proofs.Rehearsal.Outlook
import ConsentBanner.Proofs.Rehearsal.Playing
import ConsentBanner.Proofs.Rehearsal.Polling
import ConsentBanner.Proofs.Rehearsal.Sequence
import ConsentBanner.Proofs.Rehearsal.Still
import ConsentBanner.Proofs.Rule.Detectors
import ConsentBanner.Proofs.Rule.Faithful
import ConsentBanner.Proofs.Rule.Meaning
import ConsentBanner.Proofs.Rule.Protocol
import ConsentBanner.Proofs.Rule.Sorting
import ConsentBanner.Proofs.Store.Places
import ConsentBanner.Proofs.Store.Settings
import ConsentBanner.Proofs.Store.Transcript
import ConsentBanner.Proofs.Text.Sigmas
import ConsentBanner.Proofs.Vendor.Airbnb
import ConsentBanner.Proofs.Vendor.Recollection
import ConsentBanner.Proofs.Vendor.Sourcepoint
import ConsentBanner.Proofs.Vendor.TrustArc
import ConsentBanner.Proofs.Vendor.Uniconsent
import ConsentBanner.Query
import ConsentBanner.Rehearsal.Agenda
import ConsentBanner.Rehearsal.Basic
import ConsentBanner.Rehearsal.Reading
import ConsentBanner.Rehearsal.Run
import ConsentBanner.Rule.Config
import ConsentBanner.Rule.Delivery
import ConsentBanner.Rule.Methods
import ConsentBanner.Rule.Outline
import ConsentBanner.Rule.Run
import ConsentBanner.Rule.Set
import ConsentBanner.Rule.Step
import ConsentBanner.RunContext
import ConsentBanner.Script
import ConsentBanner.Selector.Basic
import ConsentBanner.Selector.Reader
import ConsentBanner.Selector.Token
import ConsentBanner.Sink
import ConsentBanner.Store.Basic
import ConsentBanner.Store.Disk
import ConsentBanner.Store.Settings
import ConsentBanner.Text.Blank
import ConsentBanner.Text.CaseData
import ConsentBanner.Text.GeneralCategory
import ConsentBanner.Text.GeneralCategoryData
import ConsentBanner.Text.Lowercase
import ConsentBanner.Text.Quoted
import ConsentBanner.Text.ScriptData
import ConsentBanner.Timing
import ConsentBanner.Url.Basic
import ConsentBanner.Url.Host
import ConsentBanner.Vendor.Airbnb
import ConsentBanner.Vendor.ConsentManager
import ConsentBanner.Vendor.Conversant
import ConsentBanner.Vendor.Cookiebot
import ConsentBanner.Vendor.Evidon
import ConsentBanner.Vendor.Klaro
import ConsentBanner.Vendor.OneTrust
import ConsentBanner.Vendor.Routines
import ConsentBanner.Vendor.Sourcepoint
import ConsentBanner.Vendor.TrustArc
import ConsentBanner.Vendor.Uniconsent
